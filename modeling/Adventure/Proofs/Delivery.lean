import Adventure.Proofs.Arming
import Adventure.Proofs.CueLog
import Adventure.Proofs.Indicator
import Adventure.Proofs.Standing

/-!
# The delivery of assets

A track or a background is known with its files only after these were requested, a batch was started
behind the requests, and the event of that batch was handled.  A track that is known is not
requested again, and while a stage waits, another one may become known with the same track; but the
files that are known are always files that were requested.

## Main definitions

* `Asset`: a track or a background, with its files
* `Session.Fetches`: an asset was requested, and a batch was started next
* `Session.Outstanding`: the assets of the stages that wait were requested with their batches
* `Session.Brings`: a step in which the batch of an asset arrives
* `Session.Arriving`: a batch was not started yet, or is waited for
* `Call.Handles`: a call handles an event
* `Asset.Delivered`: how an asset has become known

## Main results

* `Underway.outstanding`: what waits was requested
* `Underway.brings`: an asset becomes known in a step that brings it
* `Call.handles_of_arriving`: a batch arrives in a call that handles its event
* `Played.delivered`: all assets that are known were delivered
-/

namespace Adventure

open Session

/-! ## Assets -/

/-- A track with its files, or the background of a scene with its file. -/
inductive Asset where
  | track (key : String) (urls : List String)
  | backdrop (scene url : String)

namespace Asset

/-- The cue that requests the files. -/
def request : Asset → Cue
  | track key urls => .requestAudio key urls
  | backdrop scene url => .requestImage scene url

/-- The asset is known with these files. -/
def IsKnown (a : Asset) (s : Session) : Prop :=
  match a with
  | track key urls => s.catalog.audio.get? key = some urls
  | backdrop scene url => s.catalog.backgrounds.get? scene = some url

/-- The asset is a track, and a track is known under its key, with these files or others. -/
def IsTaken (a : Asset) (c : Catalog) : Prop :=
  match a with
  | track key _ => c.audio.contains key = true
  | backdrop .. => False

/-- A stage declares the asset. -/
def IsOf (a : Asset) (p : Parameters) (stage : Stage) : Prop :=
  match a with
  | track key urls => ∃ files, stage.audio.get? key = some files ∧ urls = p.audioUrls files
  | backdrop scene url => ∃ d ∈ stage.scenes, d.id = scene ∧
      ∃ file, d.background = some file ∧ url = p.backgroundUrl file

variable {a : Asset} {stage : Stage} {p : Parameters} {s t : Session}

/-- A stage that declares assets waits for them. -/
theorem IsOf.needsPreload (h : a.IsOf p stage) : stage.needsPreload = true := by
  unfold Stage.needsPreload
  cases a with
  | track key urls =>
    obtain ⟨files, hfiles, -⟩ := h
    have hentry := Table.mem_entries_iff.2 hfiles
    have hnonempty : stage.audio.isEmpty = false := by
      unfold Table.isEmpty
      exact List.isEmpty_eq_false_iff.2 (List.ne_nil_of_mem hentry)
    rw [hnonempty]
    rfl
  | backdrop scene url =>
    obtain ⟨d, hd, -, file, hfile, -⟩ := h
    rw [Bool.or_eq_true]
    exact .inr (List.any_eq_true.2 ⟨d, hd, by rw [hfile]; rfl⟩)

theorem IsTaken.mono {c d : Catalog} (h : a.IsTaken c) (hw : c.Within d) : a.IsTaken d := by
  cases a with
  | track => exact hw.contains_audio h
  | backdrop => exact h

theorem IsKnown.congr (h : a.IsKnown s) (hc : t.catalog = s.catalog) : a.IsKnown t := by
  unfold IsKnown
  rwa [hc]

/-- Where neither tracks nor backgrounds are known, no asset is. -/
theorem not_isKnown_of_bare (a : Asset) (haudio : s.catalog.audio = ∅)
    (hbackgrounds : s.catalog.backgrounds = ∅) : ¬a.IsKnown s := by
  intro h
  cases a with
  | track => cases (congrArg (Table.get? · _) haudio).symm.trans h
  | backdrop => cases (congrArg (Table.get? · _) hbackgrounds).symm.trans h

theorem not_isKnown_begun (a : Asset) (s : Session) (id : Uuid) (world : World) :
    ¬a.IsKnown (s.begun id world) := by
  apply a.not_isKnown_of_bare <;> simp [begun, Catalog.addArrows_eq]

/-- A track keeps its files. -/
theorem IsTaken.isKnown (h : a.IsTaken s.catalog) (hw : s.catalog.Within t.catalog)
    (ht : a.IsKnown t) : a.IsKnown s := by
  cases a with
  | track key urls =>
    obtain ⟨known, hknown⟩ := Table.contains_iff.1 h
    obtain rfl := Option.some.inj ((hw.audio hknown).symm.trans ht)
    exact hknown
  | backdrop => cases h

/-- **What becomes known with a stage**, the stage declares. -/
theorem isOf_of_finished {scenes : List Scene} (hscenes : s.resolve [] stage.scenes = .ok scenes)
    (hnot : ¬a.IsKnown s) (h : a.IsKnown (s.finished stage scenes)) :
    a.IsOf s.catalog.parameters stage := by
  cases a with
  | track key urls =>
    rcases Catalog.audio_learnAll_cases h with hknown | hof
    · exact absurd hknown hnot
    · exact hof
  | backdrop scene url =>
    rcases Catalog.backgrounds_learnAll_cases h with hknown | ⟨r, hr, hid, file, hfile, hurl⟩
    · exact absurd hknown hnot
    · -- A scene that inherits keeps its own background.
      obtain ⟨d, hd, hbecomes⟩ := (resolve_ok hscenes).1 r hr
      rw [hbecomes.eq] at hid hfile
      exact ⟨d, hd, hid, file, hfile, hurl⟩

end Asset

/-! ## What was requested -/

namespace Session

variable {a : Asset} {s t u : Session} {stage : Stage} {batch : Nat} {request : Cue}

/-- A request was given, and the next batch that was started behind it is this one. -/
def Fetches (s : Session) (batch : Nat) (request : Cue) : Prop :=
  ∃ before between after, s.log = before ++ request :: (between ++ .startBatch batch :: after) ∧
    ∀ c ∈ between, c.batch? = none

/-- The assets of a stage were requested, before a batch, unless a track was known already. -/
def Orders (s : Session) (batch : Nat) (stage : Stage) : Prop :=
  ∀ a : Asset, a.IsOf s.catalog.parameters stage →
    a.IsTaken s.catalog ∨ s.Fetches batch a.request

/-- The assets of each stage that waits for a batch were requested before it. -/
def Outstanding (s : Session) : Prop :=
  ∀ e ∈ s.pendingLoads, ∀ stage, s.stage e.2 = .ok stage → s.Orders e.1 stage

theorem Fetches.mono (h : s.Fetches batch request) (hlog : s.log <+: t.log) :
    t.Fetches batch request := by
  obtain ⟨before, between, after, hsplit, hbetween⟩ := h
  obtain ⟨rest, hrest⟩ := hlog
  refine ⟨before, between, after ++ rest, ?_, hbetween⟩
  rw [← hrest, hsplit]
  simp

theorem Orders.mono (h : s.Orders batch stage) (hlog : s.log <+: t.log)
    (hc : s.catalog.Within t.catalog) : t.Orders batch stage := by
  intro a ha
  rw [hc.parameters] at ha
  exact (h a ha).imp (fun h => h.mono hc) fun h => h.mono hlog

/-- **The cues of a stage that comes to wait** request each asset whose place is not taken. -/
theorem request_mem_assetCues (ha : a.IsOf s.catalog.parameters stage)
    (hfree : ¬a.IsTaken s.catalog) : a.request ∈ s.assetCues stage := by
  cases a with
  | track key urls =>
    obtain ⟨files, hfiles, rfl⟩ := ha
    refine List.mem_append_right _
      (List.mem_flatMap.2 ⟨(key, files), Table.mem_entries_iff.2 hfiles, ?_⟩)
    have hcues : s.trackCues (key, files) =
        [.requestAudio key (s.catalog.parameters.audioUrls files)] := if_neg hfree
    rw [hcues]
    exact .head _
  | backdrop scene url =>
    obtain ⟨d, hd, rfl, file, hfile, rfl⟩ := ha
    refine List.mem_append_left _ (List.mem_flatMap.2 ⟨d, hd, ?_⟩)
    rw [imageCues, hfile]
    exact .head _

theorem orders_preloading (s : Session) (stage : Stage) :
    (s.preloading stage).Orders s.batchCount stage := by
  intro a ha
  by_cases htaken : a.IsTaken s.catalog
  · exact .inl htaken
  · have hrequested : a.request ∈ s.assetCues stage := request_mem_assetCues ha htaken
    obtain ⟨before, between, hcues⟩ := List.append_of_mem hrequested
    refine .inr ⟨s.log ++ before, between, [], ?_, fun c hc => ?_⟩
    · rw [log_preloading, hcues]
      simp
    · -- No batch is started among the requests.
      refine (fits_assetCues s stage s.catalog c ?_).batch?
      rw [hcues]
      exact List.mem_append_right _ (.tail _ hc)

/-- **What waits behind a step** has waited before it, or is a stage whose batch was started. -/
theorem Step.waits (h : s.Step t) :
    t.batchCount = s.batchCount ∧ (∀ e ∈ t.pendingLoads, e ∈ s.pendingLoads) ∨
      ∃ (u : Session) (stage : Stage), t = u.preloading stage ∧ u.batchCount = s.batchCount ∧
        u.pendingLoads = s.pendingLoads ∧ u.stage stage.id = .ok stage := by
  have hquiet : ∀ {t : Session}, s.Quiet t →
      t.batchCount = s.batchCount ∧ ∀ e ∈ t.pendingLoads, e ∈ s.pendingLoads :=
    fun h => ⟨h.batchCount, fun e he => h.pendingLoads ▸ he⟩
  cases h with
  | move hm =>
    cases hm.loads with
    | quiet h => exact .inl (hquiet h)
    | @preload u id stage h hstage =>
      obtain rfl := stage_id hstage
      exact .inr ⟨u.requested stage.id, stage, rfl, h.batchCount, h.pendingLoads, hstage⟩
    | load h =>
      have hsame := hquiet h
      exact .inl hsame
    | complete => exact .inl ⟨rfl, fun e he => mem_of_mem_dropWaiting he⟩
  | halt hh =>
    cases hh.loadFails with
    | quiet h => exact .inl (hquiet h)
    | unresolved h =>
      have hsame := hquiet h
      exact .inl hsame
    | incomplete => exact .inl ⟨rfl, fun e he => mem_of_mem_dropWaiting he⟩

/-- **A step keeps what was requested**, as it only adds to the log. -/
theorem Outstanding.step (hs : s.Outstanding) (h : s.Step t) (hlog : s.log <+: t.log) :
    t.Outstanding := by
  have hold : ∀ e ∈ s.pendingLoads, ∀ stage, t.stage e.2 = .ok stage → t.Orders e.1 stage := by
    intro e he stage hstage
    rw [stage_congr h.extends.world] at hstage
    exact (hs e he stage hstage).mono hlog h.extends.catalog
  rcases h.waits with ⟨-, hwaits⟩ | ⟨u, stage, rfl, -, hwaits, hstage⟩
  · exact fun e he => hold e (hwaits e he)
  · intro e he other hother
    rcases List.mem_append.1 he with he | he
    · exact hold e (hwaits ▸ he) other hother
    · obtain rfl := List.mem_singleton.1 he
      obtain rfl : stage = other := Except.ok.inj (hstage.symm.trans hother)
      exact orders_preloading u stage

/-- A step in which the batch arrives for which an asset was requested, and the stage that has
waited for it becomes known. -/
inductive Brings (a : Asset) (batch : Nat) (t : Session) : Session → Prop where
  | intro {id : String} {stage : Stage} {scenes : List Scene} (fetched : t.Fetches batch a.request)
      (waits : waiting? (.issued batch) t.pendingLoads = some id) (found : t.stage id = .ok stage)
      (resolved : (t.reported (.issued batch)).resolve [] stage.scenes = .ok scenes) :
      Brings a batch t ((t.reported (.issued batch)).finished stage scenes)

theorem Brings.step (h : s.Brings a batch t) : s.Step t := by
  obtain ⟨-, waits, found, resolved⟩ := h
  exact .move (.complete waits found resolved)

/-- **An asset becomes known** with the batch for which it was requested. -/
theorem Outstanding.brings (hs : s.Outstanding) (hstep : s.Step t) (hnot : ¬a.IsKnown s)
    (ht : a.IsKnown t) : ∃ batch, s.Brings a batch t := by
  have hwithin := hstep.extends.catalog
  rcases hstep.learns with ⟨hc, -⟩ | ⟨stage, u, scenes, hu, hscenes, rfl⟩
  · exact absurd (ht.congr hc.symm) hnot
  · have hof : a.IsOf u.catalog.parameters stage :=
      Asset.isOf_of_finished hscenes (fun h => hnot (h.congr hu.catalog.symm)) ht
    cases hu with
    | asked _ _ hneeds => cases hneeds.symm.trans hof.needsPreload
    | @arrived ticket id hwaits hstage =>
      obtain ⟨batch, rfl, hmem⟩ := mem_of_waiting? hwaits
      rcases hs _ hmem stage hstage a hof with htaken | hfetched
      · exact absurd (htaken.isKnown hwithin ht) hnot
      · exact ⟨batch, hfetched, hwaits, hstage, hscenes⟩

/-! ## Batches that arrive -/

/-- A batch was not started yet, or a stage waits for it. -/
def Arriving (s : Session) (batch : Nat) : Prop :=
  s.batchCount ≤ batch ∨ batch ∈ s.pendingLoads.map Prod.fst

/-- No step starts a batch again. -/
theorem Step.arriving_of (h : s.Step t) (ht : t.Arriving batch) : s.Arriving batch := by
  rcases h.waits with ⟨hcount, hwaits⟩ | ⟨u, stage, rfl, hcount, hwaits, -⟩
  · rcases ht with ht | ht
    · exact .inl (hcount ▸ ht)
    · obtain ⟨e, he, rfl⟩ := List.mem_map.1 ht
      exact .inr (List.mem_map.2 ⟨e, hwaits e he, rfl⟩)
  · rcases ht with ht | ht
    · exact .inl (hcount ▸ Nat.le_of_succ_le ht)
    · obtain ⟨e, he, rfl⟩ := List.mem_map.1 ht
      rcases List.mem_append.1 he with he | he
      · exact .inr (List.mem_map.2 ⟨e, hwaits ▸ he, rfl⟩)
      · obtain rfl := List.mem_singleton.1 he
        exact .inl (Nat.le_of_eq hcount.symm)

theorem Leads.arriving_of (h : s.Leads t) (ht : t.Arriving batch) : s.Arriving batch := by
  induction h with
  | refl => exact ht
  | tail _ hstep ih => exact ih (hstep.arriving_of ht)

/-- A batch that has brought an asset is not waited for any more. -/
theorem Brings.arriving (h : s.Brings a batch t) : s.Arriving batch := by
  obtain ⟨-, hwaits, -, -⟩ := h
  obtain ⟨_, ⟨⟩, hmem⟩ := mem_of_waiting? hwaits
  exact .inr (List.mem_map.2 ⟨_, hmem, rfl⟩)

theorem Brings.not_arriving (h : s.Brings a batch t) (hs : s.Ledger) : ¬t.Arriving batch := by
  obtain ⟨-, hwaits, -, -⟩ := h
  obtain ⟨_, ⟨⟩, hmem⟩ := mem_of_waiting? hwaits
  rintro (hcount | hmem')
  · exact absurd hcount (Nat.not_le_of_lt (hs.issued _ (List.mem_map.2 ⟨_, hmem, rfl⟩)))
  · obtain ⟨e, he, rfl⟩ := List.mem_map.1 hmem'
    have hkept := (List.mem_filter.1 he).2
    simp at hkept

/-- A batch arrives in no operation but those that handle its event. -/
theorem blind_arriving (batch : Nat) : Blind fun t u => t = u ∧ t.Arriving batch where
  view := by
    rintro t _ ⟨rfl, -⟩
    rfl
  cued := by
    rintro t _ c ⟨rfl, h⟩ -
    exact ⟨rfl, h⟩
  noted := by
    rintro t _ n ⟨rfl, h⟩
    exact ⟨rfl, h⟩
  changed := by
    rintro t _ f ⟨rfl, h⟩ -
    exact ⟨rfl, h⟩
  opened := by
    rintro t _ scripts ⟨rfl, h⟩
    exact ⟨rfl, h⟩
  recorded := by
    rintro t _ puzzle code ⟨rfl, h⟩
    exact ⟨rfl, h⟩
  shown := by
    rintro t _ scene ⟨rfl, h⟩
    exact rel_codeInput? (A := fun t u => t = u ∧ t.Arriving batch) rfl fun _ _ => ⟨rfl, h⟩
  learned := by
    rintro t _ f ⟨rfl, h⟩
    exact ⟨rfl, h⟩
  noticed := by
    rintro t _ isOpen ⟨rfl, h⟩
    exact ⟨rfl, h⟩
  batched := by
    rintro t _ stage ⟨rfl, h⟩
    refine ⟨rfl, ?_⟩
    -- The batch that is started may be this one.
    rcases h with hcount | hmem
    · rcases Nat.eq_or_lt_of_le hcount with rfl | hlt
      · exact .inr (by simp [batched, cued, noted])
      · exact .inl hlt
    · exact .inr ((List.map_append ..).symm ▸ List.mem_append_left _ hmem)
  scheduled := by
    rintro t _ duration script ⟨rfl, h⟩
    exact ⟨rfl, h⟩

end Session

/-! ## Calls that handle the event of a batch -/

/-- Between two sessions, a call handles an event: its own one, or one of those that it has taken
from the queue. -/
def Call.Handles (s t : Session) : Call → Event Ticket → Prop
  | handle own, event => own = event
  | pump, event => ∃ handled, s.queue = handled ++ t.queue ∧ event ∈ handled
  | goToScene _, _ | loadStage _, _ | execute _, _ | post _, _ | takeBatches, _ | takeTimers, _ =>
    False

section Calls

variable {s t : Session} {batch depth : Nat} {event : Event Ticket} {r : Except Error Unit}

namespace Session.Arriving

theorem reported (h : s.Arriving batch) {ticket : Ticket} (hne : ticket ≠ .issued batch) :
    (s.reported ticket).Arriving batch := by
  refine h.imp id fun hmem => ?_
  cases ticket with
  | foreign => exact hmem
  | issued serial =>
    obtain ⟨e, he, rfl⟩ := List.mem_map.1 hmem
    have hother : e.1 ≠ serial := fun heq => hne (congrArg Ticket.issued heq.symm)
    exact List.mem_map.2 ⟨e, List.mem_filter.2 ⟨he, by simpa using hother⟩, rfl⟩

/-- What an operation does in which no batch arrives. -/
theorem of_oblivious {α : Type} {p : Play α} {r : Except Error α} (hs : s.Arriving batch)
    (hp : p.Oblivious fun t u => t = u ∧ t.Arriving batch) (h : p.outcome s = some (r, t)) :
    t.Arriving batch := by
  obtain ⟨_, -, -, ht⟩ := hp.answer ⟨rfl, hs⟩ h
  exact ht

/-- **A batch arrives** with no event but its own. -/
theorem handle (hs : s.Arriving batch) (hne : event ≠ .assetsReady (.issued batch))
    (h : (Play.handle depth event).outcome s = some (r, t)) : t.Arriving batch := by
  have k := blind_arriving batch
  refine hs.of_oblivious (k.handle (fun heq => by rw [heq.1]) depth event ?_ ?_) h
  · rintro ticket rfl u _ ⟨rfl, hu⟩
    rw [Play.outcome_assetsReady]
    cases waiting? ticket u.pendingLoads with
    | none => exact .some ⟨rfl, rfl, hu⟩
    | some id =>
      -- Another batch may arrive, and the stage that has waited for it is opened.
      have hreported : (u.reported ticket).Arriving batch :=
        hu.reported fun heq => hne (congrArg _ heq)
      dsimp only
      cases u.stage id with
      | error e => exact .some ⟨rfl, rfl, hreported⟩
      | ok stage => exact k.finishLoad (k.execute depth) stage _ _ ⟨rfl, hreported⟩
  · rintro timer rfl u _ ⟨rfl, hu⟩
    rw [Play.outcome_timerFired]
    cases waiting? timer u.pendingTimers with
    | none => exact .some ⟨rfl, rfl, hu⟩
    | some script => exact k.execute depth script _ _ ⟨rfl, hu⟩

end Session.Arriving

/-- The events that are pumped are the first ones of the queue; a batch arrives with none of them
but its own. -/
theorem Play.exists_handled {count : Nat} {r : Except Error Nat}
    (h : (pumpUpTo depth count).outcome s = some (r, t)) :
    ∃ handled, s.queue = handled ++ t.queue ∧
      (.assetsReady (.issued batch) ∉ handled → s.Arriving batch → t.Arriving batch) := by
  induction count generalizing s r with
  | zero =>
    cases h
    exact ⟨[], rfl, fun _ hs => hs⟩
  | succ count ih =>
    cases hq : s.queue with
    | nil =>
      rw [outcome_pumpUpTo_nil depth hq] at h
      cases h
      exact ⟨[], hq.symm, fun _ hs => hs⟩
    | cons event rest =>
      rw [outcome_pumpUpTo_cons depth hq, outcome_bind] at h
      cases hhandle : (handle depth event).outcome (s.withQueue rest) with
      | none =>
        rw [hhandle] at h
        cases h
      | some x =>
        obtain ⟨r', u⟩ := x
        have hqueue : u.queue = rest := queue_eq (fun _ => handle_requeued event) hhandle
        have hfirst : event ≠ .assetsReady (.issued batch) → s.Arriving batch → u.Arriving batch :=
          fun hne hs => (show (s.withQueue rest).Arriving batch from hs).handle hne hhandle
        cases r' with
        | error e =>
          rw [hhandle] at h
          cases h
          exact ⟨[event], congrArg _ hqueue.symm, fun hnot =>
            hfirst fun heq => hnot (heq ▸ .head _)⟩
        | ok =>
          rw [hhandle, andThen_ok] at h
          obtain ⟨r', hpump⟩ := exists_of_outcome_bind_pure h
          obtain ⟨handled, hhandled, hrest⟩ := ih hpump
          refine ⟨event :: handled, ?_, fun hnot hs => ?_⟩
          · rw [← hqueue, hhandled]
            rfl
          · exact hrest (fun hmem => hnot (.tail _ hmem))
              (hfirst (fun heq => hnot (heq ▸ .head _)) hs)

/-- **A batch arrives** in a call that handles its event. -/
theorem Call.handles_of_arriving {c : Call} (hs : s.Arriving batch) (ht : ¬t.Arriving batch)
    (h : (c.play depth).outcome s = some (r, t)) :
    c.Handles s t (.assetsReady (.issued batch)) := by
  have k := blind_arriving batch
  cases c with
  | handle event => exact Classical.byContradiction fun hne => ht (hs.handle hne h)
  | goToScene id => exact absurd (hs.of_oblivious (k.goToScene (k.execute depth) id) h) ht
  | loadStage id => exact absurd (hs.of_oblivious (k.loadStage (k.execute depth) id) h) ht
  | execute script => exact absurd (hs.of_oblivious (k.execute depth script) h) ht
  | post | takeBatches | takeTimers =>
    cases h
    exact absurd hs ht
  | pump =>
    obtain ⟨r', hpump⟩ := exists_pumpUpTo h
    obtain ⟨handled, hqueue, harrives⟩ := Play.exists_handled hpump
    exact ⟨handled, hqueue, Classical.byContradiction fun hnot => ht (harrives hnot hs)⟩

end Calls

/-! ## Deliveries -/

section

variable {arrows : List String} {world : World} {a : Asset} {s t : Session} {c : Call}
  {r : Except Error Unit} {depth : Nat}

namespace Underway

/-- No step takes anything back from the log. -/
theorem log_grows (h : Underway arrows world s) (hleads : s.Leads t) : s.log <+: t.log := by
  induction hleads with
  | refl => exact List.prefix_rfl
  | tail hleads hstep ih =>
    obtain ⟨cues, hcues, -⟩ := ((h.leads hleads).logs hstep).exists_cues
    exact ih.trans ⟨cues, hcues.symm⟩

/-- **What waits was requested**, between all steps. -/
theorem outstanding (h : Underway arrows world s) : s.Outstanding :=
  h.invariant (fun _ => nofun) (fun _ _ => nofun) fun h hs hstep =>
    hs.step hstep (h.log_grows (.single hstep))

/-- **An asset that is known behind a call** was known through all of it, or the call has handled
the event of the batch that brought it. -/
theorem exists_brings (hs : Underway arrows world s) (h : (c.play depth).outcome s = some (r, t))
    (ht : a.IsKnown t) :
    s.Lasts a.IsKnown t ∨ ∃ batch u v, c.Handles s t (.assetsReady (.issued batch)) ∧
      s.Leads u ∧ ¬a.IsKnown u ∧ u.Brings a batch v ∧ a.IsKnown v ∧ v.Lasts a.IsKnown t := by
  have hleads := Call.leads hs.grounded h
  rcases hleads.lasts_or_onset ht with hlasts | ⟨u, v, hu, hnot, hstep, hv, hlasts⟩
  · exact .inl hlasts
  · have hunder := hs.leads hu
    obtain ⟨batch, hbrings⟩ := hunder.outstanding.brings hstep hnot hv
    -- Before the call the batch was on its way, and behind it not any more.
    have hbefore : s.Arriving batch := hu.arriving_of hbrings.arriving
    have hafter : ¬t.Arriving batch := fun h =>
      hbrings.not_arriving hunder.ledger (hlasts.leads.arriving_of h)
    exact .inr ⟨batch, u, v, Call.handles_of_arriving hbefore hafter h, hu, hnot, hbrings, hv,
      hlasts⟩

end Underway

/-- **The delivery of an asset.**  In the course of a call that handled the event of a batch, the
asset was not known with these files; they had been requested, and the batch had been started next.
The batch arrived, and the asset has been known with these files since. -/
inductive Asset.Delivered (arrows : List String) (world : World) (a : Asset) (s : Session) :
    Prop where
  | intro {before t u after : Session} {c : Call} {depth batch : Nat} {r : Except Error Unit}
      (played : Played (fun _ _ => True) arrows world before)
      (call : (c.play depth).outcome before = some (r, after))
      (handles : c.Handles before after (.assetsReady (.issued batch)))
      (leads : before.Leads t) (unknown : ¬a.IsKnown t) (brings : t.Brings a batch u)
      (known : a.IsKnown u) (lasts : u.Lasts a.IsKnown after) (later : after.Later s)
      (since : after.Lasts a.IsKnown s) (logged : t.log <+: s.log)

/-- **Every asset that is known was delivered**: no track and no background is known but with files
that were requested, whatever the session was called with and however the calls ended. -/
theorem Played.delivered (h : Played (fun _ _ => True) arrows world s) (a : Asset)
    (ha : a.IsKnown s) : a.Delivered arrows world s := by
  induction h with
  | @start depth id id' r t h =>
    -- Nothing is known before the start, and no event is handled in its course.
    rcases Play.start_cases h with rfl | ⟨stage, hload⟩
    · exact absurd ha (a.not_isKnown_of_bare rfl rfl)
    · rcases (Underway.begun id id').exists_brings hload ha with hlasts | ⟨batch, -, -, hhandles, -⟩
      · exact absurd (hlasts.holds ha) (a.not_isKnown_begun _ id' world)
      · cases hhandles
  | @call s t c depth r hs hc h ih =>
    rcases hs.underway.exists_brings h ha with hlasts | hbrings
    · obtain ⟨played, call, handles, leads, unknown, brings, known, lasts, later, since, logged⟩ :=
        ih (hlasts.holds ha)
      exact ⟨played, call, handles, leads, unknown, brings, known, lasts, later.call h,
        since.trans hlasts, logged.trans (hs.underway.log_grows hlasts.leads)⟩
    · obtain ⟨batch, u, v, hhandles, hu, hnot, hbrings, hv, hlasts⟩ := hbrings
      exact ⟨hs, h, hhandles, hu, hnot, hbrings, hv, hlasts, .refl, .refl,
        (hs.underway.leads hu).log_grows (.head hbrings.step hlasts.leads)⟩

/-- A world with a pier and a reef, where the waves sound different. -/
def World.bay : World where
  stages := [
    { id := "pier"
      scenes := [{ id := "planks", background := some "planks.png" }]
      audio := .ofList [("waves", ["pier.ogg"])] },
    { id := "reef"
      audio := .ofList [("waves", ["reef.ogg"])] }]
  parameters := { imagesPath := "images/", audiosPath := "sounds/" }

/-- The waves were requested for the pier and then for the reef, whose batch arrives first: they are
known with the files of the reef, and stay so when the pier becomes known, too. -/
theorem delivered_bay :
    ∃ s, Played (fun _ _ => True) [] .bay s ∧
      (Asset.track "waves" ["sounds/reef.ogg"]).Delivered [] .bay s ∧
      (Asset.backdrop "planks" "images/planks.png").Delivered [] .bay s := by
  have hstart := @Played.start (fun _ _ => True) [] .bay 3 (.ofNat 0) (.ofNat 1) _ _ rfl
  have hasked := @Played.call _ _ _ _ _ (.loadStage "reef") 3 _ hstart trivial rfl
  have hreef := @Played.call _ _ _ _ _ (.handle (.assetsReady (.issued 1))) 3 _ hasked trivial rfl
  have hpier := @Played.call _ _ _ _ _ (.handle (.assetsReady (.issued 0))) 3 _ hreef trivial rfl
  exact ⟨_, hpier, hpier.delivered _ rfl, hpier.delivered _ rfl⟩

end

end Adventure
