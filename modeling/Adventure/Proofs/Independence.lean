import Adventure.Proofs.CueLog
import Adventure.Proofs.Indicator

/-!
# Stages that are independent of each other

Batches arrive in any order.  If the stages that wait for two of them share no names, and no scene
of one inherits from a scene of the other, then it makes no difference which of them arrives first:
what they declare goes to different places of the catalog, what they inherit is found alike, and the
loading indicator is hidden behind the second one in any case.  Only the order of what is logged
differs.

## Main definitions

* `Stage.Apart`: two stages that have nothing to do with each other
* `Session.supplied`: a batch has arrived and its stage is known
* `Session.Awaits`: a stage waits for a batch
* `Session.SameUpToOrder`: two sessions differ in the order of what they have logged only

## Main results

* `Catalog.learnAll_comm`: stages that are apart can be learned in any order
* `Session.resolve_supplied`: a stage that is apart makes no difference for what a scene inherits
* `Session.batches_commute`: batches of stages that are apart can arrive in any order
-/

namespace Adventure

open Session

/-! ## Stages that are apart -/

/-- Two scenes have different ids, no names of hotspots and procedures in common, and do not inherit
from each other. -/
structure Scene.Apart (d e : Scene) : Prop where
  id : d.id ≠ e.id
  hotspots : ∀ area ∈ d.hotspots, ∀ other ∈ e.hotspots, area.id ≠ other.id
  procedures : ∀ name, ¬(d.procedures.contains name = true ∧ e.procedures.contains name = true)
  inherits : d.inherits ≠ some e.id ∧ e.inherits ≠ some d.id

/-- Two stages have no names in common, and no scene of one inherits from a scene of the other. -/
structure Stage.Apart (a b : Stage) : Prop where
  scenes : ∀ d ∈ a.scenes, ∀ e ∈ b.scenes, d.Apart e
  audio : ∀ key, ¬(a.audio.contains key = true ∧ b.audio.contains key = true)

theorem Scene.Apart.symm {d e : Scene} (h : d.Apart e) : e.Apart d where
  id := h.id.symm
  hotspots area harea other hother := (h.hotspots other hother area harea).symm
  procedures name hname := h.procedures name hname.symm
  inherits := h.inherits.symm

theorem Stage.Apart.symm {a b : Stage} (h : a.Apart b) : b.Apart a where
  scenes d hd e he := (h.scenes e he d hd).symm
  audio key hkey := h.audio key hkey.symm

/-- Interactions do not matter for whether scenes are apart. -/
theorem Scene.Apart.congr {d e d' e' : Scene} (h : d.Apart e)
    (hd : d' = { d with interactive := d'.interactive })
    (he : e' = { e with interactive := e'.interactive }) : d'.Apart e' := by
  rw [hd, he]
  exact ⟨h.id, h.hotspots, h.procedures, h.inherits⟩

/-! ## Learning in any order -/

section Folds

variable {α β γ : Type} {g : α → γ → α}

theorem foldl_apply_comm {k : α → α} {m : List γ} (h : ∀ c ∈ m, ∀ a, g (k a) c = k (g a c))
    (a : α) : m.foldl g (k a) = k (m.foldl g a) := by
  induction m generalizing a with
  | nil => rfl
  | cons c m ih =>
    rw [List.forall_mem_cons] at h
    rw [List.foldl_cons, h.1, ih h.2, List.foldl_cons]

/-- Two folds of which any two steps commute. -/
theorem foldl_foldl_comm {f : α → β → α} {l : List β} {m : List γ}
    (h : ∀ b ∈ l, ∀ c ∈ m, ∀ a, g (f a b) c = f (g a c) b) (a : α) :
    m.foldl g (l.foldl f a) = l.foldl f (m.foldl g a) := by
  induction l generalizing a with
  | nil => rfl
  | cons b l ih =>
    rw [List.forall_mem_cons] at h
    rw [List.foldl_cons, ih h.2, foldl_apply_comm (k := (f · b)) h.1, List.foldl_cons]

end Folds

namespace Catalog

variable {c c' : Catalog} {d e : Scene} {scenes scenes' : List Scene}
  {audio audio' : Table (List String)}

/-- Scenes that are apart can be learned in any order. -/
theorem learn_comm (c : Catalog) (h : d.Apart e) : (c.learn d).learn e = (c.learn e).learn d := by
  apply Catalog.ext
  case objects =>
    simp only [objects_learn]
    exact foldl_foldl_comm (fun area harea other hother t =>
      t.insertNew_comm (h.hotspots area harea other hother) _ _) _
  case backgrounds =>
    simp only [backgrounds_learn, parameters_learn]
    split
    · split
      · exact Table.insert_comm _ h.id _ _
      · rfl
    · rfl
  case scenes =>
    simp only [scenes_learn]
    exact Table.insert_comm _ h.id _ _
  case audio => simp only [audio_learn]
  case procedures =>
    simp only [procedures_learn]
    refine foldl_foldl_comm (fun p hp q hq t => t.insertNew_comm ?_ _ _) _
    intro heq
    refine h.procedures p.1 ⟨Table.contains_of_get? (Table.mem_entries_iff.1 hp), ?_⟩
    rw [heq]
    exact Table.contains_of_get? (Table.mem_entries_iff.1 hq)
  case parameters => simp only [parameters_learn]

/-- A scene and a track can be learned in any order. -/
theorem learn_addAudio (c : Catalog) (e : String × List String) (d : Scene) :
    (c.addAudio e.1 (c.parameters.audioUrls e.2)).learn d =
      (c.learn d).addAudio e.1 ((c.learn d).parameters.audioUrls e.2) := by
  apply Catalog.ext
  case audio => rw [audio_learn, parameters_learn, addAudio, addAudio, audio_learn]
  case objects => rw [objects_learn, addAudio, addAudio, objects_learn]
  case backgrounds => rw [backgrounds_learn, addAudio, addAudio, backgrounds_learn]
  case scenes => rw [scenes_learn, addAudio, addAudio, scenes_learn]
  case procedures => rw [procedures_learn, addAudio, addAudio, procedures_learn]
  case parameters => rw [parameters_learn, addAudio, addAudio, parameters_learn]

/-- **Stages that are apart can be learned in any order.** -/
theorem learnAll_comm (c : Catalog) (hscenes : ∀ d ∈ scenes, ∀ e ∈ scenes', d.Apart e)
    (haudio : ∀ key, ¬(audio.contains key = true ∧ audio'.contains key = true)) :
    (c.learnAll scenes audio).learnAll scenes' audio' =
      (c.learnAll scenes' audio').learnAll scenes audio := by
  have htracks : ∀ e ∈ audio.entries, ∀ e' ∈ audio'.entries, ∀ c : Catalog,
      (c.addAudio e.1 (c.parameters.audioUrls e.2)).addAudio e'.1
        (c.parameters.audioUrls e'.2) =
      (c.addAudio e'.1 (c.parameters.audioUrls e'.2)).addAudio e.1
        (c.parameters.audioUrls e.2) := by
    intro e he e' he' c
    have hne : e.1 ≠ e'.1 := by
      intro heq
      refine haudio e.1 ⟨Table.contains_of_get? (Table.mem_entries_iff.1 he), ?_⟩
      rw [heq]
      exact Table.contains_of_get? (Table.mem_entries_iff.1 he')
    simp only [addAudio, c.audio.insertNew_comm hne]
  -- Tracks and scenes go to different tables, so all scenes can be learned before the tracks.
  have hlearn : ∀ (scenes : List Scene) (tracks : List (String × List String)) (c : Catalog),
      scenes.foldl learn (c.addTracks tracks) = (scenes.foldl learn c).addTracks tracks :=
    fun scenes tracks => foldl_foldl_comm fun e _ d _ c => learn_addAudio c e d
  calc (c.learnAll scenes audio).learnAll scenes' audio'
    _ = ((scenes'.foldl learn (scenes.foldl learn c)).addTracks audio.entries).addTracks
          audio'.entries := by rw [learnAll, learnAll, hlearn]
    _ = ((scenes.foldl learn (scenes'.foldl learn c)).addTracks audio'.entries).addTracks
          audio.entries := by
      rw [foldl_foldl_comm (f := learn) (g := learn) fun d hd e he c =>
        learn_comm c (hscenes d hd e he)]
      exact foldl_foldl_comm htracks _
    _ = (c.learnAll scenes' audio').learnAll scenes audio := by rw [learnAll, learnAll, hlearn]

/-! What is created does not depend on a stage that is apart. -/

theorem hotspotCues_congr {areas : List Hotspot} (h : ∀ area ∈ areas,
    c'.objects.contains area.id = c.objects.contains area.id) :
    c'.hotspotCues areas = c.hotspotCues areas := by
  induction areas generalizing c c' with
  | nil => rfl
  | cons area areas ih =>
    rw [List.forall_mem_cons] at h
    have hrest : ∀ other ∈ areas, (c'.addObject (.hotspot area)).objects.contains other.id =
        (c.addObject (.hotspot area)).objects.contains other.id := by
      intro other hother
      simp only [addObject, Table.contains_insertNew, h.2 other hother]
    rw [hotspotCues, hotspotCues, h.1, ih hrest]

/-- What scenes create depends on the objects of their hotspots only. -/
theorem creationCues_congr (hp : c'.parameters = c.parameters)
    (h : ∀ scene ∈ scenes, ∀ area ∈ scene.hotspots,
      c'.objects.contains area.id = c.objects.contains area.id) :
    c'.creationCues scenes = c.creationCues scenes := by
  induction scenes generalizing c c' with
  | nil => rfl
  | cons scene scenes ih =>
    rw [List.forall_mem_cons] at h
    have hbackdrop : (c'.addHotspots scene.hotspots).backdropCues scene =
        (c.addHotspots scene.hotspots).backdropCues scene := by
      simp only [backdropCues, addHotspots_eq, hp]
    have hrest : ∀ other ∈ scenes, ∀ area ∈ other.hotspots,
        (c'.learn scene).objects.contains area.id = (c.learn scene).objects.contains area.id := by
      intro other hother area harea
      simp only [objects_learn, Table.contains_foldl_insertNew, h.2 other hother area harea]
    have hparameters : (c'.learn scene).parameters = (c.learn scene).parameters := by
      rw [parameters_learn, parameters_learn, hp]
    rw [creationCues, creationCues, hotspotCues_congr h.1, hbackdrop, ih hparameters hrest]

/-- The objects of a stage that is apart are known if they were before. -/
theorem contains_objects_of_apart (c : Catalog) (audio : Table (List String))
    (h : ∀ d ∈ scenes, d.Apart e) {area : Hotspot} (harea : area ∈ e.hotspots) :
    (c.learnAll scenes audio).objects.contains area.id = c.objects.contains area.id := by
  rw [Bool.eq_iff_iff]
  constructor
  · intro hknown
    obtain ⟨o, ho⟩ := Table.contains_iff.1 hknown
    rcases objects_learnAll_cases ho with hbefore | ⟨d, hd, other, hother, hid, -⟩
    · exact Table.contains_of_get? hbefore
    · exact absurd hid ((h d hd).hotspots other hother area harea)
  · exact (within_learnAll c scenes audio).contains_objects

/-- A scene that no scene of a stage is named like is known if it was before. -/
theorem contains_scenes_of_ne (c : Catalog) (audio : Table (List String)) {id : String}
    (h : ∀ d ∈ scenes, d.id ≠ id) :
    (c.learnAll scenes audio).scenes.contains id = c.scenes.contains id := by
  rw [Bool.eq_iff_iff]
  constructor
  · intro hknown
    obtain ⟨d, hd⟩ := Table.contains_iff.1 hknown
    rcases scenes_learnAll_cases hd with hbefore | ⟨hmem, hid⟩
    · exact Table.contains_of_get? hbefore
    · exact absurd hid (h d hmem)
  · exact (within_learnAll c scenes audio).scenes

end Catalog

/-! ## Resolving in any order -/

attribute [ext] Session

namespace Session

variable {s t u : Session} {a b : Ticket} {A B : Stage} {scenes scenes' : List Scene} {depth : Nat}

/-- What scenes inherit depends on which of their bases are known, and on which stages count as
loaded. -/
theorem resolve_congr (hw : t.world = s.world) (hp : t.player = s.player)
    (h : ∀ d ∈ scenes, ∀ b, d.inherits = some b →
      t.catalog.scenes.contains b = s.catalog.scenes.contains b) (before : List Scene) :
    t.resolve before scenes = s.resolve before scenes := by
  induction scenes generalizing before with
  | nil => rfl
  | cons d scenes ih =>
    rw [List.forall_mem_cons] at h
    have hfirst : t.inherited before d = s.inherited before d := by
      unfold inherited
      cases hi : d.inherits with
      | none => rfl
      | some b =>
        have hbase : t.inheritanceBase before b = s.inheritanceBase before b := by
          unfold inheritanceBase worldOf
          rw [h.1 b hi, hw, hp]
        simp only [hbase]
    rw [resolve_cons, resolve_cons, hfirst, ih h.2]

/-- What the scenes of a stage are resolved to is apart from what those of the other one are. -/
theorem apart_of_resolve (hapart : A.Apart B) (hA : s.resolve [] A.scenes = .ok scenes)
    (hB : t.resolve [] B.scenes = .ok scenes') : ∀ d ∈ scenes, ∀ e ∈ scenes', d.Apart e := by
  intro r hr r' hr'
  obtain ⟨d, hd, hbecomes⟩ := (resolve_ok hA).1 r hr
  obtain ⟨e, he, hbecomes'⟩ := (resolve_ok hB).1 r' hr'
  exact (hapart.scenes d hd e he).congr hbecomes.eq hbecomes'.eq

/-- The session in which a batch has arrived and its stage is known. -/
def supplied (s : Session) (batch : Ticket) (stage : Stage) (scenes : List Scene) : Session :=
  (s.reported batch).finished stage scenes

/-- **A stage that is apart makes no difference** for what the scenes of another one inherit. -/
theorem resolve_supplied (hapart : A.Apart B) (hA : s.resolve [] A.scenes = .ok scenes) :
    (s.supplied a A scenes).resolve [] B.scenes = s.resolve [] B.scenes := by
  refine @resolve_congr s (s.supplied a A scenes) B.scenes rfl rfl (fun e he b hb => ?_) []
  -- A base that only becomes known with the first stage would be one of its scenes.
  refine Catalog.contains_scenes_of_ne s.catalog A.audio fun r hr hid => ?_
  obtain ⟨d, hd, hbecomes⟩ := (resolve_ok hA).1 r hr
  rw [hbecomes.id_eq] at hid
  exact (hapart.scenes d hd e he).inherits.2 (hb.trans (congrArg some hid.symm))

/-! ## Batches -/

/-- A stage waits for a batch. -/
structure Awaits (s : Session) (batch : Ticket) (stage : Stage) : Prop where
  waits : waiting? batch s.pendingLoads = some stage.id
  found : s.stage stage.id = .ok stage

/-- What waits for one batch does so when another one has arrived. -/
theorem waiting?_dropWaiting {α : Type} (h : a ≠ b) (l : List (Nat × α)) :
    waiting? b (dropWaiting a l) = waiting? b l := by
  cases a with
  | foreign id => rfl
  | issued first =>
    cases b with
    | foreign id => rfl
    | issued second =>
      have hne : first ≠ second := fun heq => h (congrArg Ticket.issued heq)
      simp only [waiting?, dropWaiting]
      induction l with
      | nil => rfl
      | cons e l ih =>
        obtain ⟨serial, x⟩ := e
        by_cases heq : serial = first
        · subst heq
          have hbeq : (second == serial) = false := by simpa using Ne.symm hne
          simpa [List.lookup_cons, hbeq] using ih
        · simp [List.lookup_cons, heq, ih]

theorem dropWaiting_comm {α : Type} (a b : Ticket) (l : List (Nat × α)) :
    dropWaiting b (dropWaiting a l) = dropWaiting a (dropWaiting b l) := by
  cases a <;> cases b <;> simp [dropWaiting, List.filter_filter, Bool.and_comm]

theorem Awaits.ne (ha : s.Awaits a A) (hb : s.Awaits b B) (hne : A.id ≠ B.id) : a ≠ b := by
  rintro rfl
  exact hne (Option.some.inj (ha.waits.symm.trans hb.waits))

/-- A stage goes on to wait while another one becomes known. -/
theorem Awaits.supplied (hb : s.Awaits b B) (h : a ≠ b) (A : Stage) (scenes : List Scene) :
    (s.supplied a A scenes).Awaits b B :=
  ⟨(waiting?_dropWaiting h s.pendingLoads).trans hb.waits, hb.found⟩

/-- The indicator stays on screen where a stage goes on to wait. -/
theorem Awaits.isEmpty_reported (hb : (s.supplied a A scenes).Awaits b B) :
    (s.reported a).pendingLoads.isEmpty = false := by
  obtain ⟨serial, -, hmem⟩ := mem_of_waiting? hb.waits
  exact List.isEmpty_eq_false_iff.2 (List.ne_nil_of_mem hmem)

section Supplied

variable (s a A scenes)

/-- A stage that becomes known changes the loading indicator at most. -/
theorem cues_supplied : s.Cues [.loading] (s.supplied a A scenes) :=
  cues_finished (s.reported a) A scenes

theorem loading_supplied : (s.supplied a A scenes).display.loading =
    (s.display.loading && !(s.reported a).pendingLoads.isEmpty) :=
  loading_finished (s.reported a) A scenes

theorem log_supplied : (s.supplied a A scenes).log =
    s.log ++ (s.catalog.creationCues scenes ++ (s.reported a).endingCues) :=
  log_finished (s.reported a) A scenes

theorem notes_supplied : (s.supplied a A scenes).notes.toList =
    s.notes.toList ++ [.stageMaterialized A.id] :=
  Array.toList_push

end Supplied

/-- A stage without load actions is opened while the player is in a scene. -/
theorem outcome_openStage_eq_ok_iff (hhere : s.player.currentScene.isSome = true)
    (hactions : A.loadActions = []) :
    (Play.openStage (Play.execute depth) A).outcome s = some (.ok (), t) ↔ 0 < depth ∧ t = s := by
  have hnone : s.player.currentScene.isNone = false := by simpa using hhere
  unfold Play.openStage
  rw [hactions]
  cases depth with
  | zero => exact iff_of_false nofun fun h => absurd h.1 (Nat.lt_irrefl 0)
  | succ depth =>
    have hrun : (Play.execute (depth + 1) []).outcome s = some (.ok (), s) := rfl
    simp only [Play.outcome_bind, hrun, Play.andThen_ok, Play.outcome_get, hnone,
      Bool.false_eq_true, if_false, Play.outcome_pure]
    constructor
    · rintro ⟨⟩
      exact ⟨Nat.succ_pos depth, rfl⟩
    · rintro ⟨-, rfl⟩
      rfl

/-- **A batch arrives** whose stage has no load actions, while the player is in a scene: the stage
becomes known, and that is all. -/
theorem outcome_assetsReady_eq_ok_iff (ha : s.Awaits a A)
    (hhere : s.player.currentScene.isSome = true) (hactions : A.loadActions = []) :
    (Play.handle depth (.assetsReady a)).outcome s = some (.ok (), t) ↔
      0 < depth ∧ ∃ scenes, s.resolve [] A.scenes = .ok scenes ∧
        t = s.supplied a A scenes := by
  have hresolve : (s.reported a).resolve [] A.scenes = s.resolve [] A.scenes :=
    @resolve_congr s (s.reported a) A.scenes rfl rfl (fun _ _ _ _ => rfl) []
  rw [Play.handle, Play.outcome_assetsReady, ha.waits]
  simp only [ha.found, Play.outcome_finishLoad, hresolve]
  cases s.resolve [] A.scenes with
  | error e => simp
  | ok scenes =>
    have hopen := @outcome_openStage_eq_ok_iff (s.supplied a A scenes) t A depth hhere hactions
    simpa [supplied] using hopen

/-! ## Both orders -/

/-- Two sessions are the same but for the order of the cues and of the lines that they have
logged. -/
structure SameUpToOrder (s t : Session) : Prop where
  state : { s with display := t.display, notes := t.notes } = t
  display : ∀ part, s.display.SameIn t.display part
  log : s.log.Perm t.log
  notes : s.notes.toList.Perm t.notes.toList

/-- What scenes create does not depend on a stage that they are apart from. -/
theorem creationCues_supplied (s : Session) (a : Ticket) (A : Stage)
    (h : ∀ d ∈ scenes, ∀ e ∈ scenes', d.Apart e) :
    (s.supplied a A scenes).catalog.creationCues scenes' = s.catalog.creationCues scenes' :=
  Catalog.creationCues_congr (Catalog.within_learnAll ..).parameters fun e he _ harea =>
    Catalog.contains_objects_of_apart s.catalog A.audio (fun d hd => h d hd e he) harea

/-- **Two stages that are apart become known in any order.** -/
theorem sameUpToOrder_supplied (ha : s.Awaits a A) (hb : s.Awaits b B) (hne : a ≠ b)
    (hapart : A.Apart B) (hA : s.resolve [] A.scenes = .ok scenes)
    (hB : s.resolve [] B.scenes = .ok scenes') :
    ((s.supplied b B scenes').supplied a A scenes).SameUpToOrder
      ((s.supplied a A scenes).supplied b B scenes') := by
  have hafterA := hb.supplied hne A scenes
  have hafterB := ha.supplied (Ne.symm hne) B scenes'
  have hscenes := apart_of_resolve hapart hA hB
  -- The same batches are left waiting, so both orders end the load alike.
  have hpending : ((s.supplied b B scenes').reported a).pendingLoads =
      ((s.supplied a A scenes).reported b).pendingLoads := dropWaiting_comm b a s.pendingLoads
  constructor
  case state =>
    apply Session.ext
    case catalog => exact (Catalog.learnAll_comm s.catalog hscenes hapart.audio).symm
    case pendingLoads => exact hpending
    all_goals rfl
  case display =>
    intro part
    by_cases hpart : part = .loading
    · subst hpart
      show ((s.supplied b B scenes').supplied a A scenes).display.loading =
        ((s.supplied a A scenes).supplied b B scenes').display.loading
      simp only [loading_supplied, hpending, hafterA.isEmpty_reported, hafterB.isEmpty_reported]
    · have hothers : part ∉ [Part.loading] ++ [Part.loading] := by simpa using hpart
      have hleft := (s.cues_supplied b B scenes').trans (cues_supplied _ a A scenes)
      have hright := (s.cues_supplied a A scenes).trans (cues_supplied _ b B scenes')
      exact (hleft.sameIn hothers).trans (hright.sameIn hothers).symm
  case log =>
    -- What a stage creates is created in both orders.
    have hcuesA := s.creationCues_supplied b B fun e he d hd => (hscenes d hd e he).symm
    have hcuesB := s.creationCues_supplied a A hscenes
    -- The indicator is hidden last in both orders, if at all.
    simp only [log_supplied, endingCues, hpending, hafterA.isEmpty_reported,
      hafterB.isEmpty_reported, hcuesA, hcuesB, Bool.false_eq_true, if_false, List.append_nil,
      List.append_assoc]
    exact (List.perm_append_comm_assoc ..).append_left s.log
  case notes =>
    simp only [notes_supplied, List.append_assoc]
    exact List.perm_append_comm.append_left s.notes.toList

/-- **Two batches arrive** one after the other: what the scenes of both stages inherit is found
before the first one arrives, and both stages become known. -/
theorem outcome_bothReady_eq_ok_iff (hhere : s.player.currentScene.isSome = true)
    (ha : s.Awaits a A) (hb : s.Awaits b B) (hne : A.id ≠ B.id) (hapart : A.Apart B)
    (hA : A.loadActions = []) (hB : B.loadActions = []) :
    (do Play.handle depth (.assetsReady a); Play.handle depth (.assetsReady b)).outcome s =
      some (.ok (), t) ↔
    0 < depth ∧ ∃ scenes scenes', s.resolve [] A.scenes = .ok scenes ∧
      s.resolve [] B.scenes = .ok scenes' ∧ t = (s.supplied a A scenes).supplied b B scenes' := by
  have hsecond : ∀ scenes, (s.supplied a A scenes).Awaits b B := hb.supplied (ha.ne hb hne) A
  rw [Play.outcome_bind_eq_ok_iff]
  constructor
  · rintro ⟨⟨⟩, u, hfirst, h⟩
    obtain ⟨hdepth, scenes, hscenes, rfl⟩ := (outcome_assetsReady_eq_ok_iff ha hhere hA).1 hfirst
    obtain ⟨-, scenes', hscenes', rfl⟩ :=
      (outcome_assetsReady_eq_ok_iff (hsecond scenes) hhere hB).1 h
    rw [resolve_supplied hapart hscenes] at hscenes'
    exact ⟨hdepth, scenes, scenes', hscenes, hscenes', rfl⟩
  · rintro ⟨hdepth, scenes, scenes', hscenes, hscenes', rfl⟩
    rw [← resolve_supplied hapart hscenes] at hscenes'
    exact ⟨(), s.supplied a A scenes,
      (outcome_assetsReady_eq_ok_iff ha hhere hA).2 ⟨hdepth, scenes, hscenes, rfl⟩,
      (outcome_assetsReady_eq_ok_iff (hsecond scenes) hhere hB).2 ⟨hdepth, scenes', hscenes', rfl⟩⟩

/-- **Batches of stages that are apart can arrive in any order.**  Let two stages wait that are
apart and have no load actions, while the player is in a scene.  If one batch can arrive and then
the other one, so can they in the opposite order, and the sessions behind both orders are the same
but for the order of what was logged. -/
theorem batches_commute (hhere : s.player.currentScene.isSome = true) (ha : s.Awaits a A)
    (hb : s.Awaits b B) (hne : A.id ≠ B.id) (hapart : A.Apart B) (hA : A.loadActions = [])
    (hB : B.loadActions = [])
    (h : (do Play.handle depth (.assetsReady a); Play.handle depth (.assetsReady b)).outcome s =
      some (.ok (), t)) :
    ∃ u, (do Play.handle depth (.assetsReady b); Play.handle depth (.assetsReady a)).outcome s =
      some (.ok (), u) ∧ u.SameUpToOrder t := by
  obtain ⟨hdepth, scenes, scenes', hscenes, hscenes', rfl⟩ :=
    (outcome_bothReady_eq_ok_iff hhere ha hb hne hapart hA hB).1 h
  refine ⟨(s.supplied b B scenes').supplied a A scenes, ?_,
    sameUpToOrder_supplied ha hb (ha.ne hb hne) hapart hscenes hscenes'⟩
  exact (outcome_bothReady_eq_ok_iff hhere hb ha (Ne.symm hne) hapart.symm hB hA).2
    ⟨hdepth, scenes', scenes, hscenes', hscenes, rfl⟩

end Session

/-! ## An example -/

/-- A stage with a tree, a procedure and a track. -/
def Stage.orchard : Stage where
  id := "orchard"
  scenes := [
    { id := "trees"
      background := some "trees.png"
      hotspots := [⟨"apple", .ofInt 0, .ofInt 0, .ofInt 1, .ofInt 1⟩]
      procedures := .ofList [("pick", [.new (.showText "Sour.")])] }]
  audio := .ofList [("bees", ["bees.ogg"])]

/-- A stage that has nothing to do with the orchard. -/
def Stage.meadow : Stage where
  id := "meadow"
  scenes := [
    { id := "grass"
      inherits := some "fence"
      hotspots := [⟨"mole", .ofInt 0, .ofInt 0, .ofInt 1, .ofInt 1⟩] }]
  audio := .ofList [("larks", ["larks.ogg"])]

/-- A world with an orchard and a meadow behind a fence. -/
def World.fence : World where
  stages := [
    { id := "road"
      scenes := [{ id := "fence", interactive := .ofList [("down", [.new (.showText "No.")])] }] },
    .orchard,
    .meadow]

theorem Stage.apart_orchard_meadow : Stage.orchard.Apart .meadow where
  scenes d hd e he := by
    rw [List.mem_singleton.1 hd, List.mem_singleton.1 he]
    constructor
    case id => decide
    case hotspots => decide
    case procedures => simp
    case inherits => decide
  audio key hkey := by
    have horchard : key ∈ ["bees"] := Table.mem_keys_iff.2 hkey.1
    have hmeadow : key ∈ ["larks"] := Table.mem_keys_iff.2 hkey.2
    rw [List.mem_singleton.1 horchard] at hmeadow
    exact absurd hmeadow (by decide)

/-- Both stages wait while the player looks at the fence, and what their scenes inherit is found. -/
theorem exists_awaits_fence :
    ∃ s scenes scenes', Reached ["down"] s ∧ s.player.currentScene.isSome = true ∧
      s.Awaits (.issued 0) .orchard ∧ s.Awaits (.issued 1) .meadow ∧
      s.resolve [] Stage.orchard.scenes = .ok scenes ∧
      s.resolve [] Stage.meadow.scenes = .ok scenes' := by
  have hstart := @Reached.start ["down"] _ _ 3 (.ofNat 1) .fence _ (.fresh (.ofNat 0)) rfl
  have horchard := @Reached.call _ _ _ (.loadStage "orchard") 3 _ hstart rfl
  have hmeadow := @Reached.call _ _ _ (.loadStage "meadow") 3 _ horchard rfl
  exact ⟨_, _, _, hmeadow, rfl, ⟨rfl, rfl⟩, ⟨rfl, rfl⟩, rfl, rfl⟩

/-- The batches of the orchard and of the meadow can arrive in the opposite order. -/
theorem batches_commute_fence :
    ∃ s t u, Reached ["down"] s ∧
      (do Play.handle 3 (.assetsReady (.issued 0));
          Play.handle 3 (.assetsReady (.issued 1))).outcome s = some (.ok (), t) ∧
      (do Play.handle 3 (.assetsReady (.issued 1));
          Play.handle 3 (.assetsReady (.issued 0))).outcome s = some (.ok (), u) ∧
      u.SameUpToOrder t := by
  obtain ⟨s, scenes, scenes', hs, hhere, horchard, hmeadow, hscenes, hscenes'⟩ :=
    exists_awaits_fence
  have h := (@outcome_bothReady_eq_ok_iff _ _ _ _ _ _ 3 hhere horchard hmeadow (by decide)
    Stage.apart_orchard_meadow rfl rfl).2
    ⟨by decide, scenes, scenes', hscenes, hscenes', rfl⟩
  obtain ⟨u, hu, hsame⟩ := batches_commute hhere horchard hmeadow (by decide)
    Stage.apart_orchard_meadow rfl rfl h
  exact ⟨s, _, u, hs, h, hu, hsame⟩

end Adventure
