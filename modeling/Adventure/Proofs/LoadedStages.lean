import Adventure.Proofs.Growth
import Adventure.Proofs.LoadLedger
import Adventure.Proofs.Registration

/-!
# What is known was loaded, and what was loaded is known

A stage counts as loaded from the moment it is asked for, and it becomes known later, behind its
batch.  Nothing of it is known before it counts as loaded.  Once it counts as loaded and does not
wait for a batch any more, all that it declares is known, unless it could not be made known.

## Main definitions

* `Session.Awaited`: the stages that wait for a batch count as loaded
* `Session.Declared`: all that is known is declared by stages that count as loaded
* `Catalog.Covers`: all that a stage declares is known
* `Session.Covered`: this holds of every stage that has become known
* `Failed`: the sessions that a start or a call has left with an error

## Main results

* `Session.Loads.declared`, `Session.Loads.covered`: every step keeps both
* `Played.exists_failed_of_unsettled`: a request is unsettled only because a stage could not be made
  known
* `Played.loaded_means_known`: all of this for every session
-/

namespace Adventure

open Session

/-! ## What stages declare -/

/-- Everything that a stage declares is known. -/
structure Catalog.Covers (c : Catalog) (stage : Stage) : Prop where
  scenes : ∀ scene ∈ stage.scenes, c.scenes.contains scene.id = true
  backgrounds : ∀ scene ∈ stage.scenes, scene.background.isSome = true →
    c.backgrounds.contains scene.id = true
  objects : ∀ scene ∈ stage.scenes, ∀ area ∈ scene.hotspots, c.objects.contains area.id = true
  procedures : ∀ scene ∈ stage.scenes, ∀ name, scene.procedures.contains name = true →
    c.procedures.contains name = true
  audio : ∀ key, stage.audio.contains key = true → c.audio.contains key = true

theorem Catalog.Covers.mono {c d : Catalog} {stage : Stage} (h : c.Covers stage)
    (hw : c.Within d) : d.Covers stage where
  scenes scene hs := hw.scenes (h.scenes scene hs)
  backgrounds scene hs hb := hw.backgrounds (h.backgrounds scene hs hb)
  objects scene hs area ha := hw.contains_objects (h.objects scene hs area ha)
  procedures scene hs name hn := hw.contains_procedures (h.procedures scene hs name hn)
  audio key hk := hw.contains_audio (h.audio key hk)

namespace Session

/-- Every stage that waits for a batch counts as loaded. -/
def Awaited (s : Session) : Prop :=
  ∀ id ∈ s.pendingLoads.map Prod.snd, s.player.hasLoaded id = true

/-- All that is known, arrows aside, is declared by stages that count as loaded. -/
structure Declared (s : Session) : Prop where
  scenes : ∀ {id scene}, s.catalog.scenes.get? id = some scene →
    ∃ d, s.Loaded d ∧ d.id = id ∧ d.Becomes s.Loaded scene
  backgrounds : ∀ {id url}, s.catalog.backgrounds.get? id = some url →
    ∃ d, s.Loaded d ∧ d.id = id ∧
      ∃ file, d.background = some file ∧ url = s.catalog.parameters.backgroundUrl file
  objects : ∀ {id area}, s.catalog.objects.get? id = some (.hotspot area) →
    ∃ d, s.Loaded d ∧ area ∈ d.hotspots ∧ area.id = id
  procedures : ∀ {name script}, s.catalog.procedures.get? name = some script →
    ∃ d, s.Loaded d ∧ d.procedures.get? name = some script
  audio : ∀ {key urls}, s.catalog.audio.get? key = some urls →
    ∃ w stage, s.world = some w ∧ stage ∈ w.stages ∧ s.player.hasLoaded stage.id = true ∧
      ∃ files, stage.audio.get? key = some files ∧ urls = s.catalog.parameters.audioUrls files

/-- Every stage that has become known is known with all that it declares. -/
def Covered (s : Session) : Prop :=
  ∀ id stage, s.stage id = .ok stage → 0 < s.openings id → s.catalog.Covers stage

variable {s t : Session} {e : Error} {id : String} {stage : Stage} {scenes : List Scene}

/-- A stage that counts as loaded goes on to do so. -/
theorem Loaded.mono {d : Scene} (h : s.Loaded d) (hworld : t.world = s.world)
    (hl : ∀ stage, s.player.hasLoaded stage = true → t.player.hasLoaded stage = true) :
    t.Loaded d := by
  obtain ⟨w, hw, stage, hstage, hloaded, hd⟩ := h
  exact ⟨w, hworld.trans hw, stage, hstage, hl _ hloaded, hd⟩

/-! ## What waits -/

theorem Ledger.awaited (h : s.Ledger) : s.Awaited := fun _ hmem =>
  h.hasLoaded_of_waitingFor (mem_pendingLoads_iff.1 hmem)

theorem Awaited.of_waiting? (h : s.Awaited) {batch : Ticket}
    (hw : waiting? batch s.pendingLoads = some id) : s.player.hasLoaded id = true := by
  obtain ⟨serial, -, hmem⟩ := mem_of_waiting? hw
  exact h id (List.mem_map.2 ⟨_, hmem, rfl⟩)

/-- Where nothing new waits, the stages that wait still count as loaded. -/
theorem Awaited.mono (h : s.Awaited) (hp : ∀ e ∈ t.pendingLoads, e ∈ s.pendingLoads)
    (hl : ∀ stage, s.player.hasLoaded stage = true → t.player.hasLoaded stage = true) :
    t.Awaited := by
  intro id hmem
  obtain ⟨e, he, rfl⟩ := List.mem_map.1 hmem
  exact hl _ (h _ (List.mem_map.2 ⟨e, hp e he, rfl⟩))

theorem Awaited.quiet (hs : s.Awaited) (h : s.Quiet t) : t.Awaited :=
  hs.mono (fun _ he => h.pendingLoads ▸ he) fun stage hl => (h.hasLoaded stage).trans hl

theorem Awaited.requested (hs : s.Awaited) (id : String) : (s.requested id).Awaited :=
  hs.mono (fun _ he => he) fun _ => (extends_requested s id).loaded

theorem Awaited.reported (hs : s.Awaited) (batch : Ticket) : (s.reported batch).Awaited :=
  hs.mono (fun _ he => mem_of_mem_dropWaiting he) fun _ hl => hl

/-- A stage that counts as loaded may wait. -/
theorem Awaited.preloading (hs : s.Awaited) (hl : s.player.hasLoaded stage.id = true) :
    (s.preloading stage).Awaited := by
  intro id hmem
  rcases List.mem_append.1 ((List.map_append ..).symm ▸ hmem) with hmem | hmem
  · exact hs id hmem
  · obtain rfl := List.mem_singleton.1 hmem
    exact hl

/-- **What waits counts as loaded**, whatever a step does. -/
theorem Loads.awaited (h : s.Loads t) (hs : s.Awaited) : t.Awaited := by
  cases h with
  | quiet h => exact hs.quiet h
  | @preload u id stage h hstage =>
    obtain rfl := stage_id hstage
    exact ((hs.quiet h).requested stage.id).preloading (hasLoaded_requested_self u stage.id)
  | @load u id stage scenes h => exact (hs.quiet h).requested id
  | @complete batch => exact hs.reported batch

theorem LoadFails.awaited (h : s.LoadFails e t) (hs : s.Awaited) : t.Awaited := by
  cases h with
  | quiet h => exact hs.quiet h
  | unresolved h => exact (hs.quiet h).requested _
  | incomplete => exact hs.reported _

/-! ## Nothing appears early -/

/-- Where the same is known, it is still declared. -/
theorem Declared.mono (h : s.Declared) (hc : t.catalog = s.catalog) (hworld : t.world = s.world)
    (hl : ∀ stage, s.player.hasLoaded stage = true → t.player.hasLoaded stage = true) :
    t.Declared where
  scenes hget := by
    rw [hc] at hget
    obtain ⟨d, hd, hid, hbecomes⟩ := h.scenes hget
    exact ⟨d, hd.mono hworld hl, hid, hbecomes.mono fun _ hbase => hbase.mono hworld hl⟩
  backgrounds hget := by
    rw [hc] at hget
    obtain ⟨d, hd, hid, hfile⟩ := h.backgrounds hget
    exact ⟨d, hd.mono hworld hl, hid, by rwa [hc]⟩
  objects hget := by
    rw [hc] at hget
    obtain ⟨d, hd, harea⟩ := h.objects hget
    exact ⟨d, hd.mono hworld hl, harea⟩
  procedures hget := by
    rw [hc] at hget
    obtain ⟨d, hd, hscript⟩ := h.procedures hget
    exact ⟨d, hd.mono hworld hl, hscript⟩
  audio hget := by
    rw [hc] at hget
    obtain ⟨w, stage, hw, hstage, hloaded, hfiles⟩ := h.audio hget
    exact ⟨w, stage, hworld.trans hw, hstage, hl _ hloaded, by rwa [hc]⟩

theorem Declared.quiet (hs : s.Declared) (h : s.Quiet t) : t.Declared :=
  hs.mono h.catalog h.world fun stage hl => (h.hasLoaded stage).trans hl

theorem Declared.requested (hs : s.Declared) (id : String) : (s.requested id).Declared :=
  hs.mono rfl rfl fun _ => (extends_requested s id).loaded

/-- What a stage is resolved to, it declares, and nothing that does not count as loaded is in it. -/
theorem resolve_loaded (hstage : s.stage id = .ok stage)
    (hloaded : s.player.hasLoaded stage.id = true)
    (hscenes : s.resolve [] stage.scenes = .ok scenes) :
    ∀ r ∈ scenes, ∃ d, s.Loaded d ∧ d.Becomes s.Loaded r := by
  obtain ⟨-, w, hw, hmem⟩ := stage_ok hstage
  have hown : ∀ d ∈ stage.scenes, s.Loaded d := by
    intro d hd
    exact ⟨w, hw, stage, hmem, hloaded, hd⟩
  intro r hr
  obtain ⟨d, hd, hbecomes⟩ := (resolve_ok hscenes).1 r hr
  exact ⟨d, hown d hd, hbecomes.mono fun base hbase => hbase.elim (hown base) fun h => h⟩

/-- **A stage that becomes known** declares all that is new, and counts as loaded. -/
theorem Declared.finished (h : s.Declared) (hstage : s.stage id = .ok stage)
    (hloaded : s.player.hasLoaded stage.id = true)
    (hscenes : s.resolve [] stage.scenes = .ok scenes) : (s.finished stage scenes).Declared where
  scenes {_ scene} hget := by
    rcases Catalog.scenes_learnAll_cases hget with hget | ⟨hmem, hid⟩
    · exact h.scenes hget
    · obtain ⟨d, hd, hbecomes⟩ := resolve_loaded hstage hloaded hscenes scene hmem
      exact ⟨d, hd, hbecomes.id_eq.symm.trans hid, hbecomes⟩
  backgrounds hget := by
    have hparameters := (Catalog.within_learnAll s.catalog scenes stage.audio).parameters
    rcases Catalog.backgrounds_learnAll_cases hget with hget | ⟨r, hr, hid, file, hfile, hurl⟩
    · obtain ⟨d, hd, hid, file, hfile, hurl⟩ := h.backgrounds hget
      exact ⟨d, hd, hid, file, hfile, hurl.trans (by rw [← hparameters]; rfl)⟩
    · -- A scene that inherits keeps its own background.
      obtain ⟨d, hd, hbecomes⟩ := resolve_loaded hstage hloaded hscenes r hr
      rw [hbecomes.eq] at hid hfile
      exact ⟨d, hd, hid, file, hfile, hurl.trans (by rw [← hparameters]; rfl)⟩
  objects hget := by
    rcases Catalog.objects_learnAll_cases hget with hget | ⟨r, hr, area, harea, hid, ho⟩
    · exact h.objects hget
    · obtain ⟨d, hd, hbecomes⟩ := resolve_loaded hstage hloaded hscenes r hr
      rw [hbecomes.eq] at harea
      cases ho
      exact ⟨d, hd, harea, hid⟩
  procedures hget := by
    rcases Catalog.procedures_learnAll_cases hget with hget | ⟨r, hr, hscript⟩
    · exact h.procedures hget
    · obtain ⟨d, hd, hbecomes⟩ := resolve_loaded hstage hloaded hscenes r hr
      rw [hbecomes.eq] at hscript
      exact ⟨d, hd, hscript⟩
  audio hget := by
    have hparameters := (Catalog.within_learnAll s.catalog scenes stage.audio).parameters
    rcases Catalog.audio_learnAll_cases hget with hget | ⟨files, hfiles, hurls⟩
    · obtain ⟨w, other, hw, hother, hl, files, hfiles, hurls⟩ := h.audio hget
      exact ⟨w, other, hw, hother, hl, files, hfiles, hurls.trans (by rw [← hparameters]; rfl)⟩
    · obtain ⟨-, w, hw, hmem⟩ := stage_ok hstage
      exact ⟨w, stage, hw, hmem, hloaded, files, hfiles,
        hurls.trans (by rw [← hparameters]; rfl)⟩

/-- **Nothing appears early**, whatever a step does. -/
theorem Loads.declared (h : s.Loads t) (hawaited : s.Awaited) (hs : s.Declared) :
    t.Declared := by
  cases h with
  | quiet h => exact hs.quiet h
  | @preload u id stage h => exact ((hs.quiet h).requested id).mono rfl rfl fun _ hl => hl
  | @load u id stage scenes h hstage hscenes =>
    obtain rfl := stage_id hstage
    exact ((hs.quiet h).requested stage.id).finished hstage (hasLoaded_requested_self u stage.id)
      hscenes
  | @complete batch id stage scenes h hstage hscenes =>
    obtain rfl := stage_id hstage
    have hreported : (s.reported batch).Declared := hs.mono rfl rfl fun _ hl => hl
    exact hreported.finished hstage (hawaited.of_waiting? h) hscenes

theorem LoadFails.declared (h : s.LoadFails e t) (hs : s.Declared) : t.Declared := by
  cases h with
  | quiet h => exact hs.quiet h
  | unresolved h => exact (hs.quiet h).requested _
  | incomplete => exact hs.mono rfl rfl fun _ hl => hl

/-! ## Nothing is lost -/

/-- What a stage declares is among what it is resolved to, and is learned with it. -/
theorem covers_finished (hscenes : s.resolve [] stage.scenes = .ok scenes) :
    (s.finished stage scenes).catalog.Covers stage := by
  have hresolved : ∀ d ∈ stage.scenes, ∃ r ∈ scenes,
      r = { d with interactive := r.interactive } := by
    intro d hd
    obtain ⟨r, hr, hbecomes⟩ := (resolve_ok hscenes).2 d hd
    exact ⟨r, hr, hbecomes.eq⟩
  constructor
  · intro d hd
    obtain ⟨r, hr, heq⟩ := hresolved d hd
    have hknown := Catalog.contains_scenes_learnAll (c := s.catalog) stage.audio hr
    rwa [heq] at hknown
  · intro d hd hb
    obtain ⟨r, hr, heq⟩ := hresolved d hd
    have hknown := Catalog.contains_backgrounds_learnAll (c := s.catalog) stage.audio hr
      (by rwa [heq])
    rwa [heq] at hknown
  · intro d hd area harea
    obtain ⟨r, hr, heq⟩ := hresolved d hd
    exact Catalog.contains_objects_learnAll stage.audio hr (by rwa [heq])
  · intro d hd name hname
    obtain ⟨r, hr, heq⟩ := hresolved d hd
    exact Catalog.contains_procedures_learnAll stage.audio hr (by rwa [heq])
  · intro key hkey
    exact Catalog.contains_audio_learnAll stage.audio hkey

/-- Where nothing else has become known, what is covered stays so. -/
theorem Covered.mono (hs : s.Covered) (hc : t.catalog = s.catalog) (hworld : t.world = s.world)
    (ho : ∀ id, t.openings id = s.openings id) : t.Covered := by
  intro id stage hstage hopen
  rw [stage_congr hworld] at hstage
  rw [ho] at hopen
  rw [hc]
  exact hs id stage hstage hopen

theorem Covered.quiet (hs : s.Covered) (h : s.Quiet t) : t.Covered :=
  hs.mono h.catalog h.world h.openings

theorem Covered.requested (hs : s.Covered) (id : String) : (s.requested id).Covered :=
  hs.mono rfl rfl (openings_requested s id)

/-- **A stage that becomes known** is covered, and so are those that were known before. -/
theorem Covered.finished (hs : s.Covered) (hstage : s.stage stage.id = .ok stage)
    (hscenes : s.resolve [] stage.scenes = .ok scenes) : (s.finished stage scenes).Covered := by
  intro id other hother hopen
  by_cases heq : stage.id = id
  · subst heq
    obtain rfl : stage = other := Except.ok.inj (hstage.symm.trans hother)
    exact covers_finished hscenes
  · rw [openings_finished, if_neg heq] at hopen
    exact (hs id other hother hopen).mono (Catalog.within_learnAll s.catalog scenes stage.audio)

/-- **Nothing is lost**, whatever a step does. -/
theorem Loads.covered (h : s.Loads t) (hs : s.Covered) : t.Covered := by
  cases h with
  | quiet h => exact hs.quiet h
  | @preload u id stage h =>
    exact ((hs.quiet h).requested id).mono rfl rfl fun _ => openings_preloading ..
  | @load u id stage scenes h hstage hscenes =>
    obtain rfl := stage_id hstage
    exact ((hs.quiet h).requested stage.id).finished hstage hscenes
  | @complete batch id stage scenes h hstage hscenes =>
    obtain rfl := stage_id hstage
    have hreported : (s.reported batch).Covered := hs.mono rfl rfl fun _ => rfl
    exact hreported.finished hstage hscenes

theorem LoadFails.covered (h : s.LoadFails e t) (hs : s.Covered) : t.Covered := by
  cases h with
  | quiet h => exact hs.quiet h
  | unresolved h => exact (hs.quiet h).requested _
  | incomplete => exact hs.mono rfl rfl fun _ => rfl

end Session

/-! ## The stages of a world that was accepted -/

namespace World

variable {w : World}

/-- Stages that were checked have distinct ids. -/
theorem nodup_of_validateStages {seen : Names} {stages : List Stage}
    (h : validateStages seen stages = .ok ()) :
    (∀ stage ∈ stages, seen.contains stage.id = false) ∧ (stages.map Stage.id).Nodup := by
  induction stages generalizing seen with
  | nil => exact ⟨nofun, List.nodup_nil⟩
  | cons first rest ih =>
    rw [validateStages] at h
    split at h
    · cases h
    · next hfresh =>
      obtain ⟨⟨⟩, -, hrest⟩ := bind_eq_ok_iff.1 h
      obtain ⟨hseen, hnodup⟩ := ih hrest
      -- The ids behind the first one are neither that one nor any that was seen before it.
      have hboth : ∀ stage ∈ rest, stage.id ≠ first.id ∧ seen.contains stage.id = false := by
        intro stage hstage
        have hadd := hseen stage hstage
        rw [Names.contains_add, Bool.or_eq_false_iff, decide_eq_false_iff_not] at hadd
        exact hadd
      refine ⟨?_, ?_⟩
      · intro stage hstage
        rcases List.mem_cons.1 hstage with rfl | hstage
        · simpa using hfresh
        · exact (hboth stage hstage).2
      · rw [List.map_cons, List.nodup_cons]
        refine ⟨?_, hnodup⟩
        intro hmem
        obtain ⟨stage, hstage, hid⟩ := List.mem_map.1 hmem
        exact (hboth stage hstage).1 hid

/-- **A world that was accepted** declares one stage for each id. -/
theorem eq_of_validate (hw : w.validate = .ok ()) {stage other : Stage} (h : stage ∈ w.stages)
    (ho : other ∈ w.stages) (hid : stage.id = other.id) : stage = other := by
  obtain ⟨first, -, h'⟩ := bind_eq_ok_iff.1 hw
  obtain ⟨⟨⟩, hstages, -⟩ := bind_eq_ok_iff.1 h'
  exact List.inj_on_of_nodup_map (nodup_of_validateStages hstages).2 h ho hid

end World

section

variable {arrows : List String} {world : World} {s : Session}

/-- A session plays the world that it was started with, and only if that was accepted. -/
theorem Played.world_accepted (h : Played (fun _ _ => True) arrows world s) {w : World}
    (hw : s.world = some w) : w = world ∧ world.validate = .ok () := by
  induction h with
  | @start depth id id' r t h =>
    have hstart := Play.outcome_start (.withArrows id arrows) depth id' world
    cases hv : world.validate with
    | error defect =>
      -- A world that is not accepted leaves the session without one.
      rw [hv, h] at hstart
      cases hstart
      cases hw
    | ok =>
      have k : Keeps (.free fun _ _ => True) (Registered · world) fun _ t => t.Registered world :=
        .free (fun _ hs hm => hm.registered hs) fun _ hs hh => hh.registered hs
      have hends := k.start_inv (grounded_withArrows id arrows)
        (registered_withArrows id arrows world) (registered_begun _ id' world) h
      exact ⟨hends.2.world hw, rfl⟩
  | call hs _ h ih =>
    have hextends := Call.extends hs.reached.grounded h
    exact ih (hextends.world.symm.trans hw)

/-- The ledger, what is known, and what is not missing are kept together. -/
theorem keeps_loaded :
    Keeps (.free fun _ _ => True) (fun s => s.Ledger ∧ s.Declared ∧ s.Covered)
      fun _ s => s.Ledger ∧ s.Declared ∧ s.Covered := by
  refine .free ?_ ?_
  · rintro s t - ⟨hledger, hdeclared, hcovered⟩ hm
    exact ⟨(hm.loads.ledger hledger).1, hm.loads.declared hledger.awaited hdeclared,
      hm.loads.covered hcovered⟩
  · rintro s e t - ⟨hledger, hdeclared, hcovered⟩ hh
    exact ⟨(hh.loadFails.ledger hledger).1, hh.loadFails.declared hdeclared,
      hh.loadFails.covered hcovered⟩

theorem Session.Declared.of_catalog (hscenes : s.catalog.scenes = ∅)
    (hbackgrounds : s.catalog.backgrounds = ∅) (hprocedures : s.catalog.procedures = ∅)
    (haudio : s.catalog.audio = ∅)
    (hobjects : ∀ {id area}, s.catalog.objects.get? id ≠ some (.hotspot area)) : s.Declared where
  scenes h := by
    rw [hscenes] at h
    cases h
  backgrounds h := by
    rw [hbackgrounds] at h
    cases h
  objects h := (hobjects h).elim
  procedures h := by
    rw [hprocedures] at h
    cases h
  audio h := by
    rw [haudio] at h
    cases h

theorem Session.declared_withArrows (id : Uuid) (arrows : List String) :
    (withArrows id arrows).Declared :=
  .of_catalog rfl rfl rfl rfl nofun

/-- Of an accepted world nothing is known but the arrows. -/
theorem Session.declared_begun (s : Session) (id : Uuid) (world : World) :
    (s.begun id world).Declared := by
  have heq : (s.begun id world).catalog =
      { objects := s.arrows.foldl (fun t id => t.insertNew id (.arrow id)) ∅
        parameters := world.parameters } := Catalog.addArrows_eq _ s.arrows
  refine .of_catalog ?_ ?_ ?_ ?_ ?_
  case refine_5 =>
    intro id area h
    rw [heq] at h
    rcases Table.get?_foldl_insertNew_cases _ _ h with h | ⟨arrow, -, -, h⟩
    · cases h
    · cases h
  all_goals rw [heq]

theorem Played.declared_covered (h : Played (fun _ _ => True) arrows world s) :
    s.Ledger ∧ s.Declared ∧ s.Covered := by
  refine (h.invariant keeps_loaded ?_ ?_).2
  · intro id
    exact ⟨ledger_withArrows id arrows, declared_withArrows id arrows, nofun⟩
  · intro id id'
    exact ⟨ledger_begun id id' arrows world, declared_begun _ id' world, fun _ _ _ h => nomatch h⟩

/-- A start or a call of a session of the world has ended with the error, and has left this
session. -/
inductive Failed (arrows : List String) (world : World) (e : Error) : Session → Prop where
  | start {depth : Nat} {id id' : Uuid} {t : Session}
      (h : (Play.start depth id' world).outcome (.withArrows id arrows) = some (.error e, t)) :
      Failed arrows world e t
  | call {s t : Session} {c : Call} {depth : Nat} (hs : Played (fun _ _ => True) arrows world s)
      (h : (c.play depth).outcome s = some (.error e, t)) : Failed arrows world e t

/-- **A request is unsettled only because a stage could not be made known**: with this error a start
or a call of the same session has failed before.  So as long as every stage has become known that
was to, nothing is unsettled. -/
theorem Played.exists_failed_of_unsettled (h : Played (fun _ _ => True) arrows world s)
    {id : String} (hid : 0 < s.unsettled id) :
    ∃ e t stage, Failed arrows world e t ∧ t.Later s ∧ t.stage id = .ok stage ∧
      (Play.materialize stage).outcome t = some (.error e, t) := by
  induction h with
  | @start _ fresh _ _ _ h =>
    rcases start_loses h id with hsame | ⟨-, e, stage, rfl, hstage, hfails⟩
    · -- Before the start nothing was asked for.
      have hnone : (withArrows fresh arrows).unsettled id = 0 := rfl
      omega
    · exact ⟨e, _, stage, .start h, .refl, hstage, hfails⟩
  | call hs _ h ih =>
    have hledger := hs.declared_covered.1
    rcases hledger.call_loses hs.reached.grounded h id with
      hsame | ⟨-, e, stage, rfl, hstage, hfails⟩
    · obtain ⟨e, t, stage, hfailed, hlater, hstage, hfails⟩ := ih (hsame ▸ hid)
      exact ⟨e, t, stage, hfailed, .call hlater h, hstage, hfails⟩
    · exact ⟨e, _, stage, .call hs h, .refl, hstage, hfails⟩

/-- **Loaded means known.**  In every session, whatever stages are loaded, by codes or by the
surroundings, and in whatever order their batches arrive: all that is known is declared by stages
that count as loaded; and of a stage that counts as loaded and does not wait for a batch everything
is known, provided that no request for it is unsettled.  No request is unsettled at first, and one
comes to be so only where a start or a call ends because its stage could not be made known; so if
one is unsettled, this has happened in the session before. -/
theorem Played.loaded_means_known (h : Played (fun _ _ => True) arrows world s) :
    s.Declared ∧
    (∀ stage ∈ world.stages, s.player.hasLoaded stage.id = true →
      stage.id ∉ s.pendingLoads.map Prod.snd → s.unsettled stage.id = 0 →
      s.catalog.Covers stage) ∧
    (∀ (depth : Nat) (id id' : Uuid) (r : Except Error Unit) (t : Session),
      (Play.start depth id' world).outcome (.withArrows id arrows) = some (r, t) →
      (∀ stage, (withArrows id arrows).unsettled stage = 0) ∧ (withArrows id arrows).Loses r t) ∧
    (∀ (c : Call) (depth : Nat) (r : Except Error Unit) (t : Session),
      (c.play depth).outcome s = some (r, t) → s.Loses r t) ∧
    ∀ id, 0 < s.unsettled id → ∃ e t stage, Failed arrows world e t ∧ t.Later s ∧
      t.stage id = .ok stage ∧ (Play.materialize stage).outcome t = some (.error e, t) := by
  obtain ⟨hledger, hdeclared, hcovered⟩ := h.declared_covered
  refine ⟨hdeclared, ?_, ?_, ?_, fun id => h.exists_failed_of_unsettled⟩
  · intro stage hmem hloaded hwaits hsettled
    -- The stage that the session finds under the id is this one.
    obtain ⟨found, hfound⟩ := hledger.staged stage.id hloaded
    obtain ⟨hid, w, hw, hfoundmem⟩ := stage_ok hfound
    obtain ⟨rfl, hvalid⟩ := h.world_accepted hw
    obtain rfl := World.eq_of_validate hvalid hfoundmem hmem hid
    -- It was asked for, so one request for it has been met.
    have hrequests := (hledger.loaded found.id).1 hloaded
    have hnone : s.waitingFor found.id = 0 :=
      Nat.eq_zero_of_not_pos fun hpos => hwaits (mem_pendingLoads_iff.2 hpos)
    rw [unsettled, hnone] at hsettled
    exact hcovered found.id found hfound (by omega)
  · intro depth id id' r t hstart
    exact ⟨fun _ => rfl, start_loses hstart⟩
  · intro c depth r t hcall
    exact hledger.call_loses h.reached.grounded hcall

/-- The keep is loaded by the surroundings.  It counts as loaded while it waits for its picture, and
nothing of it is known; of the gate before it, which does not wait, everything is. -/
theorem loaded_means_known_gate :
    ∃ s, Played (fun _ _ => True) ["left"] .gate s ∧ s.pendingLoads = [(0, "keep")] ∧
      s.player.hasLoaded "keep" = true ∧ s.catalog.scenes.contains "hall" = false ∧
      ∃ stage ∈ World.gate.stages, stage.id = "gate" ∧ s.catalog.Covers stage := by
  have hstart := @Played.start (fun _ _ => True) ["left"] .gate 3 (.ofNat 0) (.ofNat 1) _ _ rfl
  have hload := @Played.call _ _ _ _ _ (.loadStage "keep") 3 _ hstart trivial rfl
  have hgate := hload.loaded_means_known.2.1 _ (.head _) rfl (by decide) rfl
  exact ⟨_, hload, rfl, rfl, rfl, _, .head _, rfl, hgate⟩

end

end Adventure
