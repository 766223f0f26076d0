import Adventure.Proofs.WellFormed

/-!
# Sessions that hold sound scripts only

As soon as the first stage of a well-formed world is known, every script that the session holds is
sound in what is known, and what a stage declares is known before its scripts can be run.  So no
action is refused, every scene can be shown, and every stage that is asked for becomes known.

## Main definitions

* `Session.scope`: the names that are known
* `Session.Orderly`: everything that a session holds is sound
* `Session.Ready`: everything that the first stage declares is known

## Main results

* `Orderly.finished`: a stage becomes known with all that its scripts use
* `Halt.not_ready`: no step fails
* `Keeps.ready`: scripts and events keep everything sound
-/

namespace Adventure

open Session

/-! ## What is known -/

namespace Session

variable {s t : Session} {w : World} {arrows : List String}

/-- The names that are known in a session. -/
def scope (s : Session) : Scope where
  scenes := s.catalog.scenes.contains
  objects := s.catalog.objects.contains
  procedures := s.catalog.procedures.contains
  tracks := s.catalog.audio.contains
  puzzles id := s.world.any fun w => w.puzzles.contains id

theorem Extends.scope (h : s.Extends t) : s.scope.Within t.scope where
  scenes := h.catalog.scenes
  objects := h.catalog.contains_objects
  procedures := h.catalog.contains_procedures
  tracks := h.catalog.contains_audio
  puzzles hid := by
    unfold Session.scope
    rwa [h.world]

/-- **Everything that is held is sound**: the session plays a world whose first stage was asked for,
and the scripts that it holds, those of the parameters aside, use what is known only. -/
structure Orderly (w : World) (arrows : List String) (s : Session) : Prop where
  world : s.world = some w
  parameters : s.catalog.parameters = w.parameters
  known : ∀ {id}, arrows.contains id = true → s.catalog.objects.contains id = true
  loaded : ∀ stage ∈ w.base, s.player.hasLoaded stage.id = true
  scenes : ∀ {id scene}, s.catalog.scenes.get? id = some scene → scene.Sound s.scope
  procedures : ∀ {name script}, s.catalog.procedures.get? name = some script →
    ∀ a ∈ script, a.Sound s.scope
  buttons : ∀ {scripts}, s.player.pending = some scripts →
    ∀ script ∈ scripts, ∀ a ∈ script, a.Sound s.scope
  timers : ∀ e ∈ s.pendingTimers, ∀ a ∈ e.2, a.Sound s.scope
  loads : ∀ e ∈ s.pendingLoads, ∃ stage, w.stage? e.2 = some stage

/-- Everything that the first stage declares is known. -/
structure Ready (w : World) (arrows : List String) (s : Session) : Prop extends
    s.Orderly w arrows where
  base : (w.scope arrows w.base).Within s.scope

/-- A step that makes nothing known keeps a session in order if the scripts that are new are
sound. -/
theorem Orderly.step (h : s.Orderly w arrows) (hx : s.Extends t) (hc : t.catalog = s.catalog)
    (hbuttons : ∀ {scripts}, t.player.pending = some scripts → s.player.pending = some scripts ∨
      ∀ script ∈ scripts, ∀ a ∈ script, a.Sound s.scope)
    (htimers : ∀ e ∈ t.pendingTimers, e ∈ s.pendingTimers ∨ ∀ a ∈ e.2, a.Sound s.scope)
    (hloads : ∀ e ∈ t.pendingLoads, e ∈ s.pendingLoads ∨ ∃ stage, w.stage? e.2 = some stage) :
    t.Orderly w arrows where
  world := hx.world.trans h.world
  parameters := by
    rw [hc]
    exact h.parameters
  known hid := hx.catalog.contains_objects (h.known hid)
  loaded stage hs := hx.loaded (h.loaded stage hs)
  scenes hget := by
    rw [hc] at hget
    exact (h.scenes hget).mono hx.scope
  procedures hget a ha := by
    rw [hc] at hget
    exact (h.procedures hget a ha).mono hx.scope
  buttons hp script hs a ha := by
    rcases hbuttons hp with hp | hsound
    · exact (h.buttons hp script hs a ha).mono hx.scope
    · exact (hsound script hs a ha).mono hx.scope
  timers e he a ha := by
    rcases htimers e he with he | hsound
    · exact (h.timers e he a ha).mono hx.scope
    · exact (hsound a ha).mono hx.scope
  loads e he := (hloads e he).elim (h.loads e) id

/-! ## Look-ups that succeed -/

theorem Orderly.stage (h : s.Orderly w arrows) {id : String} {stage : Stage} :
    s.stage id = .ok stage ↔ w.stage? id = some stage := by
  unfold Session.stage worldOf
  rw [h.world]
  cases hs : w.stage? id with
  | none => simp [bind, Except.bind, hs]
  | some found => simp [bind, Except.bind, hs]

theorem Orderly.mem_stages (h : s.Orderly w arrows) {id : String} {stage : Stage}
    (hs : s.stage id = .ok stage) : stage ∈ w.stages := by
  obtain ⟨-, v, hv, hmem⟩ := stage_ok hs
  rwa [Option.some.inj (hv.symm.trans h.world)] at hmem

theorem Orderly.puzzle (h : s.Orderly w arrows) {id : String} {puzzle : Puzzle} :
    s.puzzle id = .ok puzzle ↔ w.puzzles.get? id = some puzzle := by
  unfold Session.puzzle worldOf
  rw [h.world]
  exact Catalog.look_ok_iff

theorem exists_mapM {α β ε : Type} {f : α → Except ε β} {l : List α}
    (h : ∀ a ∈ l, ∃ b, f a = .ok b) : ∃ m, l.mapM f = .ok m := by
  induction l with
  | nil => exact ⟨[], rfl⟩
  | cons a l ih =>
    obtain ⟨b, hb⟩ := h a (.head _)
    obtain ⟨m, hm⟩ := ih fun c hc => h c (.tail _ hc)
    exact ⟨b :: m, by rw [List.mapM_cons, hb, hm]; rfl⟩

/-- **The current scene can be shown**: its objects are known and its guards can be evaluated. -/
theorem Orderly.exists_plan (h : s.Orderly w arrows) : ∃ plan, s.plan? = .ok plan := by
  unfold plan?
  cases hhere : s.here? with
  | none => exact ⟨[], rfl⟩
  | some scene =>
    obtain ⟨id, -, hscene⟩ := here?_eq_some hhere
    -- The scene is known, so whatever it reacts to is known and each script of it is sound.
    have hsound := h.scenes hscene
    apply exists_mapM
    intro e he
    have hkey : s.catalog.objects.contains e.1 = true :=
      hsound.objects e.1 (List.mem_map.2 ⟨e, he, rfl⟩)
    obtain ⟨object, hobject⟩ := Table.contains_iff.1 hkey
    have hscript : e.2 ∈ scene.scripts := by
      have hvalue : e.2 ∈ scene.interactive.values := List.mem_map.2 ⟨e, he, rfl⟩
      simp [Scene.scripts, hvalue]
    obtain ⟨active, hactive⟩ := exists_anyActive s.player (hsound.scripts e.2 hscript)
    refine ⟨(e.1, active), ?_⟩
    rw [Catalog.object, Catalog.look_ok_iff.2 hobject, hactive]
    rfl

/-- A code can be looked up if its puzzle is declared. -/
theorem Orderly.exists_targets (h : s.Orderly w arrows) (hw : w.WellFormed arrows)
    {puzzle : Option String} {id : String} (hp : s.puzzleFor puzzle = .ok id)
    (hd : w.puzzles.contains id = true) (code : String) :
    ∃ targets, s.targetsOf puzzle code = .ok targets := by
  obtain ⟨declared, hget⟩ := Table.contains_iff.1 hd
  obtain ⟨solutions, hs, -⟩ := hw.exists_solutions hget
  obtain ⟨targets, ht⟩ : ∃ targets, declared.targets (Text.trim code) = .ok targets :=
    ⟨_, bind_eq_ok_iff.2 ⟨solutions, hs, rfl⟩⟩
  refine ⟨(id, targets), bind_eq_ok_iff.2 ⟨id, hp, ?_⟩⟩
  refine bind_eq_ok_iff.2 ⟨declared, h.puzzle.2 hget, bind_eq_ok_iff.2 ⟨targets, ?_, rfl⟩⟩
  rw [ht]
  rfl

/-- The codes of puzzles lead to declared stages. -/
theorem Orderly.exists_stage (h : s.Orderly w arrows) (hw : w.WellFormed arrows)
    {puzzle code stage : String} {declared : Puzzle} {targets : List String}
    (hp : s.puzzle puzzle = .ok declared) (ht : declared.targets code = .ok targets)
    (hs : stage ∈ targets) : ∃ found, w.stage? stage = some found := by
  obtain ⟨solutions, hsolutions, hstages⟩ := hw.exists_solutions (h.puzzle.1 hp)
  unfold Puzzle.targets at ht
  rw [hsolutions] at ht
  cases ht
  obtain ⟨target, htarget, rfl⟩ := List.mem_map.1 hs
  exact hstages target (List.mem_filter.1 htarget).1

/-! ## Stages -/

/-- A scene of an id is known, and a stage that declares one counts as loaded. -/
def Offers (s : Session) (id : String) : Prop :=
  s.catalog.scenes.contains id = true ∧ ∃ scene, s.Loaded scene ∧ scene.id = id

theorem exists_inheritanceBase {before : List Scene} {id : String}
    (h : (∃ base ∈ before, base.id = id) ∨ s.Offers id) :
    ∃ base, s.inheritanceBase before id = .ok base := by
  unfold inheritanceBase
  cases hfind : before.reverse.find? fun scene => scene.id == id with
  | some base => exact ⟨base, rfl⟩
  | none =>
    -- No scene before has the id, so it is one on offer, and the search through the stages that
    -- count as loaded meets the stage that offers it.
    rcases h with ⟨base, hbase, rfl⟩ | ⟨hknown, scene, ⟨w, hworld, stage, hstage, hloaded, hscene⟩, rfl⟩
    · have hne := List.find?_eq_none.1 hfind base (List.mem_reverse.2 hbase)
      exact absurd (beq_self_eq_true base.id) hne
    · simp only [hknown, Bool.not_true, Bool.false_eq_true, if_false, worldOf, hworld]
      have hmem : stage ∈ w.stages.reverse.filter fun stage => s.player.hasLoaded stage.id :=
        List.mem_filter.2 ⟨List.mem_reverse.2 hstage, hloaded⟩
      cases hsome : (w.stages.reverse.filter fun stage =>
          s.player.hasLoaded stage.id).findSome? fun stage =>
            stage.scenes.find? fun other => other.id == scene.id with
      | some base => exact ⟨base, by simp only [bind, Except.bind, hsome]⟩
      | none =>
        have hnone := List.findSome?_eq_none_iff.1 hsome stage hmem
        exact absurd (beq_self_eq_true scene.id) (List.find?_eq_none.1 hnone scene hscene)

/-- Scenes can be resolved if each inherits from one before it or from one on offer. -/
theorem exists_resolve {ids : List String} {before scenes : List Scene}
    (h : Scene.inheritWithin ids scenes = true)
    (hids : ∀ id ∈ ids, (∃ base ∈ before, base.id = id) ∨ s.Offers id) :
    ∃ resolved, s.resolve before scenes = .ok resolved := by
  induction scenes generalizing ids before with
  | nil => exact ⟨[], rfl⟩
  | cons scene rest ih =>
    rw [Scene.inheritWithin, Bool.and_eq_true] at h
    -- The scenes behind this one may inherit from it.
    obtain ⟨others, hrest⟩ := @ih (scene.id :: ids) (before ++ [scene]) h.2 fun id hid => by
      rcases List.mem_cons.1 hid with rfl | hid
      · exact .inl ⟨scene, by simp, rfl⟩
      · rcases hids id hid with ⟨base, hbase, heq⟩ | hoffer
        · exact .inl ⟨base, List.mem_append_left _ hbase, heq⟩
        · exact .inr hoffer
    unfold resolve
    cases hi : scene.inherits with
    | none => exact ⟨scene :: others, by rw [hrest]; rfl⟩
    | some id =>
      have hid : id ∈ ids := List.contains_iff_mem.1 ((Option.all_eq_true _ _).1 h.1 id hi)
      obtain ⟨base, hbase⟩ := exists_inheritanceBase (hids id hid)
      exact ⟨scene.inherit base.interactive :: others, by simp only [hbase, hrest]; rfl⟩

/-- The scenes of a stage can be resolved, at first those of the first stage. -/
theorem Orderly.exists_resolved (h : s.Orderly w arrows) (hw : w.WellFormed arrows)
    {stage : Stage} (hstage : stage ∈ w.stages)
    (hbase : stage ∈ w.base ∨ (w.scope arrows w.base).Within s.scope) :
    ∃ scenes, s.resolve [] stage.scenes = .ok scenes := by
  rw [← List.take_append_drop 1 w.stages, List.mem_append] at hstage
  rcases hbase with hfirst | hbase
  · exact exists_resolve (hw.bases stage hfirst) nofun
  · rcases hstage with hfirst | hlater
    · exact exists_resolve (hw.bases stage hfirst) nofun
    · refine exists_resolve (hw.laterBases stage hlater) fun id hid => .inr ?_
      obtain ⟨scene, hscene, rfl⟩ := List.mem_map.1 hid
      obtain ⟨other, hother, hscene⟩ := List.mem_flatMap.1 hscene
      have hdeclared : (w.scope arrows w.base).scenes scene.id = true :=
        World.scope_scenes.2 ⟨other, hother, scene, hscene, rfl⟩
      exact ⟨hbase.scenes hdeclared, scene, ⟨w, h.world, other,
        World.mem_stages_of_mem_base hother, h.loaded other hother, hscene⟩, rfl⟩

/-- What a stage declares is known in the end. -/
theorem scope_finished (hworld : s.world = some w) {stage : Stage} (hstage : stage ∈ w.stages)
    {scenes : List Scene} (hscenes : s.resolve [] stage.scenes = .ok scenes)
    (hknown : ∀ {id}, arrows.contains id = true →
      (s.finished stage scenes).catalog.objects.contains id = true) :
    (w.scope arrows [stage]).Within (s.finished stage scenes).scope := by
  have hfrom := (resolve_becomes hworld hstage hscenes).2
  constructor
  case scenes =>
    intro id hid
    obtain ⟨other, hother, d, hd, rfl⟩ := World.scope_scenes.1 hid
    obtain rfl := List.mem_singleton.1 hother
    obtain ⟨r, hr, hbecomes⟩ := hfrom d hd
    rw [← hbecomes.id_eq]
    exact Catalog.contains_scenes_learnAll other.audio hr
  case objects =>
    intro id hid
    rcases World.scope_objects.1 hid with harrow | ⟨other, hother, d, hd, area, harea, rfl⟩
    · exact hknown harrow
    · obtain rfl := List.mem_singleton.1 hother
      obtain ⟨r, hr, hbecomes⟩ := hfrom d hd
      have harea' : area ∈ r.hotspots := by rwa [hbecomes.eq]
      exact Catalog.contains_objects_learnAll other.audio hr harea'
  case procedures =>
    intro name hname
    obtain ⟨other, hother, d, hd, hname⟩ := World.scope_procedures.1 hname
    obtain rfl := List.mem_singleton.1 hother
    obtain ⟨r, hr, hbecomes⟩ := hfrom d hd
    have hname' : r.procedures.contains name = true := by rwa [hbecomes.eq]
    exact Catalog.contains_procedures_learnAll other.audio hr hname'
  case tracks =>
    intro key hkey
    obtain ⟨other, hother, htrack⟩ := World.scope_tracks.1 hkey
    obtain rfl := List.mem_singleton.1 hother
    exact Catalog.contains_audio_learnAll other.audio htrack
  case puzzles =>
    intro id hid
    show (s.world.any fun w => w.puzzles.contains id) = true
    rw [hworld]
    exact hid

/-- **A stage becomes known** with all that its scripts use, if the first stage is known or is this
stage. -/
theorem Orderly.finished (h : s.Orderly w arrows) (hw : w.WellFormed arrows) {stage : Stage}
    (hstage : stage ∈ w.stages) {scenes : List Scene}
    (hscenes : s.resolve [] stage.scenes = .ok scenes)
    (hbase : stage ∈ w.base ∨ (w.scope arrows w.base).Within s.scope) :
    (s.finished stage scenes).Ready w arrows := by
  have hx : s.Extends (s.finished stage scenes) := extends_finished s stage scenes
  have hknown : ∀ {id}, arrows.contains id = true →
      (s.finished stage scenes).catalog.objects.contains id = true :=
    fun hid => hx.catalog.contains_objects (h.known hid)
  have hown := scope_finished h.world hstage hscenes hknown
  have hfirst : (w.scope arrows w.base).Within (s.finished stage scenes).scope := by
    rcases hbase with hfirst | hbase
    · refine .trans (World.scope_mono ?_) hown
      intro other hother
      exact List.mem_singleton.2 (World.eq_of_mem_base hother hfirst)
    · exact hbase.trans hx.scope
  have hnear : (w.scopeOf arrows stage).Within (s.finished stage scenes).scope :=
    World.scope_cons hown hfirst
  -- What is new is sound in the scope of its stage, and this scope is known now.
  have hsound : ∀ r ∈ scenes, r.Sound (s.finished stage scenes).scope := fun r hr => by
    obtain ⟨d, hd, hbecomes⟩ := (resolve_becomes h.world hstage hscenes).1 r hr
    exact (hw.becomes_sound hstage hd hbecomes).mono hnear
  refine ⟨⟨h.world, ?_, hknown, h.loaded, ?_, ?_, ?_, ?_, h.loads⟩, hfirst⟩
  · exact hx.catalog.parameters.trans h.parameters
  · intro id scene hget
    rcases Catalog.scenes_learnAll_cases hget with hget | ⟨hmem, -⟩
    · exact (h.scenes hget).mono hx.scope
    · exact hsound scene hmem
  · intro name script hget a ha
    rcases Catalog.procedures_learnAll_cases hget with hget | ⟨scene, hmem, hget⟩
    · exact (h.procedures hget a ha).mono hx.scope
    · have hvalue : script ∈ scene.procedures.values := Table.mem_values_iff.2 ⟨name, hget⟩
      exact (hsound scene hmem).scripts script (by simp [Scene.scripts, hvalue]) a ha
  · intro _ hp script hs a ha
    exact (h.buttons hp script hs a ha).mono hx.scope
  · intro e he a ha
    exact (h.timers e he a ha).mono hx.scope

/-! ## Sessions in which the first stage is known -/

theorem Ready.step (h : s.Ready w arrows) (hx : s.Extends t) (hc : t.catalog = s.catalog)
    (hbuttons : ∀ {scripts}, t.player.pending = some scripts → s.player.pending = some scripts ∨
      ∀ script ∈ scripts, ∀ a ∈ script, a.Sound s.scope)
    (htimers : ∀ e ∈ t.pendingTimers, e ∈ s.pendingTimers ∨ ∀ a ∈ e.2, a.Sound s.scope)
    (hloads : ∀ e ∈ t.pendingLoads, e ∈ s.pendingLoads ∨ ∃ stage, w.stage? e.2 = some stage) :
    t.Ready w arrows :=
  ⟨h.toOrderly.step hx hc hbuttons htimers hloads, h.base.trans hx.scope⟩

/-- A step that holds no other scripts and stages. -/
theorem Ready.still (h : s.Ready w arrows) (hx : s.Extends t) (hc : t.catalog = s.catalog)
    (hp : ∀ {scripts}, t.player.pending = some scripts → s.player.pending = some scripts)
    (ht : t.pendingTimers = s.pendingTimers) (hl : t.pendingLoads = s.pendingLoads) :
    t.Ready w arrows :=
  h.step hx hc (fun h => .inl (hp h)) (fun _ he => .inl (ht ▸ he)) fun _ he => .inl (hl ▸ he)

theorem Ready.requested (h : s.Ready w arrows) (id : String) : (s.requested id).Ready w arrows :=
  h.still (extends_requested s id) rfl (fun hp => hp) rfl rfl

theorem Ready.reported (h : s.Ready w arrows) (batch : Ticket) :
    (s.reported batch).Ready w arrows :=
  h.step (extends_reported s batch) rfl .inl (fun _ he => .inl he)
    fun _ he => .inl (mem_of_mem_dropWaiting he)

/-- **Every script that a session can come to run is sound.** -/
theorem Ready.stored (h : s.Ready w arrows) (hw : w.WellFormed arrows) {script : Script}
    (hs : s.Stored script) : ∀ a ∈ script, a.Sound s.scope := by
  have hscene : ∀ {id scene}, s.catalog.scenes.get? id = some scene → script ∈ scene.scripts →
      ∀ a ∈ script, a.Sound s.scope :=
    fun hget hmem => (h.scenes hget).scripts script hmem
  have hdefault : script ∈ w.defaultScripts → ∀ a ∈ script, a.Sound s.scope :=
    fun hmem a ha => (hw.sound_defaults hmem a ha).mono h.base
  cases hs with
  | procedure hget => exact h.procedures hget
  | interaction hget ho =>
    exact hscene hget (Scene.mem_scripts_of_interaction (Table.mem_values_iff.2 ⟨_, ho⟩))
  | entry hget => exact hscene hget (by simp [Scene.scripts])
  | firstEntry hget => exact hscene hget (by simp [Scene.scripts])
  | wrongCode hget hwrong => exact hscene hget (by simp [Scene.scripts, hwrong])
  | wrongCodeDefault => exact hdefault (by simp [World.defaultScripts, h.parameters])
  | rediscovered => exact hdefault (by simp [World.defaultScripts, h.parameters])
  | button hp hmem => exact h.buttons hp script hmem
  | timer hmem => exact h.timers _ hmem

/-- A stage has become known with all that its load actions use. -/
theorem Ready.opens (h : s.Ready w arrows) {stage : Stage} (ho : s.Opens stage) :
    stage ∈ w.stages ∧ (w.scopeOf arrows stage).Within s.scope := by
  cases ho with
  | @finished s id scenes hstage hscenes =>
    -- Of the session before, only the world is known.
    have hworld : s.world = some w := h.world
    obtain ⟨-, v, hv, hmem⟩ := stage_ok hstage
    obtain rfl := Option.some.inj (hworld.symm.trans hv)
    exact ⟨hmem, World.scope_cons (scope_finished hworld hmem hscenes h.known) h.base⟩

end Session

/-! ## Steps -/

/-- Scripts perform what is sound in what is known, and the surroundings load no stage. -/
def Policy.sound : Policy where
  performs s a := a.Sound s.scope
  loads _ _ := False

section Steps

variable {w : World} {arrows : List String} {s t : Session} {e : Error}
  (hw : w.WellFormed arrows)
include hw

/-- **No sound action is refused.** -/
theorem Session.Ready.not_rejects (h : s.Ready w arrows) {a : Action} (ha : a.Sound s.scope) :
    ¬s.Rejects a e := by
  have hfits : a.effect.fits s.scope = true := (Bool.and_eq_true_iff.1 ha.fits).2
  intro hr
  -- Each reason to refuse an action contradicts what it means to be sound for its effect.
  cases hr with
  | guard hpasses =>
    obtain ⟨passes, hok⟩ := ha.exists_passes s.player
    cases hok.symm.trans hpasses
  | scene he hget =>
    rw [he] at hfits
    rw [Table.get?_eq_none_iff] at hget
    cases hget.symm.trans hfits
  | @object id object scene he hget hunknown =>
    have hmem : object ∈ scene.interactive.keys := List.mem_of_find?_eq_some hunknown
    have hknown : s.catalog.objects.contains object = true := (h.scenes hget).objects object hmem
    have hnot := List.find?_some hunknown
    simp [hknown] at hnot
  | @code puzzle code e he htargets =>
    rw [he] at hfits
    obtain ⟨id, rfl, hid⟩ := (Option.any_eq_true _ _).1 hfits
    have hdeclared : w.puzzles.contains id = true := by
      have hscope : (s.world.any fun w => w.puzzles.contains id) = true := hid
      rwa [h.world] at hscope
    have hid' : s.puzzleFor (some id) = .ok id := rfl
    obtain ⟨targets, hok⟩ := h.exists_targets hw hid' hdeclared code
    cases hok.symm.trans htargets
  | @uneven text scripts buttons he hne =>
    have hvalid := ha.valid
    unfold Action.validate at hvalid
    rw [he] at hvalid
    exact hne (length_eq_of_validate hvalid)
  | increment he =>
    rw [he] at hfits
    cases hfits
  | delay he hdelay =>
    rw [he, Effect.fits, hdelay] at hfits
    cases hfits
  | @track key he hunknown =>
    have hknown : s.catalog.audio.contains key = true := Effect.tracks_of_fits hfits he
    cases hknown.symm.trans hunknown
  | procedure he hget =>
    rw [he] at hfits
    rw [Table.get?_eq_none_iff] at hget
    cases hget.symm.trans hfits
  | unrecognized he =>
    rw [he] at hfits
    cases hfits

/-- A stage that a code leads to is declared. -/
theorem Session.Ready.asked (h : s.Ready w arrows) {id : String} (ha : Asked .sound s id t) :
    t.Ready w arrows ∧ ∃ stage, t.stage id = .ok stage := by
  cases ha with
  | direct hloads => exact hloads.elim
  | @code puzzle code declared targets hp ht hs hfresh =>
    have hsolved : (s.solved puzzle (Text.trim code)).Ready w arrows :=
      h.still (extends_solved s _ _) rfl (fun hp => hp) rfl rfl
    obtain ⟨stage, hstage⟩ := h.exists_stage hw hp ht hs
    exact ⟨hsolved, stage, hsolved.stage.2 hstage⟩

/-- **Every step keeps everything sound.** -/
theorem Move.ready (h : Move .sound s t) (hs : s.Ready w arrows) : t.Ready w arrows := by
  have hx := h.extends
  -- A stage becomes known in two steps; a few others hold a script or a stage that is new.
  cases h with
  | @load id stage scenes u hasked hstage hneeds hscenes =>
    have hu := (hs.asked hw hasked).1.requested id
    exact hu.finished hw (hu.mem_stages hstage) hscenes (.inr hu.base)
  | @complete batch id stage scenes hwaiting hstage hscenes =>
    have hreported := hs.reported batch
    exact hreported.finished hw (hs.mem_stages hstage) hscenes (.inr hreported.base)
  | @preload id stage u hasked hstage hneeds =>
    have hu := (hs.asked hw hasked).1.requested id
    refine hu.step (extends_preloading _ stage) rfl .inl (fun _ he => .inl he) ?_
    intro e he
    rcases List.mem_append.1 he with he | he
    · exact .inl he
    · obtain rfl := List.mem_singleton.1 he
      obtain rfl : stage.id = id := stage_id hstage
      exact .inr ⟨stage, hu.stage.1 hstage⟩
  | @block a text buttons scripts ha hinner hl =>
    refine hs.step hx rfl (fun hp => .inr ?_) (fun _ he => .inl he) fun _ he => .inl he
    cases hp
    intro script hscript
    exact ha.inner (hinner script hscript)
  | @schedule a delay duration next ha he hd =>
    refine hs.step hx rfl .inl ?_ fun _ he => .inl he
    intro e hmem
    rcases List.mem_append.1 hmem with hmem | hmem
    · exact .inl hmem
    · obtain rfl := List.mem_singleton.1 hmem
      exact .inr (ha.inner (by simp [he, Effect.inner]))
  | fire =>
    exact hs.step hx rfl .inl (fun _ he => .inl (mem_of_mem_dropWaiting he)) fun _ he => .inl he
  | notice | answer =>
    refine hs.still hx rfl ?_ rfl rfl
    intro _ hp
    cases hp
  | enter | hide | close | assign | increment | fade | swell | play | stop | redirect | tune
  | clear | queue | reportBatches | reportTimers =>
    exact hs.still hx rfl (fun hp => hp) rfl rfl

/-- **No step fails.** -/
theorem Halt.not_ready (h : Halt .sound s e t) (hs : s.Ready w arrows) : False := by
  -- Where a scene is shown, the session is ready and so has a plan.
  have hshow : ∀ {u : Session}, u.Ready w arrows → u.plan? ≠ .error e := by
    intro u hu hplan
    obtain ⟨plan, hok⟩ := hu.exists_plan
    cases hok.symm.trans hplan
  cases h with
  | reject ha hr => exact hs.not_rejects hw ha hr
  | @strand a id scene e ha he hscene hknown hplan =>
    have hx := (extends_left s).trans (extends_arrived s.left id)
    exact hshow (hs.still hx rfl (fun hp => hp) rfl rfl) hplan
  | close ho hplan =>
    have hclosed : s.noticeClosed.Ready w arrows :=
      hs.still (extends_noticeClosed s) rfl (fun hp => hp) rfl rfl
    exact hshow hclosed hplan
  | answer hp hplan =>
    have hanswered : s.answered.Ready w arrows :=
      hs.still (extends_answered s) rfl nofun rfl rfl
    exact hshow hanswered hplan
  | unstaged hasked hstage =>
    obtain ⟨-, stage, hok⟩ := hs.asked hw hasked
    cases hok.symm.trans hstage
  | @unresolved id stage u e hasked hstage hneeds hscenes =>
    have hu := (hs.asked hw hasked).1.requested id
    obtain ⟨scenes, hok⟩ := hu.exists_resolved hw (hu.mem_stages hstage) (.inr hu.base)
    cases hok.symm.trans hscenes
  | @incomplete batch id e hwaiting hscenes =>
    -- Stages that wait were found when they were asked for.
    obtain ⟨serial, -, hmem⟩ := mem_of_waiting? hwaiting
    obtain ⟨stage, hfound⟩ := hs.loads _ hmem
    have hstage : s.stage id = .ok stage := hs.stage.2 hfound
    have hreported := hs.reported batch
    obtain ⟨scenes, hok⟩ :=
      hreported.exists_resolved hw (hs.mem_stages hstage) (.inr hreported.base)
    cases (bind_eq_ok_iff.2 ⟨stage, hstage, hok⟩).symm.trans hscenes

/-- **Scripts and events keep everything sound and do not fail**, once the first stage is known. -/
theorem Keeps.ready : Keeps .sound (Session.Ready w arrows) fun _ _ => False where
  move _ hI hm _ := hm.ready hw hI
  halt _ hI hh := hh.not_ready hw hI
  lasting _ _ hm ha := ha.mono hm.extends.scope
  stored hI hs := hI.stored hw hs
  inner ha hs := ha.inner hs
  loading {s stage} hI ho a ha := by
    obtain ⟨hstage, hwithin⟩ := hI.opens ho
    exact (hw.sound_scripts hstage (.head _) a ha).mono hwithin
  opening {s stage scene} hI ho hscene := by
    have hmem : scene ∈ stage.scenes := List.mem_of_mem_head? hscene
    have hid : (w.scopeOf arrows stage).scenes scene.id = true :=
      World.scope_scenes.2 ⟨stage, .head _, scene, hmem, rfl⟩
    have hknown : s.catalog.scenes.contains scene.id = true := (hI.opens ho).2.scenes hid
    exact ⟨rfl, hknown, nofun⟩

end Steps

end Adventure
