import Adventure.Proofs.Registration
import Adventure.Proofs.Scopes

/-!
# Well-formed worlds

A world is well-formed if its scripts use nothing but what is declared where they can be run: by the
stage that owns them or by the first stage.  This can be checked before the world is played.

## Main definitions

* `World.scope`: the names that some stages declare
* `World.WellFormed`: the check of a world

## Main results

* `World.WellFormed.sound_scripts`: the scripts of a stage are sound in its scope
* `World.WellFormed.becomes_sound`: scenes are sound with what they inherit
-/

namespace Adventure

/-! ## Worlds -/

/-- The scripts of a scene. -/
def Scene.scripts (s : Scene) : List Script :=
  s.interactive.values ++ s.procedures.values ++ [s.entryActions, s.firstEntryActions] ++
    s.wrongCodeActions.toList

/-- A scene that inherits interactions holds their scripts and its own ones. -/
theorem Scene.mem_scripts_inherit {d : Scene} {base : Table Script} {script : Script}
    (h : script ∈ (d.inherit base).scripts) : script ∈ d.scripts ∨ script ∈ base.values := by
  simp only [Scene.scripts, Scene.inherit, List.mem_append] at h ⊢
  rcases h with ((h | h) | h) | h
  · exact (Table.mem_values_union h).imp (fun h => .inl (.inl (.inl h))) fun h => h
  · exact .inl (.inl (.inl (.inr h)))
  · exact .inl (.inl (.inr h))
  · exact .inl (.inr h)

theorem Scene.mem_scripts_of_interaction {scene : Scene} {script : Script}
    (h : script ∈ scene.interactive.values) : script ∈ scene.scripts := by
  simp [Scene.scripts, h]

/-- **Sound scenes** react to objects of a scope, and their scripts are sound there. -/
structure Scene.Sound (k : Scope) (scene : Scene) : Prop where
  scripts : ∀ script ∈ scene.scripts, ∀ a ∈ script, a.Sound k
  objects : ∀ key ∈ scene.interactive.keys, k.objects key = true

theorem Scene.Sound.mono {k l : Scope} (h : k.Within l) {scene : Scene} (hs : scene.Sound k) :
    scene.Sound l :=
  ⟨fun script hscript a ha => (hs.scripts script hscript a ha).mono h,
    fun key hkey => h.objects (hs.objects key hkey)⟩

/-- Whether each scene of a list inherits from one before it, or from one of some ids. -/
def Scene.inheritWithin (ids : List String) : List Scene → Bool
  | [] => true
  | scene :: rest => scene.inherits.all ids.contains && inheritWithin (scene.id :: ids) rest

/-- The scripts that a stage owns. -/
def Stage.scripts (s : Stage) : List Script := s.loadActions :: s.scenes.flatMap Scene.scripts

namespace World

variable (w : World) (arrows : List String)

/-- The names that some stages declare, with the arrows and the puzzles. -/
def scope (stages : List Stage) : Scope where
  scenes id := stages.any fun stage => stage.scenes.any fun scene => scene.id == id
  objects id := arrows.contains id || stages.any fun stage => stage.scenes.any fun scene =>
    scene.hotspots.any fun area => area.id == id
  procedures name := stages.any fun stage => stage.scenes.any fun scene =>
    scene.procedures.contains name
  tracks key := stages.any fun stage => stage.audio.contains key
  puzzles id := w.puzzles.contains id

/-- The first stage, as a list. -/
def base : List Stage := w.stages.take 1

/-- The names that the scripts of a stage can use: its own and those of the first stage. -/
def scopeOf (stage : Stage) : Scope := w.scope arrows (stage :: w.base)

/-- The scripts of the parameters. -/
def defaultScripts : List Script :=
  [w.parameters.wrongCodeActions, w.parameters.rediscoveredActions]

/-- **Well-formed worlds** are valid, and use nothing that is not declared where it is used. -/
structure WellFormed : Prop where
  valid : w.validate = .ok ()
  distinct : w.DistinctScenes
  /-- The scripts of a stage fit into its scope. -/
  scripts : ∀ stage ∈ w.stages, ∀ script ∈ stage.scripts, ∀ a ∈ Script.actions script,
    a.fits (w.scopeOf arrows stage) = true
  /-- The scripts of the parameters fit into the scope of the first stage. -/
  defaults : ∀ script ∈ w.defaultScripts, ∀ a ∈ Script.actions script,
    a.fits (w.scope arrows w.base) = true
  /-- Scenes react to arrows and to objects of their own stage and of the first one. -/
  objects : ∀ stage ∈ w.stages, ∀ scene ∈ stage.scenes, ∀ key ∈ scene.interactive.keys,
    (w.scopeOf arrows stage).objects key = true
  /-- In the first stage, scenes inherit from earlier ones. -/
  bases : ∀ stage ∈ w.base, Scene.inheritWithin [] stage.scenes = true
  /-- In later stages, they inherit from earlier ones and from those of the first stage. -/
  laterBases : ∀ stage ∈ w.stages.drop 1,
    Scene.inheritWithin ((w.base.flatMap Stage.scenes).map Scene.id) stage.scenes = true
  /-- The codes of puzzles lead to declared stages. -/
  solutions : ∀ e ∈ w.puzzles.entries, ∀ target ∈ e.2.solutions.toOption.getD [],
    (w.stage? target.2).isSome = true

end World

/-! ## Valid worlds -/

theorem validate_of_forM {α : Type} {f : α → Except Defect Unit} {l : List α}
    (h : l.forM f = .ok ()) : ∀ a ∈ l, f a = .ok () := by
  induction l with
  | nil =>
    intro a ha
    cases ha
  | cons b rest ih =>
    obtain ⟨⟨⟩, hb, hrest⟩ := bind_eq_ok_iff.1 h
    intro a ha
    rcases List.mem_cons.1 ha with rfl | ha
    · exact hb
    · exact ih hrest a ha

theorem Scene.validate_scripts {scene : Scene} (h : scene.validate = .ok ()) :
    ∀ script ∈ scene.scripts, validateScript script = .ok () := by
  obtain ⟨⟨⟩, hinteractive, h⟩ := bind_eq_ok_iff.1 h
  obtain ⟨⟨⟩, hprocedures, h⟩ := bind_eq_ok_iff.1 h
  obtain ⟨⟨⟩, hentry, h⟩ := bind_eq_ok_iff.1 h
  obtain ⟨⟨⟩, hfirst, hwrong⟩ := bind_eq_ok_iff.1 h
  intro script hs
  simp only [scripts, List.mem_append, List.mem_cons, List.not_mem_nil, or_false,
    Option.mem_toList] at hs
  rcases hs with ((hs | hs) | rfl | rfl) | hs
  · exact validateScript_of_validateScripts hinteractive script hs
  · exact validateScript_of_validateScripts hprocedures script hs
  · exact hentry
  · exact hfirst
  · rwa [hs] at hwrong

theorem Stage.validate_scripts {stage : Stage} (h : stage.validate = .ok ()) :
    ∀ script ∈ stage.scripts, validateScript script = .ok () := by
  obtain ⟨⟨⟩, hload, hscenes⟩ := bind_eq_ok_iff.1 h
  intro script hs
  rcases List.mem_cons.1 hs with rfl | hs
  · exact hload
  · obtain ⟨scene, hscene, hs⟩ := List.mem_flatMap.1 hs
    exact Scene.validate_scripts (validate_of_forM hscenes scene hscene) script hs

theorem World.validate_of_validateStages {seen : Names} {stages : List Stage}
    (h : validateStages seen stages = .ok ()) : ∀ stage ∈ stages, stage.validate = .ok () := by
  induction stages generalizing seen with
  | nil =>
    intro stage hs
    cases hs
  | cons first rest ih =>
    rw [validateStages] at h
    split at h
    · cases h
    · obtain ⟨⟨⟩, hfirst, hrest⟩ := bind_eq_ok_iff.1 h
      intro stage hs
      rcases List.mem_cons.1 hs with rfl | hs
      · exact hfirst
      · exact ih hrest stage hs

theorem World.solutions_of_validatePuzzles {puzzles : List (String × Puzzle)}
    (h : validatePuzzles puzzles = .ok ()) :
    ∀ e ∈ puzzles, ∃ solutions, e.2.solutions = .ok solutions := by
  induction puzzles with
  | nil =>
    intro e he
    cases he
  | cons first rest ih =>
    rw [validatePuzzles] at h
    obtain ⟨solutions, hfirst, hrest⟩ := bind_eq_ok_iff.1 h
    intro e he
    rcases List.mem_cons.1 he with rfl | he
    · cases hs : e.2.solutions with
      | ok solutions => exact ⟨solutions, rfl⟩
      | error defect =>
        rw [hs] at hfirst
        cases hfirst
    · exact ih hrest e he

namespace World

variable {w : World} {arrows : List String} {stage : Stage}

theorem mem_stages_of_mem_base (h : stage ∈ w.base) : stage ∈ w.stages :=
  List.mem_of_mem_take h

theorem mem_base_iff : stage ∈ w.base ↔ w.firstStage = .ok stage := by
  unfold base firstStage
  cases w.stages with
  | nil => simp
  | cons first rest => simp [eq_comm]

/-- There is one first stage at most. -/
theorem eq_of_mem_base {other : Stage} (h : stage ∈ w.base) (h' : other ∈ w.base) :
    stage = other := by
  rw [mem_base_iff] at h h'
  exact Except.ok.inj (h.symm.trans h')

/-- The first stage is found under its id. -/
theorem stage?_of_mem_base (h : stage ∈ w.base) : w.stage? stage.id = some stage := by
  rw [mem_base_iff] at h
  unfold firstStage at h
  unfold stage?
  split at h
  · cases h
  · next first rest hstages =>
    cases h
    rw [hstages]
    exact List.find?_cons_of_pos (beq_self_eq_true stage.id)

theorem scope_scenes {stages : List Stage} {id : String} :
    (w.scope arrows stages).scenes id = true ↔
      ∃ stage ∈ stages, ∃ scene ∈ stage.scenes, scene.id = id := by
  simp [scope]

theorem scope_objects {stages : List Stage} {id : String} :
    (w.scope arrows stages).objects id = true ↔ arrows.contains id = true ∨
      ∃ stage ∈ stages, ∃ scene ∈ stage.scenes, ∃ area ∈ scene.hotspots, area.id = id := by
  simp [scope]

theorem scope_procedures {stages : List Stage} {name : String} :
    (w.scope arrows stages).procedures name = true ↔
      ∃ stage ∈ stages, ∃ scene ∈ stage.scenes, scene.procedures.contains name = true := by
  simp [scope]

theorem scope_tracks {stages : List Stage} {key : String} :
    (w.scope arrows stages).tracks key = true ↔
      ∃ stage ∈ stages, stage.audio.contains key = true := by
  simp [scope]

/-- The names of a stage and of others. -/
theorem scope_cons {k : Scope} {stages : List Stage} (h : (w.scope arrows [stage]).Within k)
    (h' : (w.scope arrows stages).Within k) : (w.scope arrows (stage :: stages)).Within k where
  scenes hid := by
    obtain ⟨other, hother, hdeclared⟩ := scope_scenes.1 hid
    rcases List.mem_cons.1 hother with rfl | hother
    · exact h.scenes (scope_scenes.2 ⟨other, .head _, hdeclared⟩)
    · exact h'.scenes (scope_scenes.2 ⟨other, hother, hdeclared⟩)
  objects hid := by
    rcases scope_objects.1 hid with harrow | ⟨other, hother, hdeclared⟩
    · exact h.objects (scope_objects.2 (.inl harrow))
    · rcases List.mem_cons.1 hother with rfl | hother
      · exact h.objects (scope_objects.2 (.inr ⟨other, .head _, hdeclared⟩))
      · exact h'.objects (scope_objects.2 (.inr ⟨other, hother, hdeclared⟩))
  procedures hname := by
    obtain ⟨other, hother, hdeclared⟩ := scope_procedures.1 hname
    rcases List.mem_cons.1 hother with rfl | hother
    · exact h.procedures (scope_procedures.2 ⟨other, .head _, hdeclared⟩)
    · exact h'.procedures (scope_procedures.2 ⟨other, hother, hdeclared⟩)
  tracks hkey := by
    obtain ⟨other, hother, hdeclared⟩ := scope_tracks.1 hkey
    rcases List.mem_cons.1 hother with rfl | hother
    · exact h.tracks (scope_tracks.2 ⟨other, .head _, hdeclared⟩)
    · exact h'.tracks (scope_tracks.2 ⟨other, hother, hdeclared⟩)
  puzzles := h.puzzles

/-- More stages declare more names. -/
theorem scope_mono {l m : List Stage} (h : ∀ stage ∈ l, stage ∈ m) :
    (w.scope arrows l).Within (w.scope arrows m) where
  scenes hid := by
    obtain ⟨stage, hstage, hid⟩ := scope_scenes.1 hid
    exact scope_scenes.2 ⟨stage, h stage hstage, hid⟩
  objects hid := by
    rcases scope_objects.1 hid with harrow | ⟨stage, hstage, hid⟩
    · exact scope_objects.2 (.inl harrow)
    · exact scope_objects.2 (.inr ⟨stage, h stage hstage, hid⟩)
  procedures hname := by
    obtain ⟨stage, hstage, hname⟩ := scope_procedures.1 hname
    exact scope_procedures.2 ⟨stage, h stage hstage, hname⟩
  tracks hkey := by
    obtain ⟨stage, hstage, hkey⟩ := scope_tracks.1 hkey
    exact scope_tracks.2 ⟨stage, h stage hstage, hkey⟩
  puzzles := id

/-- The scope of a stage holds that of the first one. -/
theorem scopeOf_within {other : Stage} (h : other = stage ∨ other ∈ w.base) :
    (w.scopeOf arrows other).Within (w.scopeOf arrows stage) := by
  apply scope_mono
  intro s hs
  rcases List.mem_cons.1 hs with rfl | hs
  · exact List.mem_cons.2 h
  · exact .tail _ hs

/-- The stages of a valid world are valid. -/
theorem validate_stages (h : w.validate = .ok ()) : ∀ stage ∈ w.stages, stage.validate = .ok () := by
  obtain ⟨first, -, h⟩ := bind_eq_ok_iff.1 h
  obtain ⟨⟨⟩, hstages, -⟩ := bind_eq_ok_iff.1 h
  exact validate_of_validateStages hstages

/-- The scripts of the parameters of a valid world are valid. -/
theorem validate_defaultScripts (h : w.validate = .ok ()) :
    ∀ script ∈ w.defaultScripts, validateScript script = .ok () := by
  obtain ⟨first, -, h⟩ := bind_eq_ok_iff.1 h
  obtain ⟨⟨⟩, -, h⟩ := bind_eq_ok_iff.1 h
  obtain ⟨⟨⟩, -, h⟩ := bind_eq_ok_iff.1 h
  obtain ⟨⟨⟩, hwrong, hrediscovered⟩ := bind_eq_ok_iff.1 h
  intro script hs
  simp only [defaultScripts, List.mem_cons, List.not_mem_nil, or_false] at hs
  rcases hs with rfl | rfl
  · exact hwrong
  · exact hrediscovered

namespace WellFormed

variable (hw : w.WellFormed arrows)
include hw

theorem sound_scripts (hstage : stage ∈ w.stages) {script : Script} (hs : script ∈ stage.scripts) :
    ∀ a ∈ script, a.Sound (w.scopeOf arrows stage) :=
  Action.sound_of_script
    (Stage.validate_scripts (validate_stages hw.valid stage hstage) script hs)
    (hw.scripts stage hstage script hs)

theorem sound_defaults {script : Script} (hs : script ∈ w.defaultScripts) :
    ∀ a ∈ script, a.Sound (w.scope arrows w.base) :=
  Action.sound_of_script (validate_defaultScripts hw.valid script hs) (hw.defaults script hs)

/-- Every declared puzzle has solutions, which lead to declared stages. -/
theorem exists_solutions {id : String} {puzzle : Puzzle} (h : w.puzzles.get? id = some puzzle) :
    ∃ solutions, puzzle.solutions = .ok solutions ∧
      ∀ target ∈ solutions, ∃ stage, w.stage? target.2 = some stage := by
  obtain ⟨first, -, hv⟩ := bind_eq_ok_iff.1 hw.valid
  obtain ⟨⟨⟩, -, hv⟩ := bind_eq_ok_iff.1 hv
  obtain ⟨⟨⟩, hpuzzles, -⟩ := bind_eq_ok_iff.1 hv
  have hmem : (id, puzzle) ∈ w.puzzles.entries := Table.mem_entries_iff.2 h
  obtain ⟨solutions, hs⟩ := solutions_of_validatePuzzles hpuzzles _ hmem
  refine ⟨solutions, hs, fun target ht => Option.isSome_iff_exists.1 ?_⟩
  apply hw.solutions _ hmem target
  rw [hs]
  exact ht

end WellFormed

/-! ## Scenes with what they inherit -/

theorem exists_of_inheritWithin {ids : List String} {scenes : List Scene}
    (h : Scene.inheritWithin ids scenes = true) {d : Scene} (hd : d ∈ scenes) {id : String}
    (hi : d.inherits = some id) : id ∈ ids ∨ ∃ base ∈ scenes, base.id = id := by
  induction scenes generalizing ids with
  | nil => cases hd
  | cons scene rest ih =>
    rw [Scene.inheritWithin, Bool.and_eq_true] at h
    rcases List.mem_cons.1 hd with rfl | hd
    · exact .inl (List.contains_iff_mem.1 ((Option.all_eq_true _ _).1 h.1 id hi))
    · rcases ih h.2 hd with hid | ⟨base, hbase, hid⟩
      · rcases List.mem_cons.1 hid with rfl | hid
        · exact .inr ⟨scene, .head _, rfl⟩
        · exact .inl hid
      · exact .inr ⟨base, .tail _ hbase, hid⟩

namespace WellFormed

variable (hw : w.WellFormed arrows)
include hw

/-- A scene inherits from a scene of its stage or of the first one. -/
theorem exists_base (hstage : stage ∈ w.stages) {d base : Scene} (hd : d ∈ stage.scenes)
    (hi : d.inherits = some base.id) (hb : base ∈ w.scenes) :
    ∃ other ∈ w.stages, (other = stage ∨ other ∈ w.base) ∧ base ∈ other.scenes := by
  -- An id stands for one scene, so the base is the scene that the check has found.
  have hfound : ∀ other ∈ w.stages, ∀ scene ∈ other.scenes, scene.id = base.id →
      base ∈ other.scenes := by
    intro other hother scene hscene hid
    rwa [hw.distinct.eq (mem_scenes hother hscene) hb hid] at hscene
  -- A scene of the own stage comes first in both cases.
  have hown : (∃ scene ∈ stage.scenes, scene.id = base.id) →
      ∃ other ∈ w.stages, (other = stage ∨ other ∈ w.base) ∧ base ∈ other.scenes :=
    fun ⟨scene, hscene, hid⟩ => ⟨stage, hstage, .inl rfl, hfound stage hstage scene hscene hid⟩
  rw [← List.take_append_drop 1 w.stages, List.mem_append] at hstage
  rcases hstage with hfirst | hlater
  · rcases exists_of_inheritWithin (hw.bases stage hfirst) hd hi with hid | hid
    · cases hid
    · exact hown hid
  · rcases exists_of_inheritWithin (hw.laterBases stage hlater) hd hi with hid | hid
    · obtain ⟨scene, hscene, hid⟩ := List.mem_map.1 hid
      obtain ⟨other, hother, hscene⟩ := List.mem_flatMap.1 hscene
      have hmem := mem_stages_of_mem_base hother
      exact ⟨other, hmem, .inr hother, hfound other hmem scene hscene hid⟩
    · exact hown hid

/-- **Scenes are sound with what they inherit**, in the scope of their stage. -/
theorem becomes_sound (hstage : stage ∈ w.stages) {d r : Scene} (hd : d ∈ stage.scenes)
    (hr : d.Becomes (· ∈ w.scenes) r) : r.Sound (w.scopeOf arrows stage) := by
  have hscripts : ∀ other ∈ w.stages, ∀ scene ∈ other.scenes, ∀ script ∈ scene.scripts,
      script ∈ other.scripts :=
    fun other _ scene hscene script hs => .tail _ (List.mem_flatMap.2 ⟨scene, hscene, hs⟩)
  have hown : ∀ script ∈ d.scripts, ∀ a ∈ script, a.Sound (w.scopeOf arrows stage) := by
    intro script hs
    exact hw.sound_scripts hstage (hscripts stage hstage d hd script hs)
  cases hr with
  | alone => exact ⟨hown, hw.objects stage hstage d hd⟩
  | @inherit base hi hb =>
    obtain ⟨other, hother, hnear, hbase⟩ := hw.exists_base hstage hd hi hb
    have hwithin : (w.scopeOf arrows other).Within (w.scopeOf arrows stage) :=
      scopeOf_within hnear
    constructor
    · intro script hs
      rcases Scene.mem_scripts_inherit hs with hs | hs
      · exact hown script hs
      · -- An inherited script is owned by the stage of the base, whose scope is within this one.
        have hbaseScript : script ∈ base.scripts := Scene.mem_scripts_of_interaction hs
        intro a ha
        exact (hw.sound_scripts hother (hscripts other hother base hbase script hbaseScript)
          a ha).mono hwithin
    · intro key hkey
      rw [Table.mem_keys_iff, Scene.inherit, Table.contains_union, Bool.or_eq_true] at hkey
      rcases hkey with hkey | hkey
      · exact hw.objects stage hstage d hd key (Table.mem_keys_iff.2 hkey)
      · exact hwithin.objects (hw.objects other hother base hbase key (Table.mem_keys_iff.2 hkey))

end WellFormed

end World

end Adventure
