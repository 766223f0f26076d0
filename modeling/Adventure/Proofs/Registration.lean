import Adventure.Proofs.Sessions
import Mathlib.Data.List.Nodup

/-!
# Where known scenes come from

A scene that is known is one that the world declares, with the interactions that it inherits.  If no
id is declared twice, it is determined by its id, however often its stage is loaded.

## Main definitions

* `World.scenes`: the scenes of all stages
* `World.Registers`: a scene is a declared one, with what it inherits
* `Session.Registered`: all scenes that are known are such

## Main results

* `World.Registers.unique`: one scene for each id
* `Move.registered`, `Halt.registered`: every step keeps to the world
-/

namespace Adventure

open Session

namespace World

/-- The scenes of all stages. -/
def scenes (w : World) : List Scene := w.stages.flatMap Stage.scenes

end World

/-- What a declared scene is registered as: itself, or itself with the interactions of the scene
that it inherits from, which is one of `bases`. -/
inductive Scene.Becomes (bases : Scene → Prop) (d : Scene) : Scene → Prop where
  | alone (h : d.inherits = none) : Becomes bases d d
  | inherit {base : Scene} (h : d.inherits = some base.id) (hb : bases base) :
      Becomes bases d (d.inherit base.interactive)

namespace Scene.Becomes

variable {bases bases' : Scene → Prop} {d r : Scene}

theorem mono (h : d.Becomes bases r) (hb : ∀ base, bases base → bases' base) :
    d.Becomes bases' r := by
  cases h with
  | alone h => exact .alone h
  | inherit h hbase => exact .inherit h (hb _ hbase)

/-- Only the interactions can differ. -/
theorem eq (h : d.Becomes bases r) : r = { d with interactive := r.interactive } := by
  cases h <;> rfl

theorem id_eq (h : d.Becomes bases r) : r.id = d.id := by
  rw [h.eq]

end Scene.Becomes

namespace World

/-- A scene is a declared one, with what it inherits from a declared one. -/
def Registers (w : World) (scene : Scene) : Prop :=
  ∃ d ∈ w.scenes, d.Becomes (· ∈ w.scenes) scene

/-- No id is declared twice, in one stage or in two. -/
def DistinctScenes (w : World) : Prop := (w.scenes.map Scene.id).Nodup

variable {w : World}

theorem DistinctScenes.eq (hw : w.DistinctScenes) {d d' : Scene} (h : d ∈ w.scenes)
    (h' : d' ∈ w.scenes) (hid : d.id = d'.id) : d = d' :=
  List.inj_on_of_nodup_map hw h h' hid

/-- **Where no id is declared twice**, an id stands for one scene. -/
theorem Registers.unique (hw : w.DistinctScenes) {scene scene' : Scene}
    (h : w.Registers scene) (h' : w.Registers scene') (hid : scene.id = scene'.id) :
    scene = scene' := by
  -- Both come from the same declaration, and so do the scenes that it inherits from.
  obtain ⟨d, hd, h⟩ := h
  obtain ⟨d', hd', h'⟩ := h'
  obtain rfl : d = d' := hw.eq hd hd' (by rw [← h.id_eq, ← h'.id_eq, hid])
  cases h with
  | alone hnone =>
    cases h' with
    | alone => rfl
    | inherit hsome => cases hnone.symm.trans hsome
  | @inherit base hsome hbase =>
    cases h' with
    | alone hnone => cases hnone.symm.trans hsome
    | @inherit base' hsome' hbase' =>
      have hbases : base.id = base'.id := Option.some.inj (hsome.symm.trans hsome')
      rw [hw.eq hbase hbase' hbases]

theorem mem_scenes {stage : Stage} {scene : Scene} (hstage : stage ∈ w.stages)
    (h : scene ∈ stage.scenes) : scene ∈ w.scenes :=
  List.mem_flatMap.2 ⟨stage, hstage, h⟩

end World

/-! ## Inheritance -/

namespace Session

variable {s : Session}

/-- A scene is declared by a stage that counts as loaded. -/
def Loaded (s : Session) (scene : Scene) : Prop :=
  ∃ w, s.world = some w ∧ ∃ stage ∈ w.stages,
    s.player.hasLoaded stage.id = true ∧ scene ∈ stage.scenes

theorem inheritanceBase_ok {before : List Scene} {id : String} {base : Scene}
    (h : s.inheritanceBase before id = .ok base) :
    base.id = id ∧ (base ∈ before ∨ s.Loaded base) := by
  unfold inheritanceBase at h
  split at h
  · -- A scene before it in its stage.
    next scene hfind =>
    cases h
    have hmem := List.mem_of_find?_eq_some hfind
    exact ⟨by simpa using List.find?_some hfind, .inl (List.mem_reverse.1 hmem)⟩
  · split at h
    · cases h
    · obtain ⟨world, hworld, h⟩ := bind_eq_ok_iff.1 h
      dsimp only at h
      split at h
      · -- A scene of the last loaded stage that declares one.
        next scene hfind =>
        cases h
        obtain ⟨stage, hstage, hscene⟩ := List.exists_of_findSome?_eq_some hfind
        obtain ⟨hmem, hloaded⟩ := List.mem_filter.1 hstage
        exact ⟨by simpa using List.find?_some hscene, .inr ⟨world, worldOf_ok hworld, stage,
          List.mem_reverse.1 hmem, hloaded, List.mem_of_find?_eq_some hscene⟩⟩
      · cases h

/-- What a scene is resolved to behind others of its stage. -/
def inherited (s : Session) (before : List Scene) (scene : Scene) : Except Error Scene :=
  match scene.inherits with
  | none => .ok scene
  | some id => (s.inheritanceBase before id).map fun base => scene.inherit base.interactive

theorem becomes_of_inherited {before : List Scene} {scene r : Scene}
    (h : s.inherited before scene = .ok r) :
    scene.Becomes (fun base => base ∈ before ∨ s.Loaded base) r := by
  unfold inherited at h
  cases hi : scene.inherits with
  | none =>
    rw [hi] at h
    cases h
    exact .alone hi
  | some id =>
    simp only [hi] at h
    cases hb : s.inheritanceBase before id with
    | error e =>
      rw [hb] at h
      cases h
    | ok base =>
      rw [hb] at h
      cases h
      obtain ⟨hid, hbase⟩ := inheritanceBase_ok hb
      exact .inherit (hid ▸ hi) hbase

theorem resolve_cons (s : Session) (before : List Scene) (scene : Scene) (scenes : List Scene) :
    s.resolve before (scene :: scenes) = do
      let r ← s.inherited before scene
      return r :: (← s.resolve (before ++ [scene]) scenes) := by
  unfold inherited
  rw [resolve]
  cases scene.inherits <;> rfl

/-- What the first scene of a list is resolved to. -/
theorem resolve_cons_ok {before scenes resolved : List Scene} {scene : Scene}
    (h : s.resolve before (scene :: scenes) = .ok resolved) :
    ∃ r rest, resolved = r :: rest ∧ s.inherited before scene = .ok r ∧
      s.resolve (before ++ [scene]) scenes = .ok rest := by
  rw [resolve_cons] at h
  obtain ⟨r, hr, h⟩ := bind_eq_ok_iff.1 h
  obtain ⟨rest, hrest, h⟩ := bind_eq_ok_iff.1 h
  cases h
  exact ⟨r, rest, rfl, hr, hrest⟩

/-- What the scene in a place of a list is resolved to. -/
theorem resolve_place_ok {before scenes resolved : List Scene} {scene : Scene} {place : Nat}
    (h : s.resolve before scenes = .ok resolved) (hplace : scenes[place]? = some scene) :
    ∃ r, resolved[place]? = some r ∧
      s.inherited (before ++ scenes.take place) scene = .ok r := by
  induction scenes generalizing before resolved place with
  | nil => cases hplace
  | cons first scenes ih =>
    obtain ⟨r, rest, rfl, hr, hrest⟩ := resolve_cons_ok h
    cases place with
    | zero =>
      cases hplace
      exact ⟨r, rfl, by simpa using hr⟩
    | succ place =>
      obtain ⟨r', hr', hinherited⟩ := ih hrest hplace
      exact ⟨r', hr', by simpa using hinherited⟩

/-- **Resolving the scenes of a stage**: each declared scene becomes the resolved one in its
place. -/
theorem forall₂_of_resolve {before scenes resolved : List Scene}
    (h : s.resolve before scenes = .ok resolved) :
    scenes.Forall₂ (Scene.Becomes fun base => base ∈ before ++ scenes ∨ s.Loaded base)
      resolved := by
  induction scenes generalizing before resolved with
  | nil =>
    cases h
    exact .nil
  | cons scene scenes ih =>
    -- What the first scene may inherit from, those behind it may, too.
    obtain ⟨r, rest, rfl, hr, hrest⟩ := resolve_cons_ok h
    have hfirst := (becomes_of_inherited hr).mono fun base hb =>
      hb.imp (List.mem_append_left (scene :: scenes)) id
    refine .cons hfirst ?_
    have happ : before ++ [scene] ++ scenes = before ++ scene :: scenes := by simp
    exact happ ▸ ih hrest

/-- Each declared scene becomes a resolved one, and each resolved one comes from a declared one. -/
theorem resolve_ok {before scenes resolved : List Scene}
    (h : s.resolve before scenes = .ok resolved) :
    (∀ r ∈ resolved, ∃ d ∈ scenes,
      d.Becomes (fun base => base ∈ before ++ scenes ∨ s.Loaded base) r) ∧
    ∀ d ∈ scenes, ∃ r ∈ resolved,
      d.Becomes (fun base => base ∈ before ++ scenes ∨ s.Loaded base) r := by
  obtain ⟨hlength, hplaces⟩ := List.forall₂_iff_get.1 (forall₂_of_resolve h)
  constructor
  · intro r hr
    obtain ⟨i, hi, rfl⟩ := List.mem_iff_getElem.1 hr
    exact ⟨scenes[i], List.getElem_mem _, hplaces i (hlength ▸ hi) hi⟩
  · intro d hd
    obtain ⟨i, hi, rfl⟩ := List.mem_iff_getElem.1 hd
    exact ⟨resolved[i], List.getElem_mem _, hplaces i hi (hlength ▸ hi)⟩

/-! ## What is registered -/

/-- The session plays a world, if it plays one, and knows scenes of that world only. -/
structure Registered (s : Session) (w : World) : Prop where
  world : ∀ {v}, s.world = some v → v = w
  scenes : ∀ {id scene}, s.catalog.scenes.get? id = some scene → w.Registers scene

theorem Registered.congr {w : World} {t : Session} (h : s.Registered w)
    (hworld : t.world = s.world) (hscenes : t.catalog.scenes = s.catalog.scenes) :
    t.Registered w where
  world := by rw [hworld]; exact h.world
  scenes := by rw [hscenes]; exact h.scenes

theorem registered_withArrows (id : Uuid) (arrows : List String) (w : World) :
    (withArrows id arrows).Registered w where
  world h := by cases h
  scenes h := by cases h

theorem registered_begun (s : Session) (id : Uuid) (w : World) : (s.begun id w).Registered w where
  world h := (Option.some.inj h).symm
  scenes h := by
    rw [begun, Catalog.addArrows_eq] at h
    cases h

/-- Whatever a scene of a stage inherits from, its world declares. -/
theorem mem_scenes_of_base {w : World} (hworld : s.world = some w) {stage : Stage}
    (hstage : stage ∈ w.stages) {base : Scene} (h : base ∈ stage.scenes ∨ s.Loaded base) :
    base ∈ w.scenes := by
  rcases h with hbase | ⟨v, hv, other, hother, -, hbase⟩
  · exact World.mem_scenes hstage hbase
  · obtain rfl := Option.some.inj (hworld.symm.trans hv)
    exact World.mem_scenes hother hbase

/-- The scenes of a stage are resolved to what they become in their world. -/
theorem resolve_becomes {w : World} (hworld : s.world = some w) {stage : Stage}
    (hstage : stage ∈ w.stages) {scenes : List Scene}
    (hscenes : s.resolve [] stage.scenes = .ok scenes) :
    (∀ r ∈ scenes, ∃ d ∈ stage.scenes, d.Becomes (· ∈ w.scenes) r) ∧
      ∀ d ∈ stage.scenes, ∃ r ∈ scenes, d.Becomes (· ∈ w.scenes) r := by
  have hbases : ∀ base, base ∈ [] ++ stage.scenes ∨ s.Loaded base → base ∈ w.scenes :=
    fun _ => mem_scenes_of_base hworld hstage
  obtain ⟨hto, hfrom⟩ := resolve_ok hscenes
  constructor
  · intro r hr
    obtain ⟨d, hd, hbecomes⟩ := hto r hr
    exact ⟨d, hd, hbecomes.mono hbases⟩
  · intro d hd
    obtain ⟨r, hr, hbecomes⟩ := hfrom d hd
    exact ⟨r, hr, hbecomes.mono hbases⟩

/-- What a stage is resolved to, its world registers. -/
theorem Registered.resolve {w : World} (h : s.Registered w) {id : String} {stage : Stage}
    {scenes : List Scene} (hstage : s.stage id = .ok stage)
    (hscenes : s.resolve [] stage.scenes = .ok scenes) : ∀ scene ∈ scenes, w.Registers scene := by
  obtain ⟨-, v, hv, hmem⟩ := stage_ok hstage
  obtain rfl := h.world hv
  intro scene hscene
  obtain ⟨d, hd, hbecomes⟩ := (resolve_becomes hv hmem hscenes).1 scene hscene
  exact ⟨d, World.mem_scenes hmem hd, hbecomes⟩

theorem Registered.finished {w : World} (h : s.Registered w) {id : String} {stage : Stage}
    {scenes : List Scene} (hstage : s.stage id = .ok stage)
    (hscenes : s.resolve [] stage.scenes = .ok scenes) : (s.finished stage scenes).Registered w where
  world := h.world
  scenes hget := by
    rcases Catalog.scenes_learnAll_cases hget with hget | ⟨hmem, -⟩
    · exact h.scenes hget
    · exact h.resolve hstage hscenes _ hmem

end Session

section Steps

variable {P : Policy} {s t : Session} {e : Error} {w : World}

theorem Asked.registered {stage : String} (h : Asked P s stage t) (hs : s.Registered w) :
    t.Registered w := by
  cases h <;> exact hs.congr rfl rfl

theorem Move.registered (h : Move P s t) (hs : s.Registered w) : t.Registered w := by
  -- Scenes become known where a stage does, and nowhere else.
  cases h with
  | @load id stage scenes u h hstage hneeds hscenes =>
    have hu : (u.requested id).Registered w := (h.registered hs).congr rfl rfl
    exact hu.finished hstage hscenes
  | @complete batch id stage scenes h hstage hscenes =>
    have hreported : (s.reported batch).Registered w := hs.congr rfl rfl
    exact hreported.finished hstage hscenes
  | preload h => exact (h.registered hs).congr rfl rfl
  | enter | hide | notice | block | close | answer | assign | increment | fade | swell | play | stop
  | redirect | tune | schedule | fire | clear | queue | reportBatches | reportTimers =>
    exact hs.congr rfl rfl

theorem Halt.registered (h : Halt P s e t) (hs : s.Registered w) : t.Registered w := by
  cases h with
  | unstaged h => exact h.registered hs
  | unresolved h => exact (h.registered hs).congr rfl rfl
  | reject | strand | close | answer | incomplete => exact hs.congr rfl rfl

end Steps

end Adventure
