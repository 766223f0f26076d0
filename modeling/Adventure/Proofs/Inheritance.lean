import Adventure.Proofs.LoadedStages
import Adventure.Proofs.Steps

/-!
# One level of inheritance

A scene that is known is a declared one, and what it inherits is what another scene declares itself.
Nothing that the other scene inherits is handed on, however many scenes stand in between.  The other
scene is looked for among the stages that count as loaded, and it is found whenever a scene of its
id is known.

## Main definitions

* `Scene.Merges bases d r`: the scene `r` is `d`, with what one of the bases declares
* `Session.nearest?`: the first declaration of an id in the last loaded stage that has one
* `Session.Materializes s stage u`: a step from `s` makes a stage known in `u`
* `Session.OneLevel`: all scenes that are known are of this kind, and all bases are found

## Main results

* `Session.inheritanceBase_eq_ok_iff`: where a scene inherits from
* `Session.Declared.oneLevel`: what is declared only is of one level
* `Reached.inherits_one_level`: every session is, between its steps and where stages become known
-/

namespace Adventure

open Session

/-! ## Declared scenes and known ones -/

/-- A scene is a declared one in all but its interactions.  These are its own ones, and behind them
those that a base of the id that it names declares itself. -/
structure Scene.Merges (bases : Scene → Prop) (d r : Scene) : Prop where
  eq : r = { d with interactive := r.interactive }
  alone : d.inherits = none → r.interactive = d.interactive
  inherited : ∀ id, d.inherits = some id → ∃ base, bases base ∧ base.id = id ∧
    ∀ object, r.interactive.get? object =
      (d.interactive.get? object).or (base.interactive.get? object)

/-- What a declared scene becomes is itself with one level of inheritance. -/
theorem Scene.Becomes.merges {bases : Scene → Prop} {d r : Scene} (h : d.Becomes bases r) :
    d.Merges bases r where
  eq := h.eq
  alone hnone := by
    cases h with
    | alone => rfl
    | inherit hsome => cases hnone.symm.trans hsome
  inherited id hid := by
    cases h with
    | alone hnone => cases hnone.symm.trans hid
    | @inherit base hsome hbase =>
      have hbases : base.id = id := Option.some.inj (hsome.symm.trans hid)
      exact ⟨base, hbase, hbases, Table.get?_union base.interactive d.interactive⟩

/-- The first scene of an id that a stage declares. -/
def Stage.first? (stage : Stage) (id : String) : Option Scene :=
  stage.scenes.find? fun scene => scene.id == id

namespace Session

variable {s t u : Session} {d base : Scene} {before : List Scene} {id : String} {stage : Stage}

/-! ## Where a scene inherits from -/

/-- The stages that count as loaded, the last one of the world first. -/
def loadedStages (s : Session) : List Stage :=
  (s.world.elim [] fun w => w.stages.reverse).filter fun stage => s.player.hasLoaded stage.id

/-- The first declaration of an id in the last loaded stage that has one. -/
def nearest? (s : Session) (id : String) : Option Scene :=
  s.loadedStages.findSome? fun stage => stage.first? id

/-- **Where a scene inherits from**: the nearest scene before it in its stage, or else, if a scene
of the id is known, the declaration in the last loaded stage that has one. -/
theorem inheritanceBase_eq_ok_iff :
    s.inheritanceBase before id = .ok base ↔
      (before.reverse.find? fun scene => scene.id == id) = some base ∨
      (before.reverse.find? fun scene => scene.id == id) = none ∧
        s.catalog.scenes.contains id = true ∧ s.nearest? id = some base := by
  unfold inheritanceBase nearest? loadedStages Stage.first?
  cases before.reverse.find? fun scene => scene.id == id with
  | some scene => simp
  | none =>
    cases s.catalog.scenes.contains id with
    | false => simp
    | true =>
      cases hworld : s.world with
      | none => simp [worldOf, hworld, bind, Except.bind]
      | some w =>
        simp only [worldOf, hworld, bind, Except.bind, Option.elim_some]
        cases List.findSome? _ _ <;> simp

/-- A scene that is declared by a loaded stage has a nearest declaration. -/
theorem Loaded.exists_nearest? (h : s.Loaded d) : ∃ base, s.nearest? d.id = some base := by
  obtain ⟨w, hw, stage, hstage, hloaded, hd⟩ := h
  unfold nearest? loadedStages
  rw [hw, Option.elim_some, ← Option.isSome_iff_exists, List.findSome?_isSome_iff]
  refine ⟨stage, List.mem_filter.2 ⟨List.mem_reverse.2 hstage, hloaded⟩, ?_⟩
  exact List.find?_isSome.2 ⟨d, hd, by simp⟩

/-! ## What is known in a session -/

/-- Every scene that is known is a declared one with one level of inheritance, and whatever scene
is known, another one can inherit from a declaration of its id. -/
structure OneLevel (s : Session) : Prop where
  scenes : ∀ {id scene}, s.catalog.scenes.get? id = some scene →
    scene.id = id ∧ ∃ d, s.Loaded d ∧ d.id = scene.id ∧ d.Merges s.Loaded scene
  bases : ∀ before id, s.catalog.scenes.contains id = true →
    ∃ base, s.inheritanceBase before id = .ok base

/-- **Where all that is known is declared**, there is one level of inheritance. -/
theorem Declared.oneLevel (h : s.Declared) : s.OneLevel where
  scenes hget := by
    obtain ⟨d, hd, hid, hbecomes⟩ := h.scenes hget
    exact ⟨hbecomes.id_eq.trans hid, d, hd, hbecomes.id_eq.symm, hbecomes.merges⟩
  bases before id hknown := by
    cases hfind : before.reverse.find? fun scene => scene.id == id with
    | some scene => exact ⟨scene, inheritanceBase_eq_ok_iff.2 (.inl hfind)⟩
    | none =>
      -- The scene that is known has been declared by a loaded stage, so a last one has it.
      obtain ⟨scene, hscene⟩ := Table.contains_iff.1 hknown
      obtain ⟨d, hd, rfl, -⟩ := h.scenes hscene
      obtain ⟨base, hbase⟩ := hd.exists_nearest?
      exact ⟨base, inheritanceBase_eq_ok_iff.2 (.inr ⟨hfind, hknown, hbase⟩)⟩

/-! ## Where stages become known -/

/-- A step makes a stage known in a session: the stage was asked for just before and has no assets
to wait for, or its assets have arrived. -/
inductive Materializes (s : Session) (stage : Stage) : Session → Prop where
  | asked {id : String} {t : Session} (h : Asked (.free fun _ _ => True) s id t)
      (hstage : t.stage id = .ok stage) (hneeds : stage.needsPreload = false) :
      Materializes s stage (t.requested id)
  | arrived {batch : Ticket} {id : String} (h : waiting? batch s.pendingLoads = some id)
      (hstage : s.stage id = .ok stage) : Materializes s stage (s.reported batch)

theorem Materializes.declared (h : s.Materializes stage u) (hs : s.Declared) : u.Declared := by
  cases h with
  | asked h => exact (hs.quiet h.quiet).requested _
  | arrived => exact hs.mono rfl rfl fun _ hl => hl

theorem Step.declared (h : s.Step t) (hs : s.Awaited ∧ s.Declared) : t.Awaited ∧ t.Declared := by
  cases h with
  | move h => exact ⟨h.loads.awaited hs.1, h.loads.declared hs.1 hs.2⟩
  | halt h => exact ⟨h.loadFails.awaited hs.1, h.loadFails.declared hs.2⟩

theorem Leads.declared (h : s.Leads t) (hs : s.Awaited ∧ s.Declared) : t.Awaited ∧ t.Declared := by
  induction h with
  | refl => exact hs
  | tail _ hstep ih => exact hstep.declared ih

theorem awaited_begun (s : Session) (id : Uuid) (world : World) : (s.begun id world).Awaited :=
  nofun

end Session

/-! ## All sessions -/

section

variable {arrows : List String} {s : Session}

/-- All that is known is declared by loaded stages, through restarts. -/
theorem Reached.declared (h : Reached arrows s) : s.Awaited ∧ s.Declared := by
  have k : Keeps (.free fun _ _ => True) (fun s => s.Awaited ∧ s.Declared) fun _ s =>
      s.Awaited ∧ s.Declared :=
    .of_step fun _ hs hstep => hstep.declared hs
  exact (k.reached (fun id => ⟨nofun, declared_withArrows id arrows⟩)
    (fun {s} _ id world => ⟨awaited_begun s id world, declared_begun s id world⟩) h).2

/-- **Every known scene is a declared one with one level of inheritance**, and whatever scene is
known can be inherited from.  This holds in every session, whatever worlds it was started with,
whatever it was called with and however the calls ended; between the steps of calls and of starts;
and where a step makes a stage known, when the scenes of the stage are resolved. -/
theorem Reached.inherits_one_level (h : Reached arrows s) :
    s.OneLevel ∧
    ∀ t, (s.Leads t ∨ ∃ id world, (s.begun id world).Leads t) →
      t.OneLevel ∧ ∀ stage u, t.Materializes stage u → u.OneLevel := by
  refine ⟨h.declared.2.oneLevel, fun t ht => ?_⟩
  have hdeclared : t.Awaited ∧ t.Declared := by
    rcases ht with ht | ⟨id, world, ht⟩
    · exact ht.declared h.declared
    · exact ht.declared ⟨awaited_begun s id world, declared_begun s id world⟩
  exact ⟨hdeclared.2.oneLevel, fun stage u hu => (hu.declared hdeclared.2).oneLevel⟩

end

/-! ## An example -/

/-- A world with a garden: a lawn, a hedge that inherits from it, and a maze that inherits from the
hedge. -/
def World.garden : World where
  stages := [
    { id := "garden"
      scenes := [
        { id := "lawn"
          interactive := .ofList [("up", [.new (.showText "Clouds.")])] },
        { id := "hedge"
          inherits := some "lawn"
          interactive := .ofList [("left", [.new (.showText "Thorns.")])] },
        { id := "maze"
          inherits := some "hedge"
          interactive := .ofList [("right", [.new (.goToScene "lawn")])] }] }]

/-- The maze has the thorns of the hedge, but not the clouds that the hedge has from the lawn. -/
theorem inherits_one_level_garden :
    ∃ s hedge maze, Reached ["left", "right", "up"] s ∧ s.OneLevel ∧
      s.catalog.scenes.get? "hedge" = some hedge ∧ hedge.interactive.keys = ["left", "up"] ∧
      s.catalog.scenes.get? "maze" = some maze ∧ maze.interactive.keys = ["left", "right"] := by
  have hs := @Reached.start ["left", "right", "up"] _ _ 3 (.ofNat 1) .garden _ (.fresh (.ofNat 0))
    rfl
  exact ⟨_, _, _, hs, hs.inherits_one_level.1, rfl, rfl, rfl, rfl⟩

end Adventure
