import Adventure.Proofs.Provenance
import Adventure.Proofs.Transitions

/-!
# Valid scripts

A world is checked when it is started: within all of its scripts, at every depth, alternatives have
as many scripts as buttons, and delays are finite and not negative.  The scripts that a session puts
by and runs later stand within scripts of its world or within scripts that it was given.  So where
these are valid, everything is that a session holds, and no alternative is ever refused.

## Main definitions

* `Effect.Regular`: what is checked of a single effect
* `Error.IsUneven`, `Error.IsDelay`, `Spares`: the errors of an alternative and of a delay, and
  look-ups that do not fail with them
* `Vetted`: the sessions that are given valid scripts only

## Main results

* `validateScript_eq_ok_iff`: a script is valid if all effects within it are regular
* `Rejects.not_uneven`, `Halt.not_uneven`, `Refuses.not_uneven`: the errors of valid scripts
* `Session.Bred.call_valid`, `start_valid`: neither a call nor a start fails with the error of an
  alternative
* `validation_covers_sessions`: validation at the start covers everything that can run
-/

namespace Adventure

open Session

/-! ## What is checked -/

/-- A delay is a number that is not negative; a negative zero is none. -/
theorem Double.isDelay_iff (x : Double) : x.isDelay = true ↔ x.isFinite = true ∧ 0 ≤ x.units := by
  have hunits : 0 ≤ x.units ↔ x.isZero = true ∨ x.negative = false := by
    have hzero := format.units_eq_zero_iff x.code
    unfold units isZero
    cases x.negative with
    | false => simp
    | true => simp [hzero]
  rw [hunits]
  simp [isDelay]

/-- **Regular effects**: an alternative has as many scripts as buttons, and a delay is finite and
not negative. -/
def Effect.Regular : Effect → Prop
  | .alternative _ scripts buttons => scripts.length = buttons.length
  | .delayed delay _ => delay.isFinite = true ∧ 0 ≤ delay.units
  | _ => True

mutual

/-- An effect is valid if it is regular, with all effects within it. -/
theorem Effect.validate_eq_ok_iff : ∀ effect : Effect,
    effect.validate = .ok () ↔ effect.Regular ∧ ∀ a ∈ effect.actions, a.effect.Regular
  | .alternative text scripts buttons => by
    rw [Effect.validate, Effect.actions, ← validateScripts_eq_ok_iff scripts, Effect.Regular]
    by_cases heven : scripts.length = buttons.length
    · simp [heven]
    · simp [heven]
  | .delayed delay next => by
    rw [Effect.validate, Effect.actions, ← validateScript_eq_ok_iff next, Effect.Regular,
      ← Double.isDelay_iff]
    cases delay.isDelay with
    | true => simp
    | false => simp
  | .blockingText text button next => by
    rw [Effect.validate, Effect.actions, ← validateScript_eq_ok_iff next]
    simp [Effect.Regular]
  | .group next => by
    rw [Effect.validate, Effect.actions, ← validateScript_eq_ok_iff next]
    simp [Effect.Regular]
  | .goToScene _ | .enterCode .. | .showText _ | .setVariable .. | .incrementVariable ..
  | .fadeTween _ | .setMusic .. | .musicTween _ | .playAudio .. | .stopAudio _
  | .runProcedure _ | .hideInteractive | .redirect _ | .unrecognized => by
    simp [Effect.validate, Effect.actions, Effect.Regular]

/-- **A script is valid** if all effects within it are regular, at every depth. -/
theorem validateScript_eq_ok_iff : ∀ script : List Action,
    validateScript script = .ok () ↔ ∀ a ∈ Script.actions script, a.effect.Regular
  | [] => by simp [validateScript, Script.actions]
  | ⟨tag, guard, effect⟩ :: rest => by
    rw [validateScript, bind_eq_ok_iff, Script.actions]
    simp only [List.forall_mem_cons, List.forall_mem_append, ← and_assoc]
    rw [← Effect.validate_eq_ok_iff effect, ← validateScript_eq_ok_iff rest]
    exact ⟨fun ⟨⟨⟩, h⟩ => h, fun h => ⟨(), h⟩⟩

theorem validateScripts_eq_ok_iff : ∀ scripts : List (List Action),
    validateScripts scripts = .ok () ↔ ∀ a ∈ Script.allActions scripts, a.effect.Regular
  | [] => by simp [validateScripts, Script.allActions]
  | script :: rest => by
    rw [validateScripts, bind_eq_ok_iff, Script.allActions, List.forall_mem_append,
      ← validateScript_eq_ok_iff script, ← validateScripts_eq_ok_iff rest]
    exact ⟨fun ⟨⟨⟩, h⟩ => h, fun h => ⟨(), h⟩⟩

end

/-- A script is valid if its actions are, one by one. -/
theorem validateScript_of_validate {script : Script} (h : ∀ a ∈ script, a.validate = .ok ()) :
    validateScript script = .ok () := by
  induction script with
  | nil => rfl
  | cons a rest ih =>
    rw [validateScript_cons, h a (.head _)]
    exact ih fun b hb => h b (.tail _ hb)

/-- The scripts of a valid world are valid, wherever they stand. -/
theorem World.validate_scripts {w : World} (h : w.validate = .ok ()) :
    ∀ script ∈ w.scripts, validateScript script = .ok () := by
  intro script hs
  rcases List.mem_append.1 hs with hs | hs
  · exact validate_defaultScripts h script hs
  · obtain ⟨stage, hstage, hs⟩ := List.mem_flatMap.1 hs
    exact Stage.validate_scripts (validate_stages h stage hstage) script hs

/-! ## Errors of look-ups -/

/-- The error of an alternative that has not as many scripts as buttons. -/
def Error.IsUneven (e : Error) : Prop :=
  ∃ scripts buttons, e = .invalidConfig (.unevenAlternative scripts buttons)

/-- The error of a delay for which no timer can be armed. -/
def Error.IsDelay (e : Error) : Prop := ∃ delay, e = .invalidConfig (.badDelay delay)

/-- The errors of actions that are refused for what they were written with. -/
def Error.IsIrregular (e : Error) : Prop := e.IsUneven ∨ e.IsDelay

/-- A look-up does not fail with the error of an alternative or of a delay. -/
def Spares {α : Type} (r : Except Error α) : Prop := ∀ e, r = .error e → ¬e.IsIrregular

namespace Spares

variable {α β : Type} {r : Except Error α}

theorem ok (a : α) : Spares (.ok a) := nofun

theorem error {e : Error} (h : ¬e.IsIrregular) : Spares (.error e : Except Error α) := by
  rintro _ ⟨⟩
  exact h

theorem bind {f : α → Except Error β} (hr : Spares r) (hf : ∀ a, Spares (f a)) :
    Spares (r >>= f) := by
  cases r with
  | ok a => exact hf a
  | error e => exact error (hr e rfl)

theorem map {f : α → β} (hr : Spares r) : Spares (r.map f) := by
  cases r with
  | ok a => exact ok _
  | error e => exact error (hr e rfl)

theorem look (what : Missing) (t : Table α) (id : String) : Spares (Catalog.look what t id) := by
  unfold Catalog.look
  split
  · exact ok _
  · exact error nofun

end Spares

mutual

theorem Guard.spares_evaluate (p : Player) : ∀ g : Guard, Spares (g.evaluate p)
  | ⟨condition, negate⟩ => by
    rw [Guard.evaluate]
    exact (Condition.spares_evaluate p condition).map

theorem Condition.spares_evaluate (p : Player) : ∀ c : Condition, Spares (c.evaluate p)
  | .all guards => by
    rw [Condition.evaluate]
    exact Condition.spares_evaluateAll p guards
  | .variableIs name value => by
    rw [Condition.evaluate]
    split <;> exact .ok _
  | .puzzleSolved _ | .sceneVisited _ | .stageLoaded _ => .ok _
  | .unrecognized _ => .error nofun

theorem Condition.spares_evaluateAll (p : Player) :
    ∀ guards : List Guard, Spares (Condition.evaluateAll p guards)
  | [] => .ok _
  | guard :: guards => by
    rw [Condition.evaluateAll]
    refine (Guard.spares_evaluate p guard).bind fun holds => ?_
    cases holds with
    | true => exact Condition.spares_evaluateAll p guards
    | false => exact .ok _

end

theorem Action.spares_passes (p : Player) (a : Action) : Spares (a.passes p) := by
  unfold passes
  split
  · exact Guard.spares_evaluate p _
  · exact .ok _

theorem Script.spares_anyActive (p : Player) (script : Script) :
    Spares (Script.anyActive p script) := by
  induction script with
  | nil => exact .ok _
  | cons a rest ih =>
    rw [Script.anyActive]
    refine (a.spares_passes p).bind fun passes => ?_
    cases passes with
    | true => exact .ok _
    | false => exact ih

namespace Session

variable (s : Session)

theorem spares_plan : Spares s.plan? := by
  intro e h
  obtain ⟨_, object, script, -, -, hfail⟩ := exists_script_of_plan h
  rcases hfail with hobject | hactive
  · exact Spares.look .object s.catalog.objects object e hobject
  · exact Script.spares_anyActive s.player script e hactive

theorem spares_currentScene : Spares s.currentScene := by
  unfold currentScene
  split
  · exact .look _ _ _
  · exact .error nofun

theorem spares_worldOf : Spares s.worldOf := by
  unfold worldOf
  split
  · exact .ok _
  · exact .error nofun

theorem spares_stage (id : String) : Spares (s.stage id) := by
  refine s.spares_worldOf.bind fun world => ?_
  split
  · exact .ok _
  · exact .error nofun

theorem spares_puzzle (id : String) : Spares (s.puzzle id) :=
  s.spares_worldOf.bind fun _ => .look _ _ _

theorem spares_puzzleFor (puzzle : Option String) : Spares (s.puzzleFor puzzle) := by
  cases puzzle with
  | some puzzle => exact .ok _
  | none =>
    refine s.spares_currentScene.bind fun scene => ?_
    split
    · exact .ok _
    · exact .error nofun

theorem spares_targetsOf (puzzle : Option String) (code : String) :
    Spares (s.targetsOf puzzle code) := by
  refine (s.spares_puzzleFor puzzle).bind fun id => (s.spares_puzzle id).bind fun declared => ?_
  refine Spares.bind ?_ fun targets => .ok _
  -- The solutions of a puzzle are all that can be missing.
  unfold Puzzle.targets Puzzle.solutions
  split
  · exact .ok _
  · exact .ok _
  · exact .error nofun

theorem spares_sum (name : String) (value : Value) : Spares (s.sum? name value) := by
  have hmismatch : ∀ kind, ¬(Error.typeMismatch name kind).IsIrregular := by
    rintro kind (⟨_, _, ⟨⟩⟩ | ⟨_, ⟨⟩⟩)
  unfold sum?
  cases value.isNumber with
  | false => exact .error (by rintro (⟨_, _, ⟨⟩⟩ | ⟨_, ⟨⟩⟩))
  | true =>
    cases s.player.valueOf? name with
    | none => exact .error (hmismatch _)
    | some current =>
      simp only [Bool.not_true, Bool.false_eq_true, if_false]
      cases current.add? value with
      | some sum => exact .ok sum
      | none => exact .error (hmismatch _)

theorem spares_inheritanceBase (before : List Scene) (id : String) :
    Spares (s.inheritanceBase before id) := by
  unfold inheritanceBase
  split
  · exact .ok _
  · split
    · exact .error nofun
    · refine s.spares_worldOf.bind fun world => ?_
      dsimp only
      split
      · exact .ok _
      · exact .error nofun

theorem spares_resolve (before scenes : List Scene) : Spares (s.resolve before scenes) := by
  induction scenes generalizing before with
  | nil => exact .ok _
  | cons scene rest ih =>
    have hrest : ∀ resolved : Scene, Spares (s.resolve (before ++ [scene]) rest >>= fun others =>
        pure (resolved :: others)) :=
      fun _ => (ih _).bind fun _ => .ok _
    unfold resolve
    split
    · exact (Spares.ok scene).bind hrest
    · exact (s.spares_inheritanceBase before _).map.bind hrest

end Session

/-! ## Errors of valid scripts -/

section Errors

variable {P : Policy} {s t : Session} {a : Action} {e : Error}

/-- A valid action is not refused for its scripts and buttons. -/
theorem Session.Rejects.not_uneven (ha : a.validate = .ok ()) (h : s.Rejects a e) :
    ¬e.IsUneven := by
  cases h with
  | guard h => exact mt .inl (a.spares_passes s.player e h)
  | code he h => exact mt .inl (s.spares_targetsOf _ _ e h)
  | uneven he h =>
    unfold Action.validate at ha
    rw [he] at ha
    exact absurd (length_eq_of_validate ha) h
  | increment he h => exact mt .inl (s.spares_sum _ _ e h)
  | scene | object | delay | track | procedure | unrecognized => exact nofun

/-- Only actions that are refused fail with the error of an alternative or of a delay. -/
theorem Halt.rejects_of_irregular (h : Halt P s e t) (he : e.IsIrregular) :
    ∃ a, P.performs s a ∧ s.Rejects a e := by
  cases h with
  | reject ha hr => exact ⟨_, ha, hr⟩
  | strand ha hscene hobject hknown hplan => exact absurd he (spares_plan _ e hplan)
  | close ho hplan => exact absurd he (spares_plan _ e hplan)
  | answer hp hplan => exact absurd he (spares_plan _ e hplan)
  | unstaged h hstage => exact absurd he (spares_stage _ _ e hstage)
  | unresolved h hstage hneeds hscenes => exact absurd he (spares_resolve _ _ _ e hscenes)
  | incomplete h hscenes =>
    exact absurd he (((s.spares_stage _).bind fun _ => spares_resolve _ _ _) e hscenes)

theorem Halt.not_uneven (hvalid : ∀ a, P.performs s a → a.validate = .ok ())
    (h : Halt P s e t) : ¬e.IsUneven := by
  intro he
  obtain ⟨a, ha, hr⟩ := h.rejects_of_irregular (.inl he)
  exact hr.not_uneven (hvalid a ha) he

theorem Session.Refuses.not_irregular {event : Event Ticket} (h : s.Refuses event e) :
    ¬e.IsIrregular := by
  cases h with
  | unplaced hb h => exact s.spares_currentScene e h
  | code h => exact s.spares_targetsOf _ _ e h
  | puzzle h => exact s.spares_puzzle _ e h
  | object | hint | unasked | button | batch | timer => exact nofun

theorem Session.Refuses.not_uneven {event : Event Ticket} (h : s.Refuses event e) :
    ¬e.IsUneven :=
  mt .inl h.not_irregular

end Errors

/-! ## Sessions -/

/-- The property of an action to be valid. -/
abbrev Action.Valid (a : Action) : Prop := a.validate = .ok ()

theorem hereditary_valid : Hereditary Action.Valid where
  inner ha hs := Action.validate_inner ha hs
  enter _ := rfl

/-- A script that is given with a call is valid. -/
def Call.Valid : Call → Prop
  | execute script => validateScript script = .ok ()
  | handle _ | goToScene _ | loadStage _ | post _ | pump | takeBatches | takeTimers => True

/-- The sessions that starts and calls lead to, in any order, where every script that is given from
outside is valid.  Whatever world a session is started with, the start checks it. -/
inductive Vetted (arrows : List String) : Session → Prop where
  | fresh (id : Uuid) : Vetted arrows (.withArrows id arrows)
  | start {s t : Session} {depth : Nat} {id : Uuid} {world : World} {r : Except Error Unit}
      (hs : Vetted arrows s) (h : (Play.start depth id world).outcome s = some (r, t)) :
      Vetted arrows t
  | call {s t : Session} {c : Call} {depth : Nat} {r : Except Error Unit} (hs : Vetted arrows s)
      (hc : c.Valid) (h : (c.play depth).outcome s = some (r, t)) : Vetted arrows t

section Sessions

variable {w : World} {arrows : List String} {s t : Session} {r : Except Error Unit} {depth : Nat}

/-- Valid scripts lead to valid scripts, and to no error of an alternative. -/
theorem keeps_valid (hw : ∀ script ∈ w.scripts, ∀ a ∈ script, a.Valid) :
    Keeps (.only Action.Valid) (Bred Action.Valid w) fun e t =>
      t.Bred Action.Valid w ∧ ¬e.IsUneven :=
  { Keeps.bred hereditary_valid hw with
    halt := fun _ hI hh => ⟨hh.bred hI, hh.not_uneven fun _ ha => ha⟩ }

/-- The scripts of a world that was checked are valid, action by action. -/
theorem World.valid_of_validate (h : w.validate = .ok ()) :
    ∀ script ∈ w.scripts, ∀ a ∈ script, a.Valid :=
  fun script hs => validate_of_validateScript (World.validate_scripts h script hs)

theorem Call.permitted_of_valid {c : Call} (h : c.Valid) : c.Permitted (.only Action.Valid) s := by
  cases c with
  | goToScene id => exact hereditary_valid.enter id
  | execute script => exact validate_of_validateScript h
  | handle | loadStage | post | pump | takeBatches | takeTimers => trivial

/-- A call with a valid script keeps all scripts valid, whether it succeeds or fails. -/
theorem Session.Bred.call_valid (hI : s.Bred Action.Valid w) (hs : s.Grounded)
    (hw : ∀ script ∈ w.scripts, ∀ a ∈ script, a.Valid) {c : Call} (hc : c.Valid)
    (h : (c.play depth).outcome s = some (r, t)) :
    t.Grounded ∧ t.Bred Action.Valid w ∧ ∀ e, r = .error e → ¬e.IsUneven := by
  have hcall := (keeps_valid hw).call depth hs hI (Call.permitted_of_valid hc)
  cases r with
  | ok =>
    have hafter := Play.ensures_ok hcall h
    exact ⟨hafter.grounded, hafter.inv, nofun⟩
  | error e =>
    obtain ⟨hground, ⟨hbred, hspared⟩ | ⟨hbred, u, event, hrefused⟩⟩ := Play.ensures_error hcall h
    · refine ⟨hground, hbred, ?_⟩
      rintro _ ⟨⟩
      exact hspared
    · refine ⟨hground, hbred, ?_⟩
      rintro _ ⟨⟩
      exact hrefused.not_uneven

/-- A world that is accepted brings valid scripts only. -/
theorem start_valid {world : World} (hvalid : world.validate = .ok ()) {id : Uuid}
    (h : (Play.start depth id world).outcome s = some (r, t)) :
    t.Grounded ∧ t.Bred Action.Valid world ∧ ∀ e, r = .error e → ¬e.IsUneven := by
  have hw := World.valid_of_validate hvalid
  obtain ⟨first, hfirst, -⟩ := bind_eq_ok_iff.1 hvalid
  rw [Play.outcome_start, hvalid, hfirst] at h
  -- What follows is the load of the first stage, which is a call.
  exact (Session.bred_begun hw s id).call_valid (grounded_begun s id world) hw
    (c := .loadStage first.id) trivial h

/-- All scripts of a session come from a world whose scripts are valid. -/
theorem Vetted.exists_bred (h : Vetted arrows s) :
    s.Grounded ∧ ∃ w, (∀ script ∈ World.scripts w, ∀ a ∈ script, a.Valid) ∧
      s.Bred Action.Valid w := by
  induction h with
  | fresh id =>
    -- Before the first start, any world will do.
    exact ⟨grounded_withArrows id arrows, { stages := [{ id := "" }] }, World.valid_of_validate rfl,
      bred_withArrows id arrows _⟩
  | @start s t depth id world r hs h ih =>
    cases hvalid : world.validate with
    | ok =>
      obtain ⟨hground, hbred, -⟩ := start_valid hvalid h
      exact ⟨hground, world, World.valid_of_validate hvalid, hbred⟩
    | error defect =>
      rw [Play.outcome_start, hvalid] at h
      cases h
      exact ih
  | call hs hc h ih =>
    obtain ⟨hground, w, hw, hbred⟩ := ih
    obtain ⟨hground, hbred, -⟩ := hbred.call_valid hground hw hc h
    exact ⟨hground, w, hw, hbred⟩

/-- The scripts of a scene that is known are those of the world. -/
theorem Session.Bred.scene_valid (hI : s.Bred Action.Valid w)
    (hw : ∀ script ∈ w.scripts, ∀ a ∈ script, a.Valid) {id : String} {scene : Scene}
    (h : s.catalog.scenes.get? id = some scene) :
    ∀ script ∈ scene.scripts, validateScript script = .ok () := by
  intro script hs
  have hregisters := hI.registered.scenes h
  exact validateScript_of_validate (hw script (hregisters.mem_scripts hs))

/-- **Validation at the start covers everything that can run.**  A world is only accepted if all
effects of its scripts are regular, at every depth.  And where all scripts from outside are valid,
all scripts of a session are, whether they stand in scenes, procedures or parameters or wait for a
button or a timer; so neither a call nor the start of a valid world ever fails with the error of an
alternative. -/
theorem validation_covers_sessions :
    (∀ w : World, w.validate = .ok () →
      ∀ script ∈ w.scripts, ∀ a ∈ Script.actions script, a.effect.Regular) ∧
    ∀ {arrows : List String} {s : Session}, Vetted arrows s →
      (∀ script, s.Stored script → validateScript script = .ok ()) ∧
      (∀ id scene, s.catalog.scenes.get? id = some scene →
        ∀ script ∈ scene.scripts, validateScript script = .ok ()) ∧
      (∀ (c : Call) depth e t, c.Valid → (c.play depth).outcome s = some (.error e, t) →
        ¬e.IsUneven) ∧
      ∀ world depth id e t, World.validate world = .ok () →
        (Play.start depth id world).outcome s = some (.error e, t) → ¬e.IsUneven := by
  refine ⟨fun w h script hs => ?_, fun {arrows s} hs => ?_⟩
  · exact (validateScript_eq_ok_iff script).1 (World.validate_scripts h script hs)
  · obtain ⟨hground, w, hw, hbred⟩ := hs.exists_bred
    refine ⟨fun script h => validateScript_of_validate (hbred.stored h),
      fun id scene h => hbred.scene_valid hw h, ?_, ?_⟩
    · intro c depth e t hc h
      obtain ⟨-, -, hspared⟩ := hbred.call_valid hground hw hc h
      exact hspared e rfl
    · intro world depth id e t hvalid h
      obtain ⟨-, -, hspared⟩ := start_valid hvalid h
      exact hspared e rfl

end Sessions

/-- At the gate, the player is asked for a way: whatever the buttons do is valid, and no answer
fails with the error of an alternative. -/
theorem validation_covers_gate :
    ∃ s, Vetted ["left"] s ∧ s.player.pending = some [[], [.new (.goToScene "road")]] ∧
      validateScript [.new (.goToScene "road")] = .ok () ∧
      ∀ depth index e t,
        ((Call.handle (.buttonClicked index)).play depth).outcome s = some (.error e, t) →
          ¬e.IsUneven := by
  have h := @Vetted.call ["left"] _ _
    (.execute [.new (.alternative "Which way?" [[], [.new (.goToScene "road")]] ["Back", "On"])])
    3 _ (@Vetted.start _ _ _ 3 (.ofNat 1) .gate _ (.fresh (.ofNat 0)) rfl) rfl rfl
  obtain ⟨hstored, -, hspared, -⟩ := validation_covers_sessions.2 h
  refine ⟨_, h, rfl, hstored _ (.button rfl (.tail _ (.head _))), ?_⟩
  intro depth index e t
  exact hspared (.handle (.buttonClicked index)) depth e t trivial

/-- A script that is not valid is refused when it runs. -/
example : ∃ t, ((Call.execute [.new (.alternative "?" [] ["On"])]).play 3).outcome
    (.withArrows (.ofNat 0) []) =
      some (.error (.invalidConfig (.unevenAlternative 0 1)), t) :=
  ⟨_, rfl⟩

end Adventure
