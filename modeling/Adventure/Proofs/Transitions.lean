import Adventure.Proofs.Containment
import Adventure.Proofs.Growth

/-!
# Transitions that cannot be made

A transition can fail before any script of the scene is started, for three reasons: the scene is not
known, one of its objects is not known, or the guard of one of its interactions cannot be evaluated.
The first two are found before the current scene is left, and nothing is changed.  The last one is
found behind the arrival: the player is in the new scene then, of which only the background is
shown, and the scene counts as visited, so that its scripts for the first entry never run.

## Main definitions

* `Session.Fails`: a transition fails before any script is started
* `Session.Bars`, `Session.Balks`: the reasons that are found before and behind the arrival
* `Session.Unmoved`: the player and the scene on display are where they were

## Main results

* `Session.fails_iff`: the reasons are these, and what is left by each of them
* `Reached.failed_transition`: which transitions that fail change nothing
* `not_forall_unmoved`: not all of them
-/

namespace Adventure

open Session

/-- A query that fails for a list fails for one of its elements. -/
theorem exists_of_mapM_eq_error {α β ε : Type} {f : α → Except ε β} {l : List α} {e : ε}
    (h : l.mapM f = .error e) : ∃ a ∈ l, f a = .error e := by
  induction l with
  | nil => cases h
  | cons a l ih =>
    rw [List.mapM_cons] at h
    cases ha : f a with
    | error e' =>
      rw [ha] at h
      cases h
      exact ⟨a, .head _, ha⟩
    | ok b =>
      cases hl : l.mapM f with
      | error e' =>
        rw [ha, hl] at h
        cases h
        obtain ⟨a', hmem, ha'⟩ := ih hl
        exact ⟨a', .tail _ hmem, ha'⟩
      | ok m =>
        rw [ha, hl] at h
        cases h

namespace Session

/-- What is to be shown of the current scene cannot be told because of one of its interactions: the
object is not known, or a guard cannot be evaluated. -/
theorem exists_script_of_plan {s : Session} {e : Error} (h : s.plan? = .error e) :
    ∃ scene object script, s.here? = some scene ∧ scene.interactive.get? object = some script ∧
      (s.catalog.object object = .error e ∨ script.anyActive s.player = .error e) := by
  unfold plan? at h
  cases hhere : s.here? with
  | none =>
    rw [hhere] at h
    cases h
  | some scene =>
    rw [hhere] at h
    obtain ⟨⟨object, script⟩, hmem, hfail⟩ := exists_of_mapM_eq_error h
    refine ⟨scene, object, script, rfl, Table.mem_entries_iff.1 hmem, ?_⟩
    dsimp only at hfail
    cases hobject : s.catalog.object object with
    | error e' =>
      rw [hobject] at hfail
      cases hfail
      exact .inl rfl
    | ok o =>
      rw [hobject] at hfail
      cases hactive : script.anyActive s.player with
      | error e' =>
        rw [hactive] at hfail
        cases hfail
        exact .inr rfl
      | ok active =>
        rw [hactive] at hfail
        cases hfail

/-- A transition fails before any script of the scene is started: it fails like this even if no
script has an answer. -/
def Fails (s : Session) (id : String) (e : Error) (t : Session) : Prop :=
  (Play.goToScene (fun _ => Play.unanswered) id).outcome s = some (.error e, t)

/-- The reasons that are found before the current scene is left. -/
inductive Bars (s : Session) (id : String) : Error → Prop where
  | scene (h : s.catalog.scenes.get? id = none) : Bars s id (.notFound .scene id)
  | object {scene : Scene} {object : String} (h : s.catalog.scenes.get? id = some scene)
      (ho : Play.unknown? s scene.interactive.keys = some object) :
      Bars s id (.notFound .object object)

/-- The reason that is found behind the arrival: what is to be shown cannot be told. -/
inductive Balks (s : Session) (id : String) : Error → Prop where
  | guard {scene : Scene} {e : Error} (h : s.catalog.scenes.get? id = some scene)
      (hknown : Play.unknown? s scene.interactive.keys = none)
      (hplan : (s.left.arrived id).plan? = .error e) : Balks s id e

/-- The player is in the same scene and has visited the same ones, and the same objects, backgrounds
and code input are on display. -/
structure Unmoved (s t : Session) : Prop where
  currentScene : t.player.currentScene = s.player.currentScene
  visited : t.player.visitedScenes = s.player.visitedScenes
  objects : t.display.objects = s.display.objects
  backgrounds : t.display.backgrounds = s.display.backgrounds
  codeInput : t.display.codeInput = s.display.codeInput

variable {s t : Session} {id : String} {e : Error}

theorem Unmoved.refl (s : Session) : s.Unmoved s := ⟨rfl, rfl, rfl, rfl, rfl⟩

/-! ## The reasons -/

theorem Bars.outcome (h : s.Bars id e) (hs : s.Grounded) (run : Script → Play Unit) :
    (Play.goToScene run id).outcome s = some (.error e, s) := by
  rw [Play.outcome_goToScene hs]
  cases h with
  | scene h => rw [h]
  | object h ho => simp only [h, ho]

theorem Balks.outcome (h : s.Balks id e) (hs : s.Grounded) (run : Script → Play Unit) :
    (Play.goToScene run id).outcome s = some (.error e, s.left.arrived id) := by
  rw [Play.outcome_goToScene hs]
  obtain ⟨h, hknown, hplan⟩ := h
  simp only [h, hknown, hplan]

/-- **The ways in which a transition fails** before any script is started. -/
theorem fails_iff (hs : s.Grounded) :
    s.Fails id e t ↔ s.Bars id e ∧ t = s ∨ s.Balks id e ∧ t = s.left.arrived id := by
  constructor
  · intro h
    unfold Fails at h
    rw [Play.outcome_goToScene hs] at h
    cases hscene : s.catalog.scenes.get? id with
    | none =>
      rw [hscene] at h
      cases h
      exact .inl ⟨.scene hscene, rfl⟩
    | some scene =>
      simp only [hscene] at h
      cases hobject : Play.unknown? s scene.interactive.keys with
      | some object =>
        rw [hobject] at h
        cases h
        exact .inl ⟨.object hscene hobject, rfl⟩
      | none =>
        simp only [hobject] at h
        cases hplan : (s.left.arrived id).plan? with
        | error e' =>
          rw [hplan] at h
          cases h
          exact .inr ⟨.guard hscene hobject hplan, rfl⟩
        | ok plan =>
          -- From here on there is no answer without the scripts.
          rw [hplan] at h
          cases h
  · rintro (⟨h, rfl⟩ | ⟨h, rfl⟩)
    · exact h.outcome hs _
    · exact h.outcome hs _

/-- **What fails before any script is started** fails alike, whatever the scripts do. -/
theorem Fails.outcome (h : s.Fails id e t) (hs : s.Grounded) (run : Script → Play Unit) :
    (Play.goToScene run id).outcome s = some (.error e, t) := by
  rcases (fails_iff hs).1 h with ⟨hbars, rfl⟩ | ⟨hbalks, rfl⟩
  · exact hbars.outcome hs run
  · exact hbalks.outcome hs run

/-- No transition fails for reasons of both kinds. -/
theorem Bars.not_balks {e' : Error} (h : s.Bars id e) : ¬ s.Balks id e' := by
  rintro ⟨hscene, hknown, -⟩
  cases h with
  | scene h => cases h.symm.trans hscene
  | object h ho =>
    obtain rfl := Option.some.inj (h.symm.trans hscene)
    cases ho.symm.trans hknown

/-- Where all objects are known, only the guard of an interaction can be the reason. -/
theorem Balks.exists_script (h : s.Balks id e) :
    ∃ scene object script, s.catalog.scenes.get? id = some scene ∧
      scene.interactive.get? object = some script ∧
      script.anyActive (s.left.arrived id).player = .error e := by
  obtain @⟨scene, e, hscene, hknown, hplan⟩ := h
  obtain ⟨here, object, script, hhere, hget, hfail⟩ := exists_script_of_plan hplan
  obtain rfl := Option.some.inj (hscene.symm.trans hhere)
  refine ⟨scene, object, script, hscene, hget, ?_⟩
  rcases hfail with hunknown | hactive
  · -- The object was looked up before the current scene was left.
    have hobject : s.catalog.objects.contains object = true :=
      contains_of_unknown? hknown object (Table.mem_keys_iff.2 (Table.contains_of_get? hget))
    obtain ⟨o, ho⟩ := Table.contains_iff.1 hobject
    have hlook : (s.left.arrived id).catalog.object object = .ok o := Catalog.look_ok_iff.2 ho
    cases hunknown.symm.trans hlook
  · exact hactive

end Session

/-! ## Sessions -/

section

variable {arrows : List String} {s : Session}

/-- **Which transitions that fail change nothing.**  A transition fails before any script is started
if the scene or one of its objects is not known, and then nothing is changed; or if a guard of its
interactions cannot be evaluated, and then the player has arrived in the scene.  In that case the
player was moved, unless the scene is the one that was left, and the scene counts as visited in
every later session. -/
theorem Reached.failed_transition (hs : Reached arrows s) (id : String) :
    (∀ e t, s.Fails id e t ↔ s.Bars id e ∧ t = s ∨ s.Balks id e ∧ t = s.left.arrived id) ∧
    (∀ e t, s.Fails id e t → ∀ run, (Play.goToScene run id).outcome s = some (.error e, t)) ∧
    (∀ e t, s.Fails id e t → s.Bars id e → s.Unmoved t) ∧
    ∀ e t, s.Fails id e t → s.Balks id e →
      (∃ scene object script, s.catalog.scenes.get? id = some scene ∧
        scene.interactive.get? object = some script ∧
        script.anyActive t.player = .error e) ∧
      t.player.currentScene = some id ∧
      (s.player.currentScene ≠ some id → ¬ s.Unmoved t) ∧
      ∀ u, t.Later u → u.player.hasVisited id = true := by
  have hground := hs.grounded
  refine ⟨fun e t => fails_iff hground, fun e t h => h.outcome hground, ?_, ?_⟩
  · intro e t h hbars
    rcases (fails_iff hground).1 h with ⟨-, rfl⟩ | ⟨hbalks, -⟩
    · exact .refl _
    · exact (hbars.not_balks hbalks).elim
  · intro e t h hbalks
    rcases (fails_iff hground).1 h with ⟨hbars, -⟩ | ⟨-, rfl⟩
    · exact (hbars.not_balks hbalks).elim
    · have hreached : Reached arrows (s.left.arrived id) :=
        @Reached.call _ _ _ (.goToScene id) 0 _ hs (h.outcome hground (Play.execute 0))
      refine ⟨hbalks.exists_script, rfl, ?_, ?_⟩
      · intro hne hunmoved
        exact hne hunmoved.currentScene.symm
      · intro u hu
        exact (hu.extends hreached).visited (hreached.grounded.visited rfl)

/-- A world with a vault, whose way out has a guard that is not known. -/
def World.vault : World where
  stages := [
    { id := "S0"
      scenes := [
        { id := "hall", interactive := .ofList [("up", [.new (.goToScene "vault")])] },
        { id := "vault"
          interactive := .ofList [
            ("down",
              [{ (Action.new (.goToScene "hall")) with
                  guard := some (.new (.unrecognized "riddle_solved")) }])]
          firstEntryActions := [.new (.setVariable "seen" (.bool true))] }] }]

/-- The way from the hall into the vault is barred by nothing, and fails behind the arrival. -/
theorem failed_transition_vault :
    ∃ s, Reached ["up", "down"] s ∧ s.player.currentScene = some "hall" ∧
      s.Fails "vault" (.unknownGuard "riddle_solved") (s.left.arrived "vault") ∧
      ¬ s.Unmoved (s.left.arrived "vault") := by
  have hs := @Reached.start ["up", "down"] _ _ 3 (.ofNat 1) .vault _ (.fresh (.ofNat 0)) rfl
  obtain ⟨hiff, -, -, hmoved⟩ := hs.failed_transition "vault"
  have hfails := (hiff (.unknownGuard "riddle_solved") _).2 (.inr ⟨.guard rfl rfl rfl, rfl⟩)
  exact ⟨_, hs, rfl, hfails, (hmoved _ _ hfails (.guard rfl rfl rfl)).2.2.1 (by decide)⟩

/-- **Not every transition that fails changes nothing**: here the player is in the vault, although
the way into it has failed. -/
theorem not_forall_unmoved :
    ¬ ∀ (arrows : List String) (s t : Session) (id : String) (e : Error),
      Reached arrows s → s.Fails id e t → s.Unmoved t := by
  intro h
  have hs := @Reached.start ["up", "down"] _ _ 3 (.ofNat 1) .vault _ (.fresh (.ofNat 0)) rfl
  have hunmoved := h _ _ _ "vault" (.unknownGuard "riddle_solved") hs rfl
  exact absurd hunmoved.currentScene (by decide)

end

end Adventure
