import Adventure.Proofs.MessageBox
import Adventure.Proofs.Transitions

/-!
# Answers that are lost

A click on a button of a blocking message closes the message and puts its scripts away, then shows
the current scene again, and then runs the script of the button.  If the scene cannot be shown, the
click fails, and the message is gone with all its scripts: the player can choose no more, although
nothing of the choice was done.

## Main definitions

* `Session.Jams`: a click on a button fails before any script is started
* `World.lodge`: a world with a message behind which the scene cannot be shown

## Main results

* `Session.jams_iff`: the reason, and what is left
* `Played.failed_answer`: when a click is lost, and what is lost by it
* `not_forall_asked`: some clicks are
-/

namespace Adventure

open Session

namespace Session

/-- A click on a button fails before any script is started: it fails like this even if no script has
an answer. -/
def Jams (s : Session) (index : Nat) (e : Error) (t : Session) : Prop :=
  (Play.clickButton (fun _ => Play.unanswered) index).outcome s = some (.error e, t)

variable {s t : Session} {scripts : List Script} {index : Nat} {e : Error}

/-- The current scene decides whether a click on a button is lost. -/
theorem outcome_clickButton_of_plan (hs : s.Grounded) (hp : s.player.pending = some scripts)
    (hi : index < scripts.length) (hplan : s.answered.plan? = .error e)
    (run : Script → Play Unit) :
    (Play.clickButton run index).outcome s = some (.error e, s.answered) := by
  have hscript : scripts[index]? = some scripts[index] := List.getElem?_eq_getElem hi
  rw [Play.outcome_clickButton hs, hp]
  simp only [hscript, hplan]

/-- **The reason why a click on a button fails** before any script is started: the current scene
cannot be shown again. -/
theorem jams_iff (hs : s.Grounded) (hp : s.player.pending = some scripts)
    (hi : index < scripts.length) :
    s.Jams index e t ↔ s.answered.plan? = .error e ∧ t = s.answered := by
  constructor
  · intro h
    have hscript : scripts[index]? = some scripts[index] := List.getElem?_eq_getElem hi
    rw [Jams, Play.outcome_clickButton hs, hp] at h
    simp only [hscript] at h
    cases hplan : s.answered.plan? with
    | error e' =>
      rw [hplan] at h
      cases h
      exact ⟨rfl, rfl⟩
    | ok plan =>
      -- From here on there is no answer without the scripts.
      rw [hplan] at h
      cases h
  · rintro ⟨hplan, rfl⟩
    exact outcome_clickButton_of_plan hs hp hi hplan _

end Session

section

variable {arrows : List String} {world : World} {s : Session}

/-- **When a click on a button is lost, and what is lost by it.**  In every session with a blocking
message, which is on display, a click on one of its buttons fails before any script is started
exactly if the current scene cannot be shown again, because one of its interactions has an unknown
object or a guard that cannot be evaluated.  The click fails alike then, whatever the scripts do.
The message is closed, nothing else is changed, and no button of it can be clicked any more. -/
theorem Played.failed_answer (h : Played (fun _ _ => True) arrows world s) {scripts : List Script}
    (hp : s.player.pending = some scripts) {index : Nat} (hi : index < scripts.length) :
    s.display.message.isSome = true ∧
    ((∀ e t, ¬ s.Jams index e t) ↔ ∃ plan, s.answered.plan? = .ok plan) ∧
    ∀ e t, s.Jams index e t →
      (∃ scene object script, s.here? = some scene ∧
        scene.interactive.get? object = some script ∧
        (s.catalog.object object = .error e ∨ script.anyActive t.player = .error e)) ∧
      (∀ run, (Play.clickButton run index).outcome s = some (.error e, t)) ∧
      t = { s with player := { s.player with pending := none }, display := t.display } ∧
      s.Cues [.message] t ∧ t.display.message = none ∧
      ∀ run other, (Play.clickButton run other).outcome t = some (.error .noOpenMessage, t) := by
  have hground := h.underway.grounded
  refine ⟨h.oneMessage.shown.2 (.inr (by rw [hp]; rfl)), ?_, ?_⟩
  · cases hplan : s.answered.plan? with
    | ok plan =>
      refine ⟨fun _ => ⟨plan, rfl⟩, fun _ e t hjams => ?_⟩
      cases hplan.symm.trans ((jams_iff hground hp hi).1 hjams).1
    | error e =>
      refine ⟨fun hnever => ?_, nofun⟩
      exact absurd ((jams_iff hground hp hi).2 ⟨hplan, rfl⟩) (hnever e s.answered)
  · intro e t hjams
    obtain ⟨hplan, rfl⟩ := (jams_iff hground hp hi).1 hjams
    refine ⟨exists_script_of_plan hplan, outcome_clickButton_of_plan hground hp hi hplan, rfl,
      cues_answered s, rfl, ?_⟩
    intro run other
    rw [Play.outcome_clickButton hground.answered]
    rfl

/-- A world with a lodge: once the light is on in its cellar, the guard of the way down is evaluated
to its end, which is not known. -/
def World.lodge : World where
  stages := [
    { id := "lodge"
      scenes := [
        { id := "cellar"
          interactive := .ofList [
            ("up",
              [.new (.setVariable "lit" (.bool true)),
                .new (.alternative "Drink?" [[.new (.setVariable "drunk" (.bool true))], []]
                  ["Yes", "No"])]),
            ("down",
              [{ (Action.new (.showText "A trap door.")) with
                  guard := some (.all [
                    .new (.variableIs "lit" (.bool true)),
                    .new (.unrecognized "moonlit")]) }])] }] }]

/-- The question is asked, and the light is on. -/
theorem exists_played_lodge :
    ∃ s, Played (fun _ _ => True) ["down", "up"] .lodge s ∧
      s.player.pending = some [[.new (.setVariable "drunk" (.bool true))], []] ∧
      s.answered.plan? = .error (.unknownGuard "moonlit") :=
  ⟨_, @Played.call _ _ _ _ _ (.handle (.objectClicked "up")) 3 _
    (@Played.start (fun _ _ => True) ["down", "up"] .lodge 3 (.ofNat 0) (.ofNat 1) _ _ rfl)
    trivial rfl, rfl, rfl⟩

/-- The question cannot be answered any more, after the first click has failed. -/
theorem failed_answer_lodge :
    ∃ s t, Played (fun _ _ => True) ["down", "up"] .lodge s ∧
      (Play.handle 3 (.buttonClicked 0)).outcome s = some (.error (.unknownGuard "moonlit"), t) ∧
      (Play.handle 3 (.buttonClicked 1)).outcome t = some (.error .noOpenMessage, t) := by
  obtain ⟨s, h, hp, hplan⟩ := exists_played_lodge
  have hjams := (jams_iff h.underway.grounded hp (by decide : 0 < 2)).2 ⟨hplan, rfl⟩
  obtain ⟨-, -, hlost⟩ := h.failed_answer hp (by decide : 0 < 2)
  obtain ⟨-, houtcome, -, -, -, hgone⟩ := hlost _ _ hjams
  exact ⟨s, s.answered, h, houtcome _, hgone _ 1⟩

/-- **Not every click that fails** leaves the message open. -/
theorem not_forall_asked :
    ¬ ∀ (arrows : List String) (world : World) (s t : Session) (scripts : List Script)
      (index : Nat) (e : Error), Played (fun _ _ => True) arrows world s →
        s.player.pending = some scripts → index < scripts.length → s.Jams index e t →
        t.player.pending = s.player.pending ∧ t.display.message = s.display.message := by
  intro hall
  obtain ⟨s, h, hp, hplan⟩ := exists_played_lodge
  have hjams := (jams_iff h.underway.grounded hp (by decide : 0 < 2)).2 ⟨hplan, rfl⟩
  have hsame := (hall _ _ s s.answered _ 0 _ h hp (by decide) hjams).1
  rw [hp] at hsame
  cases hsame

end

end Adventure
