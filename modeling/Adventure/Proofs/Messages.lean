import Adventure.Proofs.Scenes
import Adventure.Session.Messages

/-!
# Outcomes of the operations on messages

Opening a message does not fail.  Closing one fails only if the scene behind it cannot be shown, and
the message is closed then, too.

## Main definitions

* `Session.noticed`, `Session.blocked`: the session with a new message
* `Session.noticeClosed`, `Session.answered`: the session whose message was just closed

## Main results

* `outcome_showNotice`, `outcome_showBlocking`: opening a message
* `outcome_closeNotice`, `outcome_clickButton`: closing one
-/

namespace Adventure

namespace Session

variable (s : Session)

/-- The session with a notice. -/
def noticed (text : String) : Session :=
  { s with player := { s.player with pending := none }, noticeOpen := true }.cued
    (.showMessage text [] :: s.hidingCues true)

/-- The session with a blocking message. -/
def blocked (text : String) (buttons : List String) (scripts : List Script) : Session :=
  { s with player := { s.player with pending := some scripts }, noticeOpen := false }.cued
    (.showMessage text buttons :: s.hidingCues false)

/-- The session whose notice was closed, before anything is shown again. -/
def noticeClosed : Session := { s with noticeOpen := false }.cued [.hideMessage]

/-- The session whose blocking message was closed, before anything is shown again. -/
def answered : Session :=
  { s with player := { s.player with pending := none } }.cued [.hideMessage]

/-! Which parts of the display are changed. -/

theorem about_showMessage (text : String) (buttons : List String) :
    Cue.About [.message] [.showMessage text buttons] := by
  simp [Cue.About, Cue.part?]

theorem cues_noticed (text : String) :
    s.Cues [.message, .objects, .codeInput] (s.noticed text) :=
  ⟨_, rfl, (about_showMessage text []).append (about_hidingCues s true)⟩

theorem cues_blocked (text : String) (buttons : List String) (scripts : List Script) :
    s.Cues [.message, .objects, .codeInput] (s.blocked text buttons scripts) :=
  ⟨_, rfl, (about_showMessage text buttons).append (about_hidingCues s false)⟩

theorem cues_noticeClosed : s.Cues [.message] s.noticeClosed :=
  ⟨[.hideMessage], rfl, by simp [Cue.About, Cue.part?]⟩

theorem cues_answered : s.Cues [.message] s.answered :=
  ⟨[.hideMessage], rfl, by simp [Cue.About, Cue.part?]⟩

variable {s}

theorem Grounded.noticeClosed (hs : s.Grounded) : s.noticeClosed.Grounded :=
  ⟨hs.keyed, hs.known, hs.visited⟩

theorem Grounded.answered (hs : s.Grounded) : s.answered.Grounded :=
  ⟨hs.keyed, hs.known, hs.visited⟩

end Session

namespace Play

open Session

variable {s : Session}

theorem outcome_showNotice (hs : s.Grounded) (text : String) :
    (showNotice text).outcome s = some (.ok (), s.noticed text) := by
  -- What is hidden is hidden in the session that already shows the message.
  have hs' : ({ s with player := { s.player with pending := none } }.cued
      [.showMessage text []]).Grounded := ⟨hs.keyed, hs.known, hs.visited⟩
  simp only [showNotice, outcome_bind, outcome_player, andThen_ok, outcome_cue,
    outcome_hideHotspots hs', outcome_modify]
  rfl

theorem outcome_showBlocking (hs : s.Grounded) (text : String) (buttons : List String)
    (scripts : List Script) :
    (showBlocking text buttons scripts).outcome s =
      some (.ok (), s.blocked text buttons scripts) := by
  have hs' : ({ s with player := { s.player with pending := none }, noticeOpen := false }.cued
      [.showMessage text buttons]).Grounded := ⟨hs.keyed, hs.known, hs.visited⟩
  simp only [showBlocking, outcome_bind, outcome_player, andThen_ok, outcome_cue, outcome_modify,
    outcome_hideInteractive hs']
  rfl

/-- The current scene is shown again unless a guard cannot be evaluated. -/
theorem outcome_restore (hs : s.Grounded) :
    restoreInteractivity.outcome s =
      match s.plan? with
      | .ok plan => some (.ok (), s.shown plan)
      | .error e => some (.error e, s) := by
  unfold restoreInteractivity
  cases hid : s.player.currentScene with
  | none =>
    -- Without a scene there is nothing to plan and nothing to show.
    simp [outcome_bind, hid, plan?, shown, planCues, inputCues, here?_of_none hid]
  | some id =>
    simp only [outcome_bind, outcome_get, andThen_ok, hid, Option.isNone_some,
      Bool.false_eq_true, if_false]
    exact (outcome_bind _ _ _).symm.trans (outcome_showScene hs hid)

theorem outcome_closeNotice (hs : s.Grounded) :
    closeNotice.outcome s =
      match s.noticeClosed.plan? with
      | .ok plan => some (.ok (), s.noticeClosed.shown plan)
      | .error e => some (.error e, s.noticeClosed) := by
  simp only [closeNotice, outcome_bind, outcome_modify, andThen_ok, outcome_cue]
  exact outcome_restore hs.noticeClosed

theorem outcome_dismiss (s : Session) :
    dismiss.outcome s = if s.noticeOpen then closeNotice.outcome s else some (.ok (), s) := by
  simp only [dismiss, outcome_bind, outcome_get, andThen_ok, outcome_ite, outcome_pure]

/-- **A click on a button** closes the message before the script of the button runs. -/
theorem outcome_clickButton (hs : s.Grounded) (run : Script → Play Unit) (index : Nat) :
    (clickButton run index).outcome s =
      match s.player.pending with
      | none => some (.error .noOpenMessage, s)
      | some scripts =>
        match scripts[index]? with
        | none =>
          some (.error (.notFound .button s!"{index} (message has {scripts.length})"), s)
        | some script =>
          match s.answered.plan? with
          | .error e => some (.error e, s.answered)
          | .ok plan => (run script).outcome (s.answered.shown plan) := by
  simp only [clickButton, outcome_bind, outcome_get, andThen_ok]
  cases s.player.pending with
  | none => rfl
  | some scripts =>
    cases h : scripts[index]? with
    | none => simp [h]
    | some script =>
      simp only [h, outcome_bind, outcome_player, andThen_ok, outcome_cue]
      -- The message is closed whether or not the scene can be shown again.
      show andThen (restoreInteractivity.outcome s.answered) _ = _
      rw [outcome_restore hs.answered]
      cases s.answered.plan? with
      | error e => rfl
      | ok plan => rfl

end Play

end Adventure
