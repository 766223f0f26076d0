import Adventure.Proofs.Steps

/-!
# The message box

A session keeps in two places whether a message is open: the flag of a notice and the scripts of a
blocking message.  Both agree with each other and with what is on display, through all that opens
and closes messages.  While a blocking message is open, clicks elsewhere do nothing.

## Main definitions

* `Session.OneMessage`: at most one message is open, and it is the one on display

## Main results

* `Move.oneMessage`, `Halt.oneMessage`: every step keeps the agreement
* `Underway.oneMessage`: the agreement between two steps
* `Played.messages_modal`: the agreement in every session, and what the events do under a blocking
  message
-/

namespace Adventure

open Session

/-- **At most one message is open**, and it is the one on display: without buttons if it is a
notice, and with a button for each script if it blocks. -/
structure Session.OneMessage (s : Session) : Prop where
  exclusive : s.noticeOpen = true → s.player.pending = none
  shown : s.display.message.isSome = true ↔ s.noticeOpen = true ∨ s.player.pending.isSome = true
  notice : ∀ {text buttons}, s.noticeOpen = true → s.display.message = some (text, buttons) →
    buttons = []
  blocking : ∀ {scripts text buttons}, s.player.pending = some scripts →
    s.display.message = some (text, buttons) → buttons.length = scripts.length

variable {P : Policy} {s t : Session} {e : Error}

theorem Session.OneMessage.congr (h : s.OneMessage) (hp : t.player.pending = s.player.pending)
    (hn : t.noticeOpen = s.noticeOpen) (hm : t.display.message = s.display.message) :
    t.OneMessage where
  exclusive := by rw [hn, hp]; exact h.exclusive
  shown := by rw [hn, hp, hm]; exact h.shown
  notice := by rw [hn, hm]; exact h.notice
  blocking := by rw [hp, hm]; exact h.blocking

/-! ## Opening and closing -/

theorem Session.oneMessage_noticed (s : Session) (text : String) : (s.noticed text).OneMessage := by
  have hm : (s.noticed text).display.message = some (text, []) :=
    (cues_cued (s := s.cued [.showMessage text []]) (about_hidingCues s true)).message (by simp)
  refine ⟨fun _ => rfl, ?_, ?_, fun hp => by cases hp⟩
  · rw [hm]
    exact ⟨fun _ => .inl rfl, fun _ => rfl⟩
  · intro _ _ _ h
    rw [hm] at h
    cases h
    rfl

theorem Session.oneMessage_blocked (s : Session) (text : String) {buttons : List String}
    {scripts : List Script} (hl : scripts.length = buttons.length) :
    (s.blocked text buttons scripts).OneMessage := by
  have hm : (s.blocked text buttons scripts).display.message = some (text, buttons) :=
    (cues_cued (s := s.cued [.showMessage text buttons]) (about_hidingCues s false)).message
      (by simp)
  refine ⟨fun h => (by cases h), ?_, fun h => (by cases h), ?_⟩
  · rw [hm]
    exact ⟨fun _ => .inr rfl, fun _ => rfl⟩
  · intro _ _ _ hp h
    rw [hm] at h
    cases h
    cases hp
    exact hl.symm

/-- Where neither a notice nor a blocking message is open, none may be on display. -/
theorem Session.oneMessage_of_none (hn : s.noticeOpen = false) (hp : s.player.pending = none)
    (hm : s.display.message = none) : s.OneMessage := by
  constructor <;> simp [hn, hp, hm]

theorem Session.OneMessage.noticeClosed (h : s.OneMessage) (ho : s.noticeOpen = true) :
    s.noticeClosed.OneMessage :=
  oneMessage_of_none rfl (h.exclusive ho) rfl

/-- No notice is open beside a blocking message. -/
theorem Session.OneMessage.noticeOpen_of_pending (h : s.OneMessage) {scripts : List Script}
    (hp : s.player.pending = some scripts) : s.noticeOpen = false := by
  cases ho : s.noticeOpen with
  | false => rfl
  | true => cases hp.symm.trans (h.exclusive ho)

theorem Session.OneMessage.answered (h : s.OneMessage) {scripts : List Script}
    (hp : s.player.pending = some scripts) : s.answered.OneMessage :=
  oneMessage_of_none (h.noticeOpen_of_pending hp) rfl rfl

/-! ## Steps -/

theorem Asked.oneMessage {stage : String} (h : Asked P s stage t) (hs : s.OneMessage) :
    t.OneMessage := by
  have hm : t.display.message = s.display.message := h.cues.message (by simp)
  cases h with
  | direct => exact hs
  | code => exact hs.congr rfl rfl hm

theorem Move.oneMessage (h : Move P s t) (hs : s.OneMessage) : t.OneMessage := by
  -- A step that opens or closes no message gives cues about other parts of the display.
  cases h with
  | enter => exact hs.congr rfl rfl ((cues_changed s _ _ _).message (by simp))
  | hide => exact hs.congr rfl rfl ((cues_hidden s false).message (by simp))
  | notice text => exact oneMessage_noticed s text
  | block text ha hmem hl => exact oneMessage_blocked s text hl
  | @close plan ho =>
    exact (hs.noticeClosed ho).congr rfl rfl ((cues_shown _ plan).message (by simp))
  | @answer scripts hp plan =>
    exact (hs.answered hp).congr rfl rfl ((cues_shown _ plan).message (by simp))
  | tune => exact hs.congr rfl rfl ((cues_tuned s _).message (by simp))
  | schedule => exact hs.congr rfl rfl ((cues_scheduled s _ _).message (by simp))
  | @preload id stage u h =>
    have hcues := (cues_requested u id).trans (cues_preloading _ stage)
    exact (h.oneMessage hs).congr rfl rfl (hcues.message (by simp))
  | @load id stage scenes u h =>
    have hcues := (cues_requested u id).trans (cues_finished _ stage scenes)
    exact (h.oneMessage hs).congr rfl rfl (hcues.message (by simp))
  | @complete batch =>
    exact hs.congr rfl rfl ((cues_finished (s.reported batch) _ _).message (by simp))
  | assign | increment | fade | swell | play | stop | redirect | fire | clear | queue
  | reportBatches | reportTimers =>
    exact hs.congr rfl rfl rfl

theorem Halt.oneMessage (h : Halt P s e t) (hs : s.OneMessage) : t.OneMessage := by
  cases h with
  | reject => exact hs
  | strand => exact hs.congr rfl rfl ((cues_stranded s _).message (by simp))
  | close ho => exact hs.noticeClosed ho
  | answer hp => exact hs.answered hp
  | unstaged h => exact h.oneMessage hs
  | unresolved h =>
    exact (h.oneMessage hs).congr rfl rfl ((cues_requested _ _).message (by simp))
  | incomplete => exact hs.congr rfl rfl rfl

/-! ## Sessions -/

/-- **At most one message is open**, also between two steps. -/
theorem Underway.oneMessage {arrows : List String} {world : World}
    (h : Underway arrows world s) : s.OneMessage := by
  refine h.invariant (fun id => oneMessage_of_none rfl rfl rfl) ?_ ?_
  · intro id id'
    exact oneMessage_of_none rfl rfl
      ((cues_begun (withArrows id arrows) id' world).message (by simp))
  · intro s t _ hs hstep
    cases hstep with
    | move h => exact h.oneMessage hs
    | halt h => exact h.oneMessage hs

theorem Played.oneMessage {arrows : List String} {world : World}
    (h : Played (fun _ _ => True) arrows world s) : s.OneMessage := h.underway.oneMessage

/-! ## Events under a blocking message -/

section Blocked

variable {scripts : List Script} (hp : s.player.pending = some scripts)
include hp

theorem Play.outcome_clickObject_of_pending (depth : Nat) (object : String) :
    (clickObject depth object).outcome s = some (.ok (), s) := by
  have hb : s.player.isBlocked = true := by rw [Player.isBlocked, hp]; rfl
  rw [outcome_clickObject, hb, if_pos rfl]

/-- A notice would be closed by a click anywhere, but none is open beside the message. -/
theorem Session.OneMessage.outcome_dismiss (h : s.OneMessage) :
    Play.dismiss.outcome s = some (.ok (), s) := by
  rw [Play.outcome_dismiss, h.noticeOpen_of_pending hp, if_neg Bool.false_ne_true]

/-- A click on a button that the message does not have. -/
theorem Play.outcome_clickButton_of_le (run : Script → Play Unit) {index : Nat}
    (hi : scripts.length ≤ index) :
    (clickButton run index).outcome s =
      some (.error (.notFound .button s!"{index} (message has {scripts.length})"), s) := by
  have hget : scripts[index]? = none := List.getElem?_eq_none hi
  simp only [clickButton, outcome_bind, outcome_get, andThen_ok, hp, hget, outcome_throw]

/-- A click on a button that the message has: the message is closed first. -/
theorem Play.outcome_clickButton_of_lt (run : Script → Play Unit) {index : Nat}
    (hi : index < scripts.length) :
    (clickButton run index).outcome s =
      (do
        restoreInteractivity
        run scripts[index]).outcome s.answered := by
  have hget : scripts[index]? = some scripts[index] := List.getElem?_eq_getElem hi
  simp only [clickButton, outcome_bind, outcome_get, andThen_ok, hp, hget, outcome_player,
    outcome_cue]
  rfl

end Blocked

/-- **One message at a time, and the blocking one is modal.**  In every session the message box
agrees with what is open.  Under a blocking message, clicks on objects and clicks anywhere change
nothing, a button that the message does not have is refused, and each of its buttons closes it,
shows the scene again, and then runs its own script.  To show the scene again is to put its objects
and its code input on display as planned; it fails if a guard cannot be evaluated. -/
theorem Played.messages_modal {arrows : List String} {world : World}
    (h : Played (fun _ _ => True) arrows world s) :
    s.OneMessage ∧ ∀ scripts, s.player.pending = some scripts → ∀ depth,
      (∀ object, (Play.handle depth (.objectClicked object)).outcome s = some (.ok (), s)) ∧
      (Play.handle depth .messageDismissed).outcome s = some (.ok (), s) ∧
      (∀ index, scripts.length ≤ index → ∃ what,
        (Play.clickButton (Play.execute depth) index).outcome s =
          some (.error (.notFound .button what), s)) ∧
      ∀ index (hi : index < scripts.length),
        s.answered.player.pending = none ∧ s.answered.display.message = none ∧
        (Play.clickButton (Play.execute depth) index).outcome s =
          (do
            Play.restoreInteractivity
            Play.execute depth scripts[index]).outcome s.answered ∧
        Play.restoreInteractivity.outcome s.answered =
          match s.answered.plan? with
          | .ok plan => some (.ok (), s.answered.shown plan)
          | .error e => some (.error e, s.answered) := by
  have hone := h.oneMessage
  refine ⟨hone, fun scripts hp depth => ⟨?_, ?_, ?_, ?_⟩⟩
  · intro object
    exact Play.outcome_clickObject_of_pending hp depth object
  · exact hone.outcome_dismiss hp
  · intro index hi
    exact ⟨_, Play.outcome_clickButton_of_le hp (Play.execute depth) hi⟩
  · intro index hi
    exact ⟨rfl, rfl, Play.outcome_clickButton_of_lt hp (Play.execute depth) hi,
      Play.outcome_restore h.underway.grounded.answered⟩

/-- The door of the gate asks a question, and a click on the wall does nothing then. -/
theorem messages_modal_gate :
    ∃ s, Played (fun _ _ => True) ["left"] .gate s ∧
      s.player.pending = some [[.new (.goToScene "road")]] ∧
      (Play.handle 3 (.objectClicked "left")).outcome s = some (.ok (), s) := by
  obtain ⟨s, h, hp⟩ := exists_played_gate
  exact ⟨s, h, hp, (h.messages_modal.2 _ hp 3).1 "left"⟩

end Adventure
