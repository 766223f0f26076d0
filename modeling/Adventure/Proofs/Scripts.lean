import Adventure.Proofs.Loading
import Adventure.Proofs.Messages
import Adventure.Session.Scripts

/-!
# Outcomes of codes and actions

A code is looked up once, when it is submitted; the stages that it leads to are then taken one after
the other.  Of the other actions each has one outcome, or is refused and changes nothing.

## Main definitions

* `Session.targetsOf`: the puzzle and the stages of a code
* `Session.solved`: the session in which a code was accepted
* `Session.assigned`, `Session.tuned`, `Session.scheduled`: the session after an action

## Main results

* `outcome_submitCode`, `outcome_acceptCode`: a code and the stages that it leads to
* `outcome_increment`, `outcome_setMusic`, `outcome_schedule`: the other actions that can be refused
* `outcome_step`: an action with its guard
-/

namespace Adventure

/-! ## Codes -/

/-- A code leads to the same stages in either case. -/
theorem Puzzle.targets_congr (p : Puzzle) {code code' : String}
    (h : Text.lower code = Text.lower code') : p.targets code = p.targets code' := by
  simp only [Puzzle.targets, h]

namespace Session

variable (s : Session)

/-- The puzzle that a code is submitted to, and the stages that the code leads to. -/
def targetsOf (puzzle : Option String) (code : String) : Except Error (String × List String) := do
  let puzzle ← s.puzzleFor puzzle
  let declared ← s.puzzle puzzle
  let targets ← (declared.targets (Text.trim code)).mapError .invalidConfig
  return (puzzle, targets)

/-- The session in which the answer to a puzzle is known and shown. -/
def solved (puzzle code : String) : Session :=
  { s with player := s.player.recordAnswer puzzle code }.cued
    (inputCues { s with player := s.player.recordAnswer puzzle code })

/-- The script for a wrong code. -/
def wrongScript : Script :=
  match s.here? with
  | some scene => scene.wrongCodeActions.getD s.catalog.parameters.wrongCodeActions
  | none => s.catalog.parameters.wrongCodeActions

/-! ## Variables, music and timers -/

/-- The value of a variable after an increment. -/
def sum? (name : String) (increment : Value) : Except Error Value :=
  if !increment.isNumber then
    .error (.invalidConfig (.badIncrement name increment.kindLabel))
  else
    match s.player.valueOf? name with
    | none => .error (.typeMismatch name "nothing")
    | some current =>
      match current.add? increment with
      | some sum => .ok sum
      | none => .error (.typeMismatch name current.kindLabel)

/-- The session with a new value of a variable. -/
def assigned (name : String) (value : Value) : Session :=
  { s with player := s.player.setVariable name value }

/-- The cues that replace the ambience. -/
def musicCues (audio : Option String) : List Cue :=
  (s.player.music.map Cue.stop).toList ++ (audio.map fun key => Cue.play key true).toList

/-- The session with another ambience. -/
def tuned (audio : Option String) : Session :=
  { s with player := { s.player with music := audio } }.cued (s.musicCues audio)

/-- The session with a timer for a script. -/
def scheduled (duration : Duration) (script : Script) : Session :=
  { s with
    timerCount := s.timerCount + 1
    pendingTimers := s.pendingTimers ++ [(s.timerCount, script)] }.cued
    [.after duration s.timerCount]

/-! Which parts of the display are changed. -/

theorem cues_solved (puzzle code : String) : s.Cues [.codeInput] (s.solved puzzle code) :=
  ⟨inputCues { s with player := s.player.recordAnswer puzzle code }, rfl, about_inputCues _⟩

theorem cues_tuned (audio : Option String) : s.Cues [.playing] (s.tuned audio) := by
  refine ⟨s.musicCues audio, rfl, ?_⟩
  unfold musicCues
  cases s.player.music <;> cases audio <;> simp [Cue.About, Cue.part?]

theorem cues_scheduled (duration : Duration) (script : Script) :
    s.Cues [.timers] (s.scheduled duration script) :=
  ⟨[.after duration s.timerCount], rfl, by simp [Cue.About, Cue.part?]⟩

variable {s}

theorem Grounded.wrongCodeScript (hs : s.Grounded) : s.wrongCodeScript = .ok s.wrongScript := by
  unfold Session.wrongCodeScript wrongScript
  cases hid : s.player.currentScene with
  | none => rw [here?_of_none hid]; rfl
  | some id =>
    obtain ⟨scene, hscene, -⟩ := hs.here?_of_some hid
    rw [currentScene_of_here? hscene, hscene]
    rfl

end Session

namespace Play

open Session

variable {s : Session}

theorem outcome_acceptCode (hs : s.Grounded) (run : Script → Play Unit)
    (puzzle code stage : String) :
    (acceptCode run puzzle code stage).outcome s =
      if s.player.hasLoaded stage then
        (run s.catalog.parameters.rediscoveredActions).outcome s
      else (loadStage run stage).outcome (s.solved puzzle code) := by
  -- The answer is known before the code input is shown, so the input shows it.
  have hs' : Grounded { s with player := s.player.recordAnswer puzzle code } :=
    ⟨hs.keyed, hs.known, hs.visited⟩
  simp only [acceptCode, outcome_bind, outcome_get, andThen_ok, outcome_ite, outcome_player,
    outcome_refreshCodeInput hs']
  rfl

theorem outcome_rejectCode (hs : s.Grounded) (run : Script → Play Unit) :
    (rejectCode run).outcome s = (run s.wrongScript).outcome (s.cued [.clearCodeInput]) := by
  simp only [rejectCode, outcome_bind, outcome_cue, andThen_ok, outcome_ask,
    (hs.cued [.clearCodeInput]).wrongCodeScript]
  rfl

/-- **Submitting a code**: the look-ups come first and change nothing when they fail. -/
theorem outcome_submitCode (hs : s.Grounded) (run : Script → Play Unit) (puzzle : Option String)
    (code : String) :
    (submitCode run puzzle code).outcome s =
      match s.targetsOf puzzle code with
      | .error e => some (.error e, s)
      | .ok (_, []) => (run s.wrongScript).outcome (s.cued [.clearCodeInput])
      | .ok (puzzle, stage :: stages) =>
        ((stage :: stages).forM fun stage =>
          acceptCode run puzzle (Text.trim code) stage).outcome s := by
  simp only [submitCode, outcome_bind, outcome_ask, targetsOf]
  cases s.puzzleFor puzzle with
  | error e => rfl
  | ok puzzle =>
    simp only [andThen_ok, outcome_bind, outcome_ask]
    cases hp : s.puzzle puzzle with
    | error e => simp [bind, Except.bind, hp]
    | ok declared =>
      simp only [andThen_ok, outcome_bind, outcome_ofExcept]
      cases ht : declared.targets (Text.trim code) with
      | error e => simp [bind, Except.bind, hp, ht, mapError_error]
      | ok targets =>
        simp only [bind, Except.bind, hp, ht, mapError_ok, andThen_ok, outcome_ite]
        -- A code that leads nowhere is wrong.
        cases targets with
        | nil => exact outcome_rejectCode hs run
        | cons stage stages => rfl

theorem outcome_increment (s : Session) (name : String) (value : Value) :
    (increment name value).outcome s =
      match s.sum? name value with
      | .ok sum => some (.ok (), s.assigned name sum)
      | .error e => some (.error e, s) := by
  unfold increment sum?
  cases hn : value.isNumber with
  | false => rfl
  | true =>
    simp only [outcome_bind, Bool.not_true, Bool.false_eq_true, if_false, andThen_ok, outcome_get]
    cases s.player.valueOf? name with
    | none => rfl
    | some current =>
      cases ha : current.add? value with
      | none => simp only [ha]; rfl
      | some sum => simp only [ha]; rfl

/-- **Changing the ambience**: the same track plays on, and one that is not known is refused. -/
theorem outcome_setMusic (s : Session) (audio : Option String) :
    (setMusic audio).outcome s =
      if s.player.music = audio then some (.ok (), s)
      else
        match audio.filter fun key => !s.catalog.audio.contains key with
        | some key => some (.error (.notFound .audio key), s)
        | none => some (.ok (), s.tuned audio) := by
  simp only [setMusic, outcome_bind, outcome_get, andThen_ok, outcome_ite, outcome_pure]
  split
  · rfl
  · -- The look-up of the new track comes first, so a failure leaves the old one playing.
    cases audio with
    | none =>
      cases hm : s.player.music with
      | none => simp_all
      | some old =>
        simp only [outcome_bind, outcome_pure, outcome_player, outcome_cue, andThen_ok]
        simp [tuned, musicCues, hm, cued]
    | some key =>
      cases hk : s.catalog.audio.get? key with
      | none =>
        simp only [Catalog.audioFiles, Catalog.look, hk, outcome_bind, outcome_ask, andThen_error,
          Option.filter, Table.contains, Option.isSome_none, Bool.not_false, if_true]
      | some urls =>
        simp only [Catalog.audioFiles, Catalog.look, hk, outcome_bind, outcome_ask, andThen_ok,
          Option.filter, Table.contains, Option.isSome_some, Bool.not_true, Bool.false_eq_true,
          if_false]
        cases hm : s.player.music with
        | none =>
          simp only [outcome_bind, outcome_player, outcome_cue, andThen_ok]
          simp [tuned, musicCues, hm, cued]
        | some old =>
          simp only [outcome_bind, outcome_player, outcome_cue, andThen_ok]
          simp [tuned, musicCues, hm, cued]

theorem outcome_schedule (s : Session) (delay : Double) (script : Script) :
    (schedule delay script).outcome s =
      match Duration.ofMilliseconds? delay with
      | none => some (.error (.invalidConfig (.badDelay delay)), s)
      | some duration => some (.ok (), s.scheduled duration script) := by
  unfold schedule
  cases Duration.ofMilliseconds? delay with
  | none => rfl
  | some duration => rfl

theorem outcome_audioFiles (s : Session) (key : String) :
    (ask fun s => s.catalog.audioFiles key).outcome s =
      match s.catalog.audio.get? key with
      | some urls => some (.ok urls, s)
      | none => some (.error (.notFound .audio key), s) := by
  rw [outcome_ask, Catalog.audioFiles, Catalog.look]
  cases s.catalog.audio.get? key <;> rfl

/-- **An action with its guard** is performed, passed over, or fails with its guard. -/
theorem outcome_step (s : Session) (run : Script → Play Unit) (a : Action) :
    (step run a).outcome s =
      match a.passes s.player with
      | .error e => some (.error e, s)
      | .ok false => some (.ok (), s)
      | .ok true => (perform run a).outcome s := by
  simp only [step, outcome_bind, outcome_ask]
  cases a.passes s.player with
  | error e => rfl
  | ok passes => cases passes <;> rfl

end Play

end Adventure
