import Adventure.Session.Messages
import Adventure.Session.Puzzles

/-!
# Running scripts

The actions of a script run in order.  An action whose guard does not hold is passed over; an error
ends the script and leaves what was done before.

Scripts can call each other without end, so the depth of calls is bounded: `Play.execute n` lets
scripts be nested `n` deep and has no answer for scripts that nest deeper.

## Main definitions

* `Play.perform`: the effect of an action, given how to run the scripts that it calls.
* `Play.step`, `Play.execute`: an action with its guard, and a script.
-/

namespace Adventure.Play

/-- Adds a number to a variable, which must hold one. -/
def increment (name : String) (increment : Value) : Play Unit := do
  if !increment.isNumber then
    throw (.invalidConfig (.badIncrement name increment.kindLabel))
  match (← get).player.valueOf? name with
  | none => throw (.typeMismatch name "nothing")
  | some current =>
    match current.add? increment with
    | some sum => player (·.setVariable name sum)
    | none => throw (.typeMismatch name current.kindLabel)

/-- Changes the ambience.  The same track plays on. -/
def setMusic (audio : Option String) : Play Unit := do
  let previous := (← get).player.music
  if previous = audio then return
  -- The new track must be known before the old one is stopped.
  match audio with
  | some key =>
    let _ ← ask fun s => s.catalog.audioFiles key
  | none => pure ()
  match previous with
  | some key =>
    player fun p => { p with music := none }
    cue (.stop key)
  | none => pure ()
  match audio with
  | some key =>
    cue (.play key true)
    player fun p => { p with music := some key }
  | none => pure ()

/-- Arms a timer for a script. -/
def schedule (delay : Double) (script : Script) : Play Unit := do
  match Duration.ofMilliseconds? delay with
  | none => throw (.invalidConfig (.badDelay delay))
  | some duration =>
    let timer := (← get).timerCount
    modify fun s => { s with
      timerCount := timer + 1
      pendingTimers := s.pendingTimers ++ [(timer, script)] }
    cue (.after duration timer)

/-- The effect of an action. -/
def perform (run : Script → Play Unit) (a : Action) : Play Unit := do
  match a.effect with
  | .goToScene scene => goToScene run scene
  | .enterCode puzzle code => submitCode run puzzle code
  | .showText text => showNotice text
  | .blockingText text button next =>
    let label := button.getD (← get).catalog.parameters.buttonText
    showBlocking text [label] [next]
  | .alternative text scripts buttons =>
    -- Scripts that come from outside were not validated.
    if scripts.length ≠ buttons.length then
      throw (.invalidConfig (.unevenAlternative scripts.length buttons.length))
    showBlocking text buttons scripts
  | .setVariable name value => player (·.setVariable name value)
  | .incrementVariable name value => increment name value
  | .fadeTween tween =>
    -- A fade that is under way gives way to the new one.
    cue (.cancelAnimation .fade)
    cue (.animate .fade tween)
  | .setMusic audio _ => setMusic audio
  | .musicTween tween =>
    match (← get).player.music with
    | some key => cue (.animate (.ambience key) tween)
    | none => pure ()
  | .playAudio key _ =>
    let _ ← ask fun s => s.catalog.audioFiles key
    cue (.play key false)
  | .stopAudio key =>
    let _ ← ask fun s => s.catalog.audioFiles key
    cue (.stop key)
  | .group next => run next
  | .runProcedure name =>
    let script ← ask fun s => s.catalog.procedure name
    run script
  | .delayed delay next => schedule delay next
  | .hideInteractive => hideInteractive
  | .redirect url => cue (.redirect url)
  | .unrecognized => throw (.unknownAction a.tag)

/-- An action with its guard. -/
def step (run : Script → Play Unit) (a : Action) : Play Unit := do
  if ← ask fun s => a.passes s.player then perform run a

/-- A script, with scripts nested up to the given depth. -/
def execute : Nat → Script → Play Unit
  | 0, _ => unanswered
  | depth + 1, script => script.forM (step (execute depth))

end Adventure.Play
