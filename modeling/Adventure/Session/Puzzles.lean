import Adventure.Session.Loading
import Adventure.Text.Blank
import Adventure.Text.Lower

/-!
# Submitting codes

A code is trimmed and compared with the codes of a puzzle in lower case.  Every code that matches
leads to its stage: the puzzle is solved and the stage is loaded, or the stage is rediscovered if it
was loaded before.

## Main definitions

* `Puzzle.targets`: the stages that a code leads to.
* `Play.submitCode`: the submission of a code to a puzzle.
-/

namespace Adventure

/-- The stages that a code leads to, in the order of the codes of the puzzle. -/
def Puzzle.targets (p : Puzzle) (code : String) : Except Defect (List String) := do
  let solutions ← p.solutions
  let folded := Text.lower code
  return (solutions.filter fun e => Text.lower e.1 == folded).map Prod.snd

/-- The puzzle that a code is submitted to: the given one, or the one of the current scene. -/
def Session.puzzleFor (s : Session) : Option String → Except Error String
  | some puzzle => .ok puzzle
  | none => do
    let scene ← s.currentScene
    match scene.puzzle with
    | some puzzle => .ok puzzle
    | none => .error (.notFound .puzzle s!"<none in scene {scene.id}>")

/-- The script for a wrong code: the one of the current scene, or else the default one. -/
def Session.wrongCodeScript (s : Session) : Except Error Script := do
  let default := s.catalog.parameters.wrongCodeActions
  if s.player.currentScene.isNone then return default
  let scene ← s.currentScene
  return scene.wrongCodeActions.getD default

namespace Play

/-- A code leads to a stage. -/
def acceptCode (run : Script → Play Unit) (puzzle code stage : String) : Play Unit := do
  if (← get).player.hasLoaded stage then run (← get).catalog.parameters.rediscoveredActions
  else
    player (·.recordAnswer puzzle code)
    -- The input shows the accepted code while the stage loads.
    refreshCodeInput
    loadStage run stage

/-- A code leads nowhere. -/
def rejectCode (run : Script → Play Unit) : Play Unit := do
  cue .clearCodeInput
  let script ← ask Session.wrongCodeScript
  run script

/-- Submits a code to a puzzle, or to the puzzle of the current scene. -/
def submitCode (run : Script → Play Unit) (puzzle : Option String) (code : String) :
    Play Unit := do
  let puzzle ← ask fun s => s.puzzleFor puzzle
  let submitted := Text.trim code
  let declared ← ask fun s => s.puzzle puzzle
  let targets ← ofExcept ((declared.targets submitted).mapError .invalidConfig)
  if targets.isEmpty then rejectCode run
  else targets.forM fun stage => acceptCode run puzzle submitted stage

end Play

end Adventure
