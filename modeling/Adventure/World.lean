import Adventure.Parameters
import Adventure.Scene

/-!
# Worlds

A world is what the author of a scenario writes: stages, which are loaded one by one and hold
scenes and audio, puzzles, whose codes lead to stages, and parameters.

## Main definitions

* `Stage`, `Stage.needsPreload`: the unit of loading, and whether it has assets to wait for.
* `Puzzle`, `Puzzle.solutions`: the codes of a puzzle with the stages they lead to.
* `World`, `World.validate`: the whole, and the check before it is played.
* `World.ofText`: the world that a text starts with.
-/

namespace Adventure

/-- What is loaded together. -/
structure Stage where
  id : String
  scenes : List Scene := []
  /-- The files of each piece of audio. -/
  audio : Table (List String) := ∅
  /-- Run when the stage has been loaded. -/
  loadActions : Script := []

/-- A puzzle: either one code and its stage, or a table of codes with their stages. -/
structure Puzzle where
  code : Option String := none
  stage : Option String := none
  codes : Option (Table String) := none
  hints : List String := []

/-- What the author of a scenario writes. -/
structure World where
  stages : List Stage
  puzzles : Table Puzzle := ∅
  parameters : Parameters := {}

namespace Stage

/-- Whether the stage has assets to wait for. -/
def needsPreload (s : Stage) : Bool :=
  !s.audio.isEmpty || s.scenes.any fun scene => scene.background.isSome

/-- The first defect of the scripts of a stage. -/
def validate (s : Stage) : Except Defect Unit := do
  validateScript s.loadActions
  s.scenes.forM Scene.validate

/-- A stage in a document. -/
def layout : Json.Layout Defect Stage where
  name := "struct Stage"
  blank := { id := "" }
  fields := [
    .required "id" Json.Reader.string fun v s => { s with id := v },
    .defaulted "scenes" (.list Scene.reader) fun v s => { s with scenes := v },
    .defaulted "audio" (.table (.list Json.Reader.string)) fun v s => { s with audio := v },
    .defaulted "load_actions" Script.reader fun v s => { s with loadActions := v }]

/-- A stage of a document. -/
def reader : Json.Reader Defect Stage := .record layout

end Stage

namespace Puzzle

/-- The codes of a puzzle with the stages they lead to; a table of codes counts before the single
code and is taken in the order of the codes. -/
def solutions (p : Puzzle) : Except Defect (List (String × String)) :=
  match p.codes, p.code, p.stage with
  | some codes, _, _ => .ok codes.entries
  | none, some code, some stage => .ok [(code, stage)]
  | none, _, _ => .error .puzzleUnsolvable

/-- A puzzle in a document. -/
def layout : Json.Layout Defect Puzzle where
  name := "struct PuzzleConfig"
  blank := {}
  fields := [
    .defaulted "code" (.nullable Json.Reader.string) fun v p => { p with code := v },
    .defaulted "stage" (.nullable Json.Reader.string) fun v p => { p with stage := v },
    .defaulted "codes" (.nullable (.table Json.Reader.string)) fun v p => { p with codes := v },
    .defaulted "hints" (.list Json.Reader.string) fun v p => { p with hints := v }]

/-- A puzzle of a document. -/
def reader : Json.Reader Defect Puzzle := .record layout

end Puzzle

namespace World

/-- The first stage with an id. -/
def stage? (w : World) (id : String) : Option Stage := w.stages.find? fun s => s.id == id

/-- The stage that is loaded at the start. -/
def firstStage (w : World) : Except Defect Stage :=
  match w.stages with
  | [] => .error .noStages
  | stage :: _ => .ok stage

/-- The first defect of stages, given the ids that were seen before them. -/
def validateStages (seen : Names) : List Stage → Except Defect Unit
  | [] => .ok ()
  | stage :: rest => do
    if seen.contains stage.id then .error (.stageTwice stage.id)
    stage.validate
    validateStages (seen.add stage.id) rest

/-- The first defect of puzzles. -/
def validatePuzzles : List (String × Puzzle) → Except Defect Unit
  | [] => .ok ()
  | (id, puzzle) :: rest => do
    let _ ← puzzle.solutions.mapError (.puzzle id)
    validatePuzzles rest

/-- The first defect of a world: there is a stage, no stage is declared twice, every script is
valid, and every puzzle has a solution. -/
def validate (w : World) : Except Defect Unit := do
  let _ ← w.firstStage
  validateStages ∅ w.stages
  validatePuzzles w.puzzles.entries
  validateScript w.parameters.wrongCodeActions
  validateScript w.parameters.rediscoveredActions

/-- A world in a document. -/
def layout : Json.Layout Defect World where
  name := "struct WorldConfig"
  blank := { stages := [] }
  fields := [
    .required "stages" (.list Stage.reader) fun v w => { w with stages := v },
    .defaulted "puzzles" (.table Puzzle.reader) fun v w => { w with puzzles := v },
    .defaulted "parameters" Parameters.reader fun v w => { w with parameters := v }]

/-- A world of a document. -/
def reader : Json.Reader Defect World := .record layout

/-- The world that a text starts with; what stands behind it is not looked at. -/
def ofText (text : String) : Except (Json.Misread Defect) World := Json.Reader.first reader text

end World

end Adventure
