import Adventure.Json.Problem
import Adventure.Json.Writer

/-!
# Defects of a world

A world is refused for a defect of one of its actions, guards, puzzles or stages, whether it is
found while the document is read, when the world is checked, or when the action is due.

## Main definitions

* `Defect`: the causes.
* `Defect.message`: their wording.
* `Json.Problem.text`: the wording of a problem of a document that holds actions and guards.
-/

namespace Adventure

/-- Why a world, an action or a guard is refused. -/
inductive Defect where
  | actionNotObject
  | actionWithoutTag
  | action (tag : String) (problem : Json.Problem Defect)
  | guardNotObject
  | guardWithoutTag
  | guardFlag (found : Json)
  | guardList (problem : Json.Problem Defect)
  | guard (tag : String) (problem : Json.Problem Defect)
  | puzzleUnsolvable
  | puzzle (id : String) (defect : Defect)
  | noStages
  | stageTwice (id : String)
  | unevenAlternative (lists buttons : Nat)
  | badDelay (delay : Double)
  | badIncrement (name kind : String)
  | notStarted

namespace Defect

/-- How a document's problem shows a defect within it. -/
def announce (text : String) : String := "invalid world configuration: " ++ text

mutual

/-- The wording of a defect. -/
def message : Defect → String
  | actionNotObject => "action must be a JSON object"
  | actionWithoutTag => "action is missing a string `type`"
  | action tag problem => s!"action `{tag}`: " ++ problemText problem
  | guardNotObject => "guard must be a JSON object"
  | guardWithoutTag => "guard needs either `and` or a string `type`"
  | guardFlag found => "guard `not` must be a boolean, got " ++ found.compress
  | guardList problem => "guard `and`: " ++ problemText problem
  | guard tag problem => s!"guard `{tag}`: " ++ problemText problem
  | puzzleUnsolvable => "puzzle needs either `codes` or both `code` and `stage`"
  | puzzle id defect => s!"puzzle `{id}`: " ++ message defect
  | noStages => "world declares no stages"
  | stageTwice id => s!"stage `{id}` is declared twice"
  | unevenAlternative lists buttons =>
    s!"alternative declares {lists} action lists for {buttons} buttons"
  | badDelay delay => "delayed_actions has invalid delay " ++ DecimalStyle.plain.write delay
  | badIncrement name kind => s!"increment of `{name}` is {kind}, expected a number"
  | notStarted => "scenario has not been started"

/-- The wording of a problem that a defect wraps. -/
def problemText : Json.Problem Defect → String
  | .refused defect => announce (message defect)
  | problem => problem.message fun _ => ""

end

end Defect

/-- The wording of a problem of a document that holds actions and guards. -/
def Json.Problem.text (problem : Json.Problem Defect) : String := Defect.problemText problem

end Adventure
