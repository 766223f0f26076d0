import Adventure.Value

/-!
# Guards: conditions of actions

A guard is a condition over the state of the player, possibly negated.

## Main definitions

* `Condition`, `Guard`: the conditions, and a condition with the flag of its negation.
* `Guard.negated`, `Guard.all`: the guard with the flag flipped, and the conjunction of guards.
-/

namespace Adventure

mutual

/-- A condition, negated if the flag is set. -/
structure Guard where
  condition : Condition
  negate : Bool

/-- What a guard checks. -/
inductive Condition where
  /-- All guards hold, checked from left to right. -/
  | all (guards : List Guard)
  /-- The variable holds a value strictly equal to this one. -/
  | variableIs (name : String) (value : Value)
  | puzzleSolved (puzzle : String)
  | sceneVisited (scene : String)
  | stageLoaded (stage : String)
  /-- A condition that is not known, kept under its name. -/
  | unrecognized (tag : String)

end

namespace Guard

/-- The guard of a condition. -/
def new (condition : Condition) : Guard := ⟨condition, false⟩

/-- The conjunction of guards. -/
def all (guards : List Guard) : Guard := new (.all guards)

/-- The guard with the opposite result. -/
def negated (g : Guard) : Guard := ⟨g.condition, !g.negate⟩

@[simp] theorem negated_negated (g : Guard) : g.negated.negated = g := by
  cases g
  simp [negated]

end Guard

end Adventure
