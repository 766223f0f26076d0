import Adventure.Action.Reader
import Adventure.Error
import Adventure.Table

/-!
# The state of a player

What a player has reached: the scene and the ambience, the variables, the stages that were loaded,
the scenes that were visited, and the codes that were accepted.  A saved game holds all of it but
the message that waits for an answer.

## Main definitions

* `Player` with its queries and updates.
* `Player.toJson`, `Player.reader`: the saved game.
-/

namespace Adventure

/-- The state of a player. -/
structure Player where
  sessionId : Uuid
  /-- The scene that the player sees; none before the first one. -/
  currentScene : Option String := none
  /-- The track of the ambience. -/
  music : Option String := none
  /-- The values of the variables. -/
  values : Table Value := ∅
  loadedStages : Names := ∅
  visitedScenes : Names := ∅
  /-- The accepted code of each solved puzzle. -/
  answers : Table String := ∅
  /-- The script of each button of the blocking message that is open. -/
  pending : Option (List Script) := none

namespace Player

/-- Whether a puzzle is solved. -/
def isSolved (p : Player) (puzzle : String) : Bool := p.answers.contains puzzle

/-- Whether a scene was visited. -/
def hasVisited (p : Player) (scene : String) : Bool := p.visitedScenes.contains scene

/-- Whether a stage was loaded; loading starts with the mark. -/
def hasLoaded (p : Player) (stage : String) : Bool := p.loadedStages.contains stage

/-- Whether a blocking message is open. -/
def isBlocked (p : Player) : Bool := p.pending.isSome

/-- The number of puzzles in a list that are not solved. -/
def unsolvedCount (p : Player) (puzzles : List String) : Nat :=
  puzzles.countP fun puzzle => !p.isSolved puzzle

/-- The value of a variable. -/
def valueOf? (p : Player) (name : String) : Option Value := p.values.get? name

/-- Sets a variable. -/
def setVariable (p : Player) (name : String) (value : Value) : Player :=
  { p with values := p.values.insert name value }

/-- Marks a stage as loaded. -/
def markLoaded (p : Player) (stage : String) : Player :=
  { p with loadedStages := p.loadedStages.add stage }

/-- Marks a scene as visited. -/
def markVisited (p : Player) (scene : String) : Player :=
  { p with visitedScenes := p.visitedScenes.add scene }

/-- Records the accepted code of a puzzle. -/
def recordAnswer (p : Player) (puzzle code : String) : Player :=
  { p with answers := p.answers.insert puzzle code }

/-! ## Saved games -/

/-- The values of a table, as the members of an object. -/
def tableToJson {α : Type} (write : α → Json) (t : Table α) : Json :=
  .object (t.entries.map fun e => (e.1, write e.2))

/-- The names of a set, in order. -/
def namesToJson (s : Names) : Json := .array (s.keys.map .string)

/-- A string that may be missing. -/
def optionToJson : Option String → Json
  | none => .null
  | some s => .string s

/-- The saved game without the id of the session. -/
def snapshot (p : Player) : Members := [
  ("background_audio_key", optionToJson p.music),
  ("correct_answers", tableToJson .string p.answers),
  ("current_scene_id", optionToJson p.currentScene),
  ("loaded_stages", namesToJson p.loadedStages),
  ("variables", tableToJson Value.toJson p.values),
  ("visited_scenes", namesToJson p.visitedScenes)]

/-- The saved game. -/
def toJson (p : Player) : Json :=
  .object (("session_id", .string p.sessionId.text) :: p.snapshot)

/-- A value of a variable in a document. -/
def valueReader : Json.Reader Defect Value := .understood Members.value

/-- A set of names in a document. -/
def namesReader : Json.Reader Defect Names :=
  fun depth doc => (Json.Reader.list Json.Reader.string depth doc).map Names.ofList

/-- A saved game in a document. -/
def layout : Json.Layout Defect Player where
  name := "struct PlayerState"
  blank := { sessionId := .ofNat 0 }
  fields := [
    .required "session_id" Json.Reader.uuid fun v p => { p with sessionId := v },
    .optional "current_scene_id" (.nullable Json.Reader.string)
      fun v p => { p with currentScene := v },
    .optional "background_audio_key" (.nullable Json.Reader.string)
      fun v p => { p with music := v },
    .required "variables" (.table valueReader) fun v p => { p with values := v },
    .required "loaded_stages" namesReader fun v p => { p with loadedStages := v },
    .required "visited_scenes" namesReader fun v p => { p with visitedScenes := v },
    .required "correct_answers" (.table Json.Reader.string) fun v p => { p with answers := v }]

/-- A saved game of a document. -/
def reader : Json.Reader Defect Player := .record layout

end Player

/-! ## Guards -/

mutual

/-- Whether a guard holds.  Conjunctions stop at the first guard that does not hold, so an unknown
guard behind it is not reached; the negation is applied last. -/
def Guard.evaluate (p : Player) : Guard → Except Error Bool
  | ⟨condition, negate⟩ => (Condition.evaluate p condition).map fun holds => holds != negate

/-- Whether a condition holds. -/
def Condition.evaluate (p : Player) : Condition → Except Error Bool
  | .all guards => Condition.evaluateAll p guards
  | .variableIs name value =>
    match p.valueOf? name with
    | some stored => .ok (stored.strictlyEquals value)
    | none => .ok false
  | .puzzleSolved puzzle => .ok (p.isSolved puzzle)
  | .sceneVisited scene => .ok (p.hasVisited scene)
  | .stageLoaded stage => .ok (p.hasLoaded stage)
  | .unrecognized tag => .error (.unknownGuard tag)

/-- Whether all guards of a list hold. -/
def Condition.evaluateAll (p : Player) : List Guard → Except Error Bool
  | [] => .ok true
  | guard :: guards => do
    -- An error of a guard is met only if all guards before it hold.
    if ← guard.evaluate p then Condition.evaluateAll p guards else .ok false

end

/-- Whether the guard of an action holds; without a guard it does. -/
def Action.passes (p : Player) (a : Action) : Except Error Bool :=
  match a.guard with
  | some guard => guard.evaluate p
  | none => .ok true

/-- Whether some action of a script passes; the actions behind the first such one are not
looked at. -/
def Script.anyActive (p : Player) : Script → Except Error Bool
  | [] => .ok false
  | action :: rest => do
    if ← action.passes p then .ok true else Script.anyActive p rest

end Adventure
