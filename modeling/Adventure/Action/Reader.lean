import Adventure.Action
import Adventure.Json.Reader

/-!
# Reading actions and guards

Actions and guards are first read as values and then understood.  A member of an unknown name is
ignored.  The members of an action are understood in the order of their names, and what is missing
is reported after that, in the order in which the effect lists it.

## Main definitions

* `Guard.ofJson`, `Action.ofJson`: the guard and the action of a value.
* `Guard.reader`, `Action.reader`, `Script.reader`: readers of documents.
-/

namespace Adventure

open Json (Problem Found)

/-- The members of an object. -/
abbrev Members := List (String × Json)

/-! ## Members -/

/-- A value of the wrong kind, as messages show it. -/
def Json.found : Json → Found
  | .null => .null
  | .bool b => .bool b
  | .number (.int n) => .int n
  | .number (.float x) => .float x
  | .string s => .string s
  | .array _ => .sequence
  | .object _ => .map

namespace Members

variable {ε α : Type}

/-- Refuses a value of the wrong kind. -/
def mismatch (expected : String) (value : Json) : Except (Problem ε) α :=
  .error (.invalidType value.found expected)

/-- A string. -/
def string : Json → Except (Problem ε) String
  | .string s => .ok s
  | value => mismatch "a string" value

/-- A number as a double. -/
def double : Json → Except (Problem ε) Double
  | .number n => .ok n.toDouble
  | value => mismatch "f64" value

/-- A value of a variable. -/
def value (v : Json) : Except (Problem ε) Value :=
  match Value.ofJson? v with
  | some v => .ok v
  | none => .error (.noVariant "VarValue")

/-- Any value. -/
def any (v : Json) : Except (Problem ε) Json := .ok v

/-- A value that may be `null`. -/
def nullable (read : Json → Except (Problem ε) α) : Json → Except (Problem ε) (Option α)
  | .null => .ok none
  | value => (read value).map some

/-- A list. -/
def list (read : Json → Except (Problem ε) α) : Json → Except (Problem ε) (List α)
  | .array items => items.mapM read
  | value => mismatch "a sequence" value

/-- The member of a name, if there is one. -/
def at? (ms : Members) (name : String) (read : Json → Except (Problem ε) α) :
    Except (Problem ε) (Option α) :=
  match Json.find name ms with
  | none => .ok none
  | some value => (read value).map some

/-- A member that must be there. -/
def require (name : String) : Option α → Except (Problem ε) α
  | some a => .ok a
  | none => .error (.missingField name)

/-- The only member of an effect or of a condition. -/
def only (ms : Members) (name : String) (read : Json → Except (Problem ε) α) :
    Except (Problem ε) α := do
  require name (← ms.at? name read)

end Members

/-! ## Guards -/

namespace Guard

/-- Whether a guard is negated. -/
def flag (ms : Members) : Except Defect Bool :=
  match Json.find "not" ms with
  | none | some .null => .ok false
  | some (.bool b) => .ok b
  | some found => .error (.guardFlag found)

/-- The condition with a tag. -/
def tagged (tag : String) (ms : Members) : Except (Problem Defect) Condition :=
  match tag with
  | "variable" => do
    let value ← ms.at? "value" Members.value
    let name ← ms.only "variable" Members.string
    return .variableIs name (← Members.require "value" value)
  | "puzzle_solved" => .puzzleSolved <$> ms.only "puzzle" Members.string
  | "scene_visited" => .sceneVisited <$> ms.only "scene" Members.string
  | "stage_loaded" => .stageLoaded <$> ms.only "stage" Members.string
  | tag => .ok (.unrecognized tag)

/-- The condition of an object that is no conjunction. -/
def single (ms : Members) : Except Defect Condition :=
  match Json.find "type" ms with
  | some (.string tag) => (tagged tag ms).mapError (.guard tag)
  | _ => .error .guardWithoutTag

mutual

/-- The guard of a value. -/
def ofJson : Json → Except Defect Guard
  | .object ms => do
    let negate ← flag ms
    match ← (conjunction ms).mapError .guardList with
    | some guards => return ⟨.all guards, negate⟩
    | none => return ⟨← single ms, negate⟩
  | _ => .error .guardNotObject

/-- The guards of a list of values. -/
def ofItems : List Json → Except (Problem Defect) (List Guard)
  | [] => .ok []
  | item :: items => do
    let guard ← (ofJson item).mapError .refused
    return guard :: (← ofItems items)

/-- The guards of a conjunction, if the object is one. -/
def conjunction : Members → Except (Problem Defect) (Option (List Guard))
  | [] => .ok none
  | (name, value) :: ms =>
    if name = "and" then
      match value with
      | .array items => (ofItems items).map some
      | value => Members.mismatch "a sequence" value
    else conjunction ms

end

/-- A guard of a document. -/
def reader : Json.Reader Defect Guard :=
  .understood fun value => (ofJson value).mapError .refused

end Guard

/-! ## Actions -/

namespace Action

/-- The guard of an action. -/
def guardOf (ms : Members) : Except Defect (Option Guard) :=
  match Json.find "guard" ms with
  | none | some .null => .ok none
  | some value => some <$> Guard.ofJson value

/-- The effect with a tag, given the scripts that are members of its object. -/
def effectOf (tag : String) (ms : Members)
    (script : String → Except (Problem Defect) (Option Script))
    (scripts : String → Except (Problem Defect) (Option (List Script))) :
    Except (Problem Defect) Effect :=
  let string := Members.string
  let nullable := Members.nullable Members.string
  let config := ms.at? "config" (Members.nullable Members.any)
  match tag with
  | "go_to_scene" => .goToScene <$> ms.only "scene" string
  | "enter_code" => do
    let code ← ms.at? "code" string
    let puzzle ← ms.at? "puzzle" nullable
    return .enterCode (puzzle.getD none) (← Members.require "code" code)
  | "show_text" => .showText <$> ms.only "text" string
  | "blocking_text" => do
    let button ← ms.at? "button" nullable
    let next ← script "next"
    let text ← ms.only "text" string
    return .blockingText text (button.getD none) (next.getD [])
  | "alternative" => do
    let alternatives ← scripts "alternatives"
    let buttons ← ms.at? "buttons" (Members.list string)
    let text ← ms.only "text" string
    return .alternative text (← Members.require "alternatives" alternatives)
      (← Members.require "buttons" buttons)
  | "set_variable" => do
    let value ← ms.at? "value" Members.value
    let name ← ms.only "variable" string
    return .setVariable name (← Members.require "value" value)
  | "increment_variable" => do
    let increment ← ms.at? "increment" Members.value
    let name ← ms.only "variable" string
    return .incrementVariable name (increment.getD (.int 1))
  | "background_fade_tween" => .fadeTween <$> ms.only "tween" Members.any
  | "set_background_music" => do
    let audio ← ms.at? "audio" nullable
    let config ← config
    return .setMusic (audio.getD none) (config.getD none)
  | "background_music_tween" => .musicTween <$> ms.only "tween" Members.any
  | "play_audio" => do
    let audio ← ms.at? "audio" string
    let config ← config
    return .playAudio (← Members.require "audio" audio) (config.getD none)
  | "stop_audio" => .stopAudio <$> ms.only "audio" string
  | "grouped_actions" => do
    let next ← script "next"
    return .group (← Members.require "next" next)
  | "run_procedure" => .runProcedure <$> ms.only "procedure" string
  | "delayed_actions" => do
    let delay ← ms.at? "delay" Members.double
    let next ← script "next"
    return .delayed (← Members.require "delay" delay) (← Members.require "next" next)
  | "hide_interactive_elements" => .ok .hideInteractive
  | "redirect" => .redirect <$> ms.only "url" string
  | _ => .ok .unrecognized

mutual

/-- The action of a value. -/
def ofJson : Json → Except Defect Action
  | .object ms =>
    match Json.find "type" ms with
    | some (.string tag) => do
      let guard ← guardOf ms
      let effect ←
        (effectOf tag ms (fun name => scriptAt name ms) (fun name => scriptsAt name ms)).mapError
          (.action tag)
      return ⟨tag, guard, effect⟩
    | _ => .error .actionWithoutTag
  | _ => .error .actionNotObject

/-- The script of a list of values. -/
def ofItems : List Json → Except (Problem Defect) Script
  | [] => .ok []
  | item :: items => do
    let action ← (ofJson item).mapError .refused
    return action :: (← ofItems items)

/-- The scripts of a list of values. -/
def ofLists : List Json → Except (Problem Defect) (List Script)
  | [] => .ok []
  | item :: items => do
    let script ←
      match item with
      | .array actions => ofItems actions
      | value => Members.mismatch "a sequence" value
    return script :: (← ofLists items)

/-- The member of a name as a script, if there is one. -/
def scriptAt (name : String) : Members → Except (Problem Defect) (Option Script)
  | [] => .ok none
  | (key, value) :: ms =>
    if key = name then
      match value with
      | .array items => (ofItems items).map some
      | value => Members.mismatch "a sequence" value
    else scriptAt name ms

/-- The member of a name as a list of scripts, if there is one. -/
def scriptsAt (name : String) : Members → Except (Problem Defect) (Option (List Script))
  | [] => .ok none
  | (key, value) :: ms =>
    if key = name then
      match value with
      | .array items => (ofLists items).map some
      | value => Members.mismatch "a sequence" value
    else scriptsAt name ms

end

/-- An action of a document. -/
def reader : Json.Reader Defect Action :=
  .understood fun value => (ofJson value).mapError .refused

end Action

/-- A script of a document. -/
def Script.reader : Json.Reader Defect Script := .list Action.reader

end Adventure
