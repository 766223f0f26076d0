import Adventure.Defect
import Adventure.Guard

/-!
# Actions: the vocabulary of scripts

A script is a list of actions.  An action keeps the tag it was written with, an optional guard, and
its effect.  An action with an unknown tag is kept as `Effect.unrecognized`.

## Main definitions

* `Action`, `Effect`: actions and what they do.
* `Effect.tag`: the tag that an effect is written with.
* `Action.validate`: alternatives have as many scripts as buttons, and delays are finite and not
  negative, also within nested scripts.
-/

namespace Adventure

mutual

/-- A step of a script. -/
structure Action where
  /-- The tag as it was written. -/
  tag : String
  guard : Option Guard
  effect : Effect

/-- What an action does. -/
inductive Effect where
  | goToScene (scene : String)
  /-- Submits a code; without a puzzle, to the puzzle of the current scene. -/
  | enterCode (puzzle : Option String) (code : String)
  | showText (text : String)
  | blockingText (text : String) (button : Option String) (next : List Action)
  | alternative (text : String) (scripts : List (List Action)) (buttons : List String)
  | setVariable (name : String) (value : Value)
  | incrementVariable (name : String) (increment : Value)
  | fadeTween (tween : Json)
  /-- Changes the ambience; without a track, to silence. -/
  | setMusic (audio : Option String) (config : Option Json)
  | musicTween (tween : Json)
  | playAudio (audio : String) (config : Option Json)
  | stopAudio (audio : String)
  | group (next : List Action)
  | runProcedure (procedure : String)
  /-- Runs a script later; the delay is in milliseconds. -/
  | delayed (delay : Double) (next : List Action)
  | hideInteractive
  | redirect (url : String)
  | unrecognized

end

/-- A list of actions, which run in order. -/
abbrev Script := List Action

namespace Effect

/-- The tag that an effect is written with. -/
def tag : Effect → String
  | goToScene .. => "go_to_scene"
  | enterCode .. => "enter_code"
  | showText .. => "show_text"
  | blockingText .. => "blocking_text"
  | alternative .. => "alternative"
  | setVariable .. => "set_variable"
  | incrementVariable .. => "increment_variable"
  | fadeTween .. => "background_fade_tween"
  | setMusic .. => "set_background_music"
  | musicTween .. => "background_music_tween"
  | playAudio .. => "play_audio"
  | stopAudio .. => "stop_audio"
  | group .. => "grouped_actions"
  | runProcedure .. => "run_procedure"
  | delayed .. => "delayed_actions"
  | hideInteractive => "hide_interactive_elements"
  | redirect .. => "redirect"
  | unrecognized => "unrecognized"

/-- The tags of the effects that are known. -/
def knownTags : List String := [
  "go_to_scene", "enter_code", "show_text", "blocking_text", "alternative", "set_variable",
  "increment_variable", "background_fade_tween", "set_background_music", "background_music_tween",
  "play_audio", "stop_audio", "grouped_actions", "run_procedure", "delayed_actions",
  "hide_interactive_elements", "redirect"]

end Effect

namespace Action

/-- The action of an effect, without a guard. -/
def new (effect : Effect) : Action := ⟨effect.tag, none, effect⟩

/-- Whether the action was written with the tag of its effect. -/
def isPlain (a : Action) : Bool := a.tag == a.effect.tag

theorem isPlain_iff (a : Action) :
    a.isPlain = true ↔ { new a.effect with guard := a.guard } = a := by
  obtain ⟨tag, guard, effect⟩ := a
  simp only [isPlain, new, beq_iff_eq, mk.injEq, and_true]
  exact eq_comm

end Action

/-! ## Validation -/

/-- Whether a delay is finite and not negative. -/
def Double.isDelay (x : Double) : Bool := x.isFinite && (x.isZero || !x.negative)

mutual

/-- The first defect of an effect and of the scripts within it. -/
def Effect.validate : Effect → Except Defect Unit
  | .alternative _ scripts buttons =>
    if scripts.length ≠ buttons.length then
      .error (.unevenAlternative scripts.length buttons.length)
    else validateScripts scripts
  | .delayed delay next =>
    -- The delay is looked at before the script that waits for it.
    if !delay.isDelay then .error (.badDelay delay) else validateScript next
  | .blockingText _ _ next | .group next => validateScript next
  | _ => .ok ()

/-- The first defect of a script. -/
def validateScript : List Action → Except Defect Unit
  | [] => .ok ()
  | ⟨_, _, effect⟩ :: rest => do
    effect.validate
    validateScript rest

/-- The first defect of a list of scripts. -/
def validateScripts : List (List Action) → Except Defect Unit
  | [] => .ok ()
  | script :: rest => do
    validateScript script
    validateScripts rest

end

/-- The first defect of an action. -/
def Action.validate (a : Action) : Except Defect Unit := a.effect.validate

end Adventure
