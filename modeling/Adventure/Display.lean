import Adventure.Json.Value
import Adventure.Number.Duration
import Adventure.Table

/-!
# The display

A session never draws or plays anything.  It gives cues, and the display is what the cues given so
far have left on the screen and in the speakers.

## Main definitions

* `Cue`: the requests of a session to its surroundings.
* `Display`, `Display.perform`: what is on display, and the effect of a cue.
-/

namespace Adventure

/-- What an animation can be attached to. -/
inductive Target where
  /-- The overlay that covers the whole screen. -/
  | fade
  /-- A track of the ambience. -/
  | ambience (key : String)
  deriving DecidableEq

/-- A request of a session to its surroundings. -/
inductive Cue where
  | createObject (id : String)
  | createBackground (scene url : String)
  | showObject (id : String)
  | hideObject (id : String)
  | showBackground (scene : String)
  | hideBackground (scene : String)
  | animate (target : Target) (tween : Json)
  | cancelAnimation (target : Target)
  | requestImage (key url : String)
  | requestAudio (key : String) (urls : List String)
  /-- Loads what was requested since the last batch. -/
  | startBatch (batch : Nat)
  | play (key : String) (looped : Bool)
  | stop (key : String)
  /-- Opens a message; without buttons it does not block. -/
  | showMessage (text : String) (buttons : List String)
  | hideMessage
  | showCodeInput (enabled : Bool) (prefill : String)
  | hideCodeInput
  | clearCodeInput
  | showLoading
  | hideLoading
  | redirect (url : String)
  | after (delay : Duration) (timer : Nat)

/-- What is on display. -/
structure Display where
  /-- The cues so far, the oldest first. -/
  cues : Array Cue := .empty
  objects : Names := ∅
  backgrounds : Names := ∅
  /-- The tracks that are looped. -/
  playing : Names := ∅
  /-- The text and the buttons of the message. -/
  message : Option (String × List String) := none
  /-- Whether the code input is enabled, and what it holds. -/
  codeInput : Option (Bool × String) := none
  loading : Bool := false
  redirectedTo : Option String := none
  /-- The batches that were started and not yet reported. -/
  batches : List Nat := []
  /-- The timers that were armed and not yet reported. -/
  timers : List (Duration × Nat) := []

namespace Display

/-- What a cue leaves on display, the list of cues aside. -/
def render (d : Display) : Cue → Display
  | .showObject id => { d with objects := d.objects.add id }
  | .hideObject id => { d with objects := d.objects.erase id }
  | .showBackground scene => { d with backgrounds := d.backgrounds.add scene }
  | .hideBackground scene => { d with backgrounds := d.backgrounds.erase scene }
  | .startBatch batch => { d with batches := d.batches ++ [batch] }
  | .play key true => { d with playing := d.playing.add key }
  | .stop key => { d with playing := d.playing.erase key }
  | .showMessage text buttons => { d with message := some (text, buttons) }
  | .hideMessage => { d with message := none }
  | .showCodeInput enabled prefill => { d with codeInput := some (enabled, prefill) }
  | .hideCodeInput => { d with codeInput := none }
  | .clearCodeInput => { d with codeInput := d.codeInput.map fun input => (input.1, "") }
  | .showLoading => { d with loading := true }
  | .hideLoading => { d with loading := false }
  | .redirect url => { d with redirectedTo := some url }
  | .after delay timer => { d with timers := d.timers ++ [(delay, timer)] }
  | .createObject _ | .createBackground .. | .animate .. | .cancelAnimation _ | .requestImage ..
  | .requestAudio .. | .play _ false => d

/-- The display after a cue. -/
def perform (d : Display) (c : Cue) : Display :=
  { d.render c with cues := d.cues.push c }

/-- The timers that were armed, the shortest delay first and those of one delay in the order in
which they were armed. -/
def timersByDelay (d : Display) : List (Duration × Nat) :=
  d.timers.mergeSort fun s t => decide (s.1.nanoseconds ≤ t.1.nanoseconds)

end Display

end Adventure
