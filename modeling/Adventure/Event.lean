import Adventure.Defect
import Adventure.Json.Reader

/-!
# Events

Everything that drives a session from outside is an event.  Batches of assets and timers are named
by ids; in a log of events the ids are uuids.

## Main definitions

* `Event`: the events, for ids of a type.
* `Event.toJson`, `Event.reader`: an event in a log, an object whose key is the name of the event,
  or the name alone.
-/

namespace Adventure

/-- Something that happens outside of a session. -/
inductive Event (Id : Type) where
  | objectClicked (object : String)
  | codeSubmitted (code : String)
  | hintRequested (puzzle : String) (index : UInt64)
  | buttonClicked (index : UInt64)
  | messageDismissed
  | assetsReady (batch : Id)
  | timerFired (timer : Id)
  deriving DecidableEq

namespace Event

/-- The short name of an event. -/
def label {Id : Type} : Event Id → String
  | objectClicked _ => "object_clicked"
  | codeSubmitted _ => "code_submitted"
  | hintRequested .. => "hint_requested"
  | buttonClicked _ => "message_button_clicked"
  | messageDismissed => "message_dismissed"
  | assetsReady _ => "assets_ready"
  | timerFired _ => "timer_fired"

/-- A position as a document writes it. -/
def indexToJson (index : UInt64) : Json := .number (.int index.toNat)

/-- An event in a log. -/
def toJson : Event Uuid → Json
  | objectClicked object => .object [("ObjectClicked", .string object)]
  | codeSubmitted code => .object [("CodeSubmitted", .string code)]
  | hintRequested puzzle index =>
    .object [("HintRequested", .object [("puzzle", .string puzzle), ("index", indexToJson index)])]
  | buttonClicked index => .object [("MessageButtonClicked", indexToJson index)]
  | messageDismissed => .string "MessageDismissed"
  | assetsReady batch => .object [("AssetsReady", .string batch.text)]
  | timerFired timer => .object [("TimerFired", .string timer.text)]

/-- A position in a document. -/
def indexReader : Json.Reader Defect UInt64 :=
  fun depth doc => (Json.Reader.position depth doc).map UInt64.ofNat

/-- The request of a hint in a document. -/
def hintLayout : Json.Layout Defect (String × UInt64) where
  name := "struct variant EngineEvent::HintRequested"
  blank := ("", 0)
  fields := [
    .required "puzzle" Json.Reader.string fun v h => (v, h.2),
    .required "index" indexReader fun v h => (h.1, v)]

/-- An event whose name comes with one value. -/
def newtype {α : Type} (name : String) (r : Json.Reader Defect α) (make : α → Event Uuid) :
    Json.Reader.Variant Defect (Event Uuid) :=
  ⟨name, .error "newtype variant", fun depth doc => (r depth doc).map make⟩

/-- The events of a log. -/
def variants : List (Json.Reader.Variant Defect (Event Uuid)) := [
  newtype "ObjectClicked" Json.Reader.string objectClicked,
  newtype "CodeSubmitted" Json.Reader.string codeSubmitted,
  ⟨"HintRequested", .error "struct variant",
    fun depth doc => (Json.Reader.record hintLayout depth doc).map fun h => hintRequested h.1 h.2⟩,
  newtype "MessageButtonClicked" indexReader buttonClicked,
  ⟨"MessageDismissed", .ok messageDismissed,
    fun depth doc => (Json.Reader.unit depth doc).map fun _ => messageDismissed⟩,
  newtype "AssetsReady" Json.Reader.uuid assetsReady,
  newtype "TimerFired" Json.Reader.uuid timerFired]

/-- An event of a log. -/
def reader : Json.Reader Defect (Event Uuid) := .variant variants

end Event

end Adventure
