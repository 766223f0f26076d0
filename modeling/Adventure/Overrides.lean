import Adventure.Error
import Adventure.Parameters
import Adventure.Toml.Document

/-!
# Overrides of parameters

Parameters may be replaced from a second text, which has its own format.  A text with any defect
replaces nothing.

## Main definitions

* `Parameters.Overrides.ofDocument?`, `Parameters.Overrides.ofText?`: the replacements of a text.
* `Parameters.mergeText`: the parameters after the replacements of a text.
-/

namespace Adventure

open Toml (Document)

namespace Parameters

/-- The text under a key, if the document has the key. -/
def textAt? (doc : Document) (key : String) : Option (Option String) :=
  match doc.find? key with
  | none => some none
  | some (.string s) => some (some s)
  | some _ => none

/-- The script under a key, if the document has the key. -/
def scriptAt? (doc : Document) (key : String) : Option (Option Script) :=
  match doc.find? key with
  | none => some none
  | some (.array items) => (Action.ofItems (Toml.Value.toItems items)).toOption.map some
  | some _ => none

/-- The replacements of a document; other keys do not count. -/
def Overrides.ofDocument? (doc : Document) : Option Overrides := do
  return {
    imagesPath := ← textAt? doc "sceneBackgroundImagesPath"
    audiosPath := ← textAt? doc "audiosPath"
    buttonText := ← textAt? doc "defaultMessageBoxSingleButtonText"
    lockedByOne := ← textAt? doc "puzzleLockedByOtherPuzzleMessage"
    lockedByMany := ← textAt? doc "puzzleLockedByOtherPuzzleMessages"
    wrongCodeActions := ← scriptAt? doc "defaultWrongCodeActions"
    rediscoveredActions := ← scriptAt? doc "defaultRediscoveredStageActions" }

/-- The replacements of a text. -/
def Overrides.ofText? (text : String) : Option Overrides :=
  (Document.ofText? text).bind ofDocument?

/-- The parameters after the replacements of a text. -/
def mergeText (p : Parameters) (text : String) : Except Error Parameters :=
  match Overrides.ofText? text with
  | some o => .ok (p.merge o)
  | none => .error .badOverrides

end Parameters

end Adventure
