import Adventure.Action.Reader
import Adventure.Table

/-!
# Scenes

A scene is a place that the player can visit, with a background, objects, scripts that answer
clicks, procedures, and possibly a puzzle.

## Main definitions

* `Hotspot`: a clickable area, in fractions of the viewport.
* `Scene`, `Scene.showsCodeInput`, `Scene.inherit`, `Scene.validate`.
* `Hotspot.reader`, `Scene.reader`: readers of documents.
-/

namespace Adventure

/-- A clickable area of a scene, in fractions of the viewport. -/
structure Hotspot where
  id : String
  x : Single
  y : Single
  width : Single
  height : Single
  deriving DecidableEq

/-- The scripts that answer clicks, by the objects that are clicked. -/
abbrev Interactions := Table Script

/-- A place that the player can visit. -/
structure Scene where
  id : String
  /-- The file of the background image. -/
  background : Option String := none
  hotspots : List Hotspot := []
  interactive : Interactions := ∅
  /-- The scene whose interactions this one extends. -/
  inherits : Option String := none
  /-- Scripts that become known under their names when the stage is loaded. -/
  procedures : Table Script := ∅
  puzzle : Option String := none
  /-- The puzzles that must be solved before the code input takes a code. -/
  prerequisites : List String := []
  hideCodeInput : Bool := false
  /-- Run at every visit. -/
  entryActions : Script := []
  /-- Run at the first visit, before the entry actions. -/
  firstEntryActions : Script := []
  /-- Run at a wrong code, in place of the default script. -/
  wrongCodeActions : Option Script := none

namespace Hotspot

/-- A hotspot in a document. -/
def layout : Json.Layout Defect Hotspot where
  name := "struct ObjectDef"
  blank := ⟨"", .ofInt 0, .ofInt 0, .ofInt 0, .ofInt 0⟩
  fields := [
    .required "id" Json.Reader.string fun v h => { h with id := v },
    .required "x" Json.Reader.single fun v h => { h with x := v },
    .required "y" Json.Reader.single fun v h => { h with y := v },
    .required "width" Json.Reader.single fun v h => { h with width := v },
    .required "height" Json.Reader.single fun v h => { h with height := v }]

/-- A hotspot of a document. -/
def reader : Json.Reader Defect Hotspot := .record layout

end Hotspot

namespace Scene

/-- Whether the scene has a code input. -/
def showsCodeInput (s : Scene) : Bool := s.puzzle.isSome && !s.hideCodeInput

/-- The scene with further interactions; its own ones count under a common key. -/
def inherit (s : Scene) (base : Interactions) : Scene :=
  { s with interactive := base.union s.interactive }

/-- The first defect of the scripts of a scene. -/
def validate (s : Scene) : Except Defect Unit := do
  validateScripts s.interactive.values
  validateScripts s.procedures.values
  validateScript s.entryActions
  validateScript s.firstEntryActions
  validateScript (s.wrongCodeActions.getD [])

/-- A scene in a document. -/
def layout : Json.Layout Defect Scene where
  name := "struct Scene"
  blank := { id := "" }
  fields := [
    .required "id" string fun v s => { s with id := v },
    .defaulted "background" (.nullable string) fun v s => { s with background := v },
    .defaulted "objects" (.list Hotspot.reader) fun v s => { s with hotspots := v },
    .defaulted "interactive" (.table Script.reader) fun v s => { s with interactive := v },
    .defaulted "interactive_inherit" (.nullable string) fun v s => { s with inherits := v },
    .defaulted "procedures" (.table Script.reader) fun v s => { s with procedures := v },
    .defaulted "puzzle" (.nullable string) fun v s => { s with puzzle := v },
    .defaulted "puzzle_depends_on" (.list string) fun v s => { s with prerequisites := v },
    .defaulted "hide_code_input" Json.Reader.bool fun v s => { s with hideCodeInput := v },
    .defaulted "entry_actions" Script.reader fun v s => { s with entryActions := v },
    .defaulted "first_entry_actions" Script.reader fun v s => { s with firstEntryActions := v },
    .defaulted "wrong_code_actions" (.nullable Script.reader)
      fun v s => { s with wrongCodeActions := v }]
where
  string := Json.Reader.string

/-- A scene of a document. -/
def reader : Json.Reader Defect Scene := .record layout

end Scene

end Adventure
