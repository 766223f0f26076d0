import Adventure.Action.Reader

/-!
# Parameters of a world

Paths of the assets, default texts and default scripts.

## Main definitions

* `Parameters`, `Parameters.isDefault`: the parameters; a document may leave out any of them.
* `Parameters.lockedMessage`, `Parameters.backgroundUrl`, `Parameters.audioUrls`: what they are for.
* `Parameters.Overrides`, `Parameters.merge`: new values for some of them.
-/

namespace Adventure

/-- The parameters of a world. -/
structure Parameters where
  /-- Stands before the name of every background file. -/
  imagesPath : String := ""
  /-- Stands before the name of every audio file. -/
  audiosPath : String := ""
  /-- The button of a blocking message that names none. -/
  buttonText : String := "OK"
  /-- Shown in the code input when one puzzle must be solved before. -/
  lockedByOne : String := "This puzzle is locked by another puzzle."
  /-- Shown in the code input when several puzzles must be solved before. -/
  lockedByMany : String := "This puzzle is locked by other puzzles."
  wrongCodeActions : Script := []
  /-- Run when a code leads to a stage that is loaded. -/
  rediscoveredActions : Script := []

namespace Parameters

instance : Inhabited Parameters := ⟨{}⟩

/-- Whether no parameter differs from its default. -/
def isDefault (p : Parameters) : Bool :=
  let d : Parameters := {}
  p.imagesPath == d.imagesPath && p.audiosPath == d.audiosPath && p.buttonText == d.buttonText &&
    p.lockedByOne == d.lockedByOne && p.lockedByMany == d.lockedByMany &&
    p.wrongCodeActions.isEmpty && p.rediscoveredActions.isEmpty

theorem isDefault_iff (p : Parameters) : p.isDefault = true ↔ p = {} := by
  obtain ⟨a, b, c, d, e, f, g⟩ := p
  simp [isDefault, and_assoc]

/-- What a locked puzzle says when so many puzzles must be solved before. -/
def lockedMessage (p : Parameters) (unsolved : Nat) : String :=
  if unsolved = 1 then p.lockedByOne else p.lockedByMany

/-- Where a background file is. -/
def backgroundUrl (p : Parameters) (file : String) : String := p.imagesPath ++ file

/-- Where audio files are. -/
def audioUrls (p : Parameters) (files : List String) : List String :=
  files.map fun file => p.audiosPath ++ file

/-! ## Reading -/

/-- The parameters in a document. -/
def layout : Json.Layout Defect Parameters where
  name := "struct Parameters"
  blank := {}
  fields := [
    .defaulted "sceneBackgroundImagesPath" Json.Reader.string fun s p => { p with imagesPath := s },
    .defaulted "audiosPath" Json.Reader.string fun s p => { p with audiosPath := s },
    .defaulted "defaultMessageBoxSingleButtonText" Json.Reader.string
      fun s p => { p with buttonText := s },
    .defaulted "puzzleLockedByOtherPuzzleMessage" Json.Reader.string
      fun s p => { p with lockedByOne := s },
    .defaulted "puzzleLockedByOtherPuzzleMessages" Json.Reader.string
      fun s p => { p with lockedByMany := s },
    .defaulted "defaultWrongCodeActions" Script.reader fun s p => { p with wrongCodeActions := s },
    .defaulted "defaultRediscoveredStageActions" Script.reader
      fun s p => { p with rediscoveredActions := s }]

/-- Parameters of a document. -/
def reader : Json.Reader Defect Parameters := .record layout

/-! ## Overrides -/

/-- New values for some parameters. -/
structure Overrides where
  imagesPath : Option String := none
  audiosPath : Option String := none
  buttonText : Option String := none
  lockedByOne : Option String := none
  lockedByMany : Option String := none
  wrongCodeActions : Option Script := none
  rediscoveredActions : Option Script := none

/-- The parameters with some of them replaced. -/
def merge (p : Parameters) (o : Overrides) : Parameters where
  imagesPath := o.imagesPath.getD p.imagesPath
  audiosPath := o.audiosPath.getD p.audiosPath
  buttonText := o.buttonText.getD p.buttonText
  lockedByOne := o.lockedByOne.getD p.lockedByOne
  lockedByMany := o.lockedByMany.getD p.lockedByMany
  wrongCodeActions := o.wrongCodeActions.getD p.wrongCodeActions
  rediscoveredActions := o.rediscoveredActions.getD p.rediscoveredActions

theorem merge_none (p : Parameters) : p.merge {} = p := rfl

end Parameters

end Adventure
