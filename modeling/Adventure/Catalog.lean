import Adventure.Error
import Adventure.Parameters
import Adventure.Scene

/-!
# The catalog of what is known of a world

Loading a stage makes its scenes, backgrounds, objects, procedures and audio known.  Of two
objects, pieces of audio or procedures with one name the first stays; a scene or a background
takes the place of an earlier one.

## Main definitions

* `Object`: a navigation arrow, or the hotspot of a scene.
* `Catalog` with its queries (`scene`, `object`, `audio`, `procedure`) and registrations.
-/

namespace Adventure

/-- Something that can be clicked. -/
inductive Object where
  /-- A built-in arrow, which stays in sight under a message that does not block. -/
  | arrow (id : String)
  | hotspot (area : Hotspot)

namespace Object

/-- The id of an object. -/
def id : Object → String
  | arrow id => id
  | hotspot area => area.id

/-- Whether the object is an arrow. -/
def isArrow : Object → Bool
  | arrow _ => true
  | hotspot _ => false

end Object

/-- What is known of a world. -/
structure Catalog where
  objects : Table Object := ∅
  /-- Where the background of each scene is. -/
  backgrounds : Table String := ∅
  /-- The scenes, with the interactions that they inherit. -/
  scenes : Table Scene := ∅
  /-- Where the files of each piece of audio are. -/
  audio : Table (List String) := ∅
  procedures : Table Script := ∅
  parameters : Parameters := {}

namespace Catalog

/-- The value of a table, or the error that it is missing. -/
def look {α : Type} (what : Missing) (t : Table α) (id : String) : Except Error α :=
  match t.get? id with
  | some a => .ok a
  | none => .error (.notFound what id)

/-- The scene with an id. -/
def scene (c : Catalog) (id : String) : Except Error Scene := look .scene c.scenes id

/-- The object with an id. -/
def object (c : Catalog) (id : String) : Except Error Object := look .object c.objects id

/-- The files of a piece of audio. -/
def audioFiles (c : Catalog) (key : String) : Except Error (List String) := look .audio c.audio key

/-- The procedure of a name. -/
def procedure (c : Catalog) (name : String) : Except Error Script :=
  look .procedure c.procedures name

/-- Makes an object known. -/
def addObject (c : Catalog) (o : Object) : Catalog :=
  { c with objects := c.objects.insertNew o.id o }

/-- Makes a piece of audio known. -/
def addAudio (c : Catalog) (key : String) (urls : List String) : Catalog :=
  { c with audio := c.audio.insertNew key urls }

/-- Makes a procedure known. -/
def addProcedure (c : Catalog) (name : String) (script : Script) : Catalog :=
  { c with procedures := c.procedures.insertNew name script }

/-- Makes a scene known. -/
def addScene (c : Catalog) (s : Scene) : Catalog :=
  { c with scenes := c.scenes.insert s.id s }

/-- Makes the background of a scene known. -/
def addBackground (c : Catalog) (scene url : String) : Catalog :=
  { c with backgrounds := c.backgrounds.insert scene url }

theorem look_ok_iff {α : Type} {what : Missing} {t : Table α} {id : String} {a : α} :
    look what t id = .ok a ↔ t.get? id = some a := by
  unfold look
  split <;> simp_all

end Catalog

end Adventure
