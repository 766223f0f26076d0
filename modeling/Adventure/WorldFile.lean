import Adventure.Error
import Adventure.World

/-!
# Files of worlds

A world is a file of UTF-8 text.  The file system is no part of the game: `World.ofFile` takes
whatever it has answered for the path.  A `FileTree` stands for a file system of which everything is
known, so that the answer follows from the path; it takes the place of one where the game is run
without any.

## Main definitions

* `World.ofFile`: the world of a file, given what the file system answers.
* `FileTree`, `FileTree.read`: a file system of which everything is known, and its answer for a path.
* `FileTree.bare`: the file system of a machine on which no world was stored.
-/

namespace Adventure

/-- The world that a file starts with. -/
def World.ofFile (path : String) (content : Except ReadFailure ByteArray) : Except Error World := do
  let bytes ← content.mapError (.unreadable path)
  match String.fromUTF8? bytes with
  | some text => (World.ofText text).mapError .badWorld
  | none => .error (.unreadable path .notUtf8)

/-- A file system of which everything is known: directories and files, which all may be read, and no
links. -/
inductive FileTree where
  | directory (entries : List (String × FileTree))
  | file (content : ByteArray)

namespace FileTree

/-- The greatest size in bytes of a name. -/
def maxName : Nat := 255

/-- The greatest size in bytes of a path. -/
def maxPath : Nat := 4095

/-- What stands under a name in a directory. -/
def find (name : String) : List (String × FileTree) → Option FileTree
  | [] => none
  | (n, t) :: rest => if n = name then some t else find name rest

/-- The file or directory that the names lead to.  `parents` holds the directories above the one
that is reached, the nearest first; the topmost directory is its own parent. -/
def walk (parents : List FileTree) (here : FileTree) : List String → Except ReadFailure FileTree
  | [] => .ok here
  | name :: names =>
    match here with
    | .file _ => .error .notDirectory
    | .directory entries =>
      if name = "" ∨ name = "." then walk parents here names
      else if name = ".." then
        match parents with
        | [] => walk [] here names
        | parent :: above => walk above parent names
      else if maxName < name.utf8ByteSize then .error .nameTooLong
      else
        match find name entries with
        | some next => walk (here :: parents) next names
        | none => .error .absent

/-- What the file system answers when the file at a path is read: an answer as `World.ofFile` takes
it.  A path that does not start at the top starts in a directory without entries. -/
def read (root : FileTree) (path : String) : Except ReadFailure ByteArray := do
  if path.toList.contains '\x00' then .error .nulInName
  if path.isEmpty then .error .absent
  if maxPath < path.utf8ByteSize then .error .nameTooLong
  let names := path.splitOn "/"
  let start := if path.startsWith "/" then root else directory []
  match ← walk [root] start names with
  | .file content => .ok content
  | .directory _ => .error .isDirectory

/-- The file system of a machine on which no world was stored: the directories that every system
has, and its empty device. -/
def bare : FileTree :=
  directory [
    ("bin", directory []),
    ("dev", directory [("null", file .empty)]),
    ("etc", directory []),
    ("home", directory []),
    ("lib", directory []),
    ("opt", directory []),
    ("proc", directory []),
    ("root", directory []),
    ("sbin", directory []),
    ("sys", directory []),
    ("tmp", directory []),
    ("usr", directory []),
    ("var", directory [])]

end FileTree

end Adventure
