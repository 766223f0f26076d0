import Adventure.Defect

/-!
# Errors

What an operation reports when it cannot be carried out.

## Main definitions

* `Missing`: the kinds of things that are looked up by an id.
* `ReadFailure`: why a file cannot be read.
* `Error`, `Error.message`: the causes and their wording.
-/

namespace Adventure

/-- The kinds of things that are looked up by an id. -/
inductive Missing where
  | scene
  | stage
  | procedure
  | object
  | puzzle
  | audio
  | hint
  | timer
  | batch
  | button
  deriving DecidableEq

/-- What a message calls a thing of a kind. -/
def Missing.label : Missing → String
  | scene => "scene"
  | stage => "stage"
  | procedure => "procedure"
  | object => "object"
  | puzzle => "puzzle"
  | audio => "audio"
  | hint => "hint"
  | timer => "timer"
  | batch => "asset batch"
  | button => "message button"

/-- Why a file cannot be read. -/
inductive ReadFailure where
  | absent
  | notDirectory
  | isDirectory
  | nameTooLong
  | nulInName
  | notUtf8
  deriving DecidableEq

/-- The wording of the system. -/
def ReadFailure.message : ReadFailure → String
  | absent => "No such file or directory (os error 2)"
  | notDirectory => "Not a directory (os error 20)"
  | isDirectory => "Is a directory (os error 21)"
  | nameTooLong => "File name too long (os error 36)"
  | nulInName => "file name contained an unexpected NUL byte"
  | notUtf8 => "stream did not contain valid UTF-8"

/-- What an operation reports. -/
inductive Error where
  | notFound (what : Missing) (id : String)
  | unknownAction (tag : String)
  | unknownGuard (tag : String)
  | typeMismatch (name found : String)
  | invalidConfig (defect : Defect)
  | noOpenMessage
  /-- A text is no world. -/
  | badWorld (cause : Json.Misread Defect)
  /-- A text holds no parameters. -/
  | badOverrides
  | unreadable (path : String) (cause : ReadFailure)

namespace Error

/-- The wording of an error. -/
def message : Error → String
  | notFound what id => s!"{what.label} not found: {id}"
  | unknownAction tag => s!"unknown action type `{tag}`"
  | unknownGuard tag => s!"unknown guard type `{tag}`"
  | typeMismatch name found => s!"variable `{name}` holds {found}, expected a number"
  | invalidConfig defect => Defect.announce defect.message
  | noOpenMessage => "no blocking message is open"
  | badWorld cause =>
    let path := Json.pathText cause.path
    if path.isEmpty || path == "." then "failed to parse world json: " ++ cause.problem.text
    else s!"failed to parse world json at {path}: " ++ cause.problem.text
  | badOverrides => "failed to parse toml"
  | unreadable path cause => s!"failed to read {path}: {cause.message}"

end Error

end Adventure
