import Adventure.Catalog
import Adventure.Display
import Adventure.Event
import Adventure.Player
import Adventure.World

/-!
# Sessions

A session is a play of a world: what is known of it, the state of the player, the events that wait,
the loads and timers that wait for an event, and what is on display.  Batches and timers are
numbered from zero, over all restarts, and named by tickets.

Operations on sessions are written in `Play`.  An operation either has no answer, because scripts
call each other deeper than allowed, or it ends with a value or an error and the session it leaves;
what happened before an error stays.

## Main definitions

* `Ticket`: the name of a batch or a timer.
* `Note`: a line of the log.
* `Session`, `Session.currentScene`, `Session.ticket`.
* `Play`, `Play.ask`, `Play.cue`, `Play.note`: operations, the query, the cue and the note.
-/

namespace Adventure

/-- The name of a batch or a timer: the number of one that the session started, or a uuid that names
none. -/
inductive Ticket where
  | issued (serial : Nat)
  | foreign (id : Uuid)
  deriving DecidableEq

/-- How a message shows a ticket. -/
def Ticket.text : Ticket → String
  | issued serial => s!"#{serial}"
  | foreign id => id.text

/-- A line of the log: how far a stage or a scene has come. -/
inductive Note where
  /-- A stage was asked for and found. -/
  | stageRequested (stage : String)
  /-- A batch was started for a stage. -/
  | stagePreloading (stage : String) (batch : Nat)
  /-- A stage became known; its load actions follow. -/
  | stageMaterialized (stage : String)
  /-- A scene was entered; its scripts follow. -/
  | sceneEntered (scene : String) (firstVisit : Bool)
  deriving DecidableEq

/-- A play of a world. -/
structure Session where
  /-- The ids of the arrows that are known from the start. -/
  arrows : List String := ["left", "right", "up", "down"]
  world : Option World := none
  catalog : Catalog := {}
  player : Player
  queue : List (Event Ticket) := []
  /-- The stages that wait for a batch. -/
  pendingLoads : List (Nat × String) := []
  /-- The scripts that wait for a timer. -/
  pendingTimers : List (Nat × Script) := []
  /-- Whether a message that does not block is open. -/
  noticeOpen : Bool := false
  /-- The number of batches that were ever started. -/
  batchCount : Nat := 0
  /-- The number of timers that were ever armed. -/
  timerCount : Nat := 0
  display : Display := {}
  /-- The log, the oldest line first; nothing reads it. -/
  notes : Array Note := #[]

namespace Session

/-- The session before any world is started. -/
def fresh (id : Uuid) : Session := { player := { sessionId := id } }

/-- The session before any world is started, with arrows of other ids. -/
def withArrows (id : Uuid) (arrows : List String) : Session :=
  { arrows, player := { sessionId := id } }

/-- The scene that the player sees. -/
def currentScene (s : Session) : Except Error Scene :=
  match s.player.currentScene with
  | some id => s.catalog.scene id
  | none => .error (.notFound .scene "<no current scene>")

/-- The world that is played. -/
def worldOf (s : Session) : Except Error World :=
  match s.world with
  | some world => .ok world
  | none => .error (.invalidConfig .notStarted)

/-- The stage with an id. -/
def stage (s : Session) (id : String) : Except Error Stage := do
  let world ← s.worldOf
  match world.stage? id with
  | some stage => .ok stage
  | none => .error (.notFound .stage id)

/-- The puzzle with an id. -/
def puzzle (s : Session) (id : String) : Except Error Puzzle := do
  let world ← s.worldOf
  Catalog.look .puzzle world.puzzles id

/-- The ticket of a number, given how many were issued; a number that was not issued stands for the
uuid of the same value. -/
def ticket (issued n : Nat) : Ticket := if n < issued then .issued n else .foreign (.ofNat n)

/-- The ticket of the batch of a number. -/
def batchTicket (s : Session) (n : Nat) : Ticket := ticket s.batchCount n

/-- The ticket of the timer of a number. -/
def timerTicket (s : Session) (n : Nat) : Ticket := ticket s.timerCount n

end Session

/-- What waits for a ticket. -/
def waiting? {α : Type} (t : Ticket) (l : List (Nat × α)) : Option α :=
  match t with
  | .issued serial => l.lookup serial
  | .foreign _ => none

/-- What waits for other tickets. -/
def dropWaiting {α : Type} (t : Ticket) (l : List (Nat × α)) : List (Nat × α) :=
  match t with
  | .issued serial => l.filter fun e => e.1 != serial
  | .foreign _ => l

/-! ## Operations -/

/-- An operation on a session. -/
abbrev Play (α : Type) := ExceptT Error (StateT Session Option) α

namespace Play

variable {α : Type}

/-- Runs an operation: no answer, or a value or an error with the session that is left. -/
def outcome (p : Play α) (s : Session) : Option (Except Error α × Session) :=
  StateT.run (ExceptT.run p) s

/-- The operation without an answer. -/
def unanswered : Play α := ExceptT.mk fun _ => none

/-- The operation that ends as given and changes nothing. -/
def ofExcept (r : Except Error α) : Play α := ExceptT.mk (pure r)

/-- A query of the session. -/
def ask (query : Session → Except Error α) : Play α := do ofExcept (query (← get))

/-- Gives a cue. -/
def cue (c : Cue) : Play Unit := modify fun s => { s with display := s.display.perform c }

/-- Writes a line into the log. -/
def note (n : Note) : Play Unit := modify fun s => { s with notes := s.notes.push n }

/-- Changes the player. -/
def player (f : Player → Player) : Play Unit := modify fun s => { s with player := f s.player }

/-- Changes the catalog. -/
def catalog (f : Catalog → Catalog) : Play Unit := modify fun s => { s with catalog := f s.catalog }

end Play

end Adventure
