import Adventure.Session.Scripts

/-!
# Driving a session

The operations that the surroundings of a session call: the start of a world, clicks, codes, hints,
and the events of batches and timers, directly or through the queue.

## Main definitions

* `Play.start`: starts a world.
* `Play.clickObject`, `Play.requestHint`, `Play.timerFired`, `Play.handle`: single events.
* `Play.post`, `Play.pump`: the queue.
* `Play.completeBatches`, `Play.expireTimers`, `Play.settle`: let the batches and timers on display
  come to their end.
-/

namespace Adventure.Play

/-- How deep scripts may call each other when a session is driven. -/
def defaultDepth : Nat := 20000

variable (depth : Nat)

/-- Makes an arrow known. -/
def addArrow (id : String) : Play Unit := do
  cue (.createObject id)
  catalog (·.addObject (.arrow id))

/-- Starts a world and loads its first stage.  A world with a defect is refused and changes nothing;
otherwise all that was known is forgotten, but the display stays as it is. -/
def start (id : Uuid) (world : World) : Play Unit := do
  ofExcept (world.validate.mapError .invalidConfig)
  let first ← ofExcept (world.firstStage.mapError .invalidConfig)
  modify fun s => { s with
    catalog := { parameters := world.parameters }
    player := { sessionId := id }
    queue := []
    pendingLoads := []
    pendingTimers := []
    noticeOpen := false }
  (← get).arrows.forM addArrow
  modify fun s => { s with world := some world }
  loadStage (execute depth) first.id

/-- Runs the script with which the current scene reacts to an object. -/
def react (id : String) : Play Unit := do
  let scene ← ask Session.currentScene
  match scene.interactive.get? id with
  | some script => execute depth script
  -- An object that the scene does not react to is no error if it is known.
  | none => requireObject id

/-- A click on an object.  A blocking message swallows it; a notice is closed before. -/
def clickObject (id : String) : Play Unit := do
  if (← get).player.isBlocked then return
  dismiss
  react depth id

/-- Shows a hint of a puzzle, and returns it. -/
def requestHint (puzzle : String) (index : Nat) : Play String := do
  let declared ← ask fun s => s.puzzle puzzle
  match declared.hints[index]? with
  | none => throw (.notFound .hint s!"{puzzle}#{index}")
  | some hint =>
    showNotice hint
    return hint

/-- A timer has expired: its script runs, wherever the player is. -/
def timerFired (timer : Ticket) : Play Unit := do
  match waiting? timer (← get).pendingTimers with
  | none => throw (.notFound .timer timer.text)
  | some script =>
    modify fun s => { s with pendingTimers := dropWaiting timer s.pendingTimers }
    execute depth script

/-- Handles an event. -/
def handle : Event Ticket → Play Unit
  | .objectClicked object => clickObject depth object
  | .codeSubmitted code => submitCode (execute depth) none code
  | .hintRequested puzzle index => do
    let _ ← requestHint puzzle index.toNat
    return
  | .buttonClicked index => clickButton (execute depth) index.toNat
  | .messageDismissed => dismiss
  | .assetsReady batch => assetsReady (execute depth) batch
  | .timerFired timer => timerFired depth timer

/-! ## The queue -/

/-- Puts an event at the end of the queue. -/
def post (event : Event Ticket) : Play Unit :=
  modify fun s => { s with queue := s.queue ++ [event] }

/-- Handles up to `count` events of the queue; returns how many were handled. -/
def pumpUpTo : Nat → Play Nat
  | 0 => return 0
  | count + 1 => do
    match (← get).queue with
    | [] => return 0
    | event :: rest =>
      -- The event leaves the queue first: one that fails is not handled again.
      modify fun s => { s with queue := rest }
      handle depth event
      return (← pumpUpTo count) + 1

/-- Handles the events of the queue in order, up to the first that fails; returns how many were
handled. -/
def pump : Play Nat := do pumpUpTo depth (← get).queue.length

/-- Reports the batches on display, and handles the queue; returns how many were reported and how
many events were handled. -/
def completeBatches : Play (Nat × Nat) := do
  let batches := (← get).display.batches
  modify fun s => { s with display := { s.display with batches := [] } }
  batches.forM fun batch => post (.assetsReady (.issued batch))
  return (batches.length, ← pump depth)

/-- Reports the timers on display, and handles the queue; returns how many were reported and how
many events were handled. -/
def expireTimers : Play (Nat × Nat) := do
  let timers := (← get).display.timersByDelay
  modify fun s => { s with display := { s.display with timers := [] } }
  timers.forM fun e => post (.timerFired (.issued e.2))
  return (timers.length, ← pump depth)

/-- Reports batches in up to `rounds` rounds, until none is on display. -/
def settleWithin : Nat → Play (List (Nat × Nat))
  | 0 => unanswered
  | rounds + 1 => do
    if (← get).display.batches.isEmpty then return []
    let round ← completeBatches depth
    return round :: (← settleWithin rounds)

/-- Reports batches until none is on display.  A stage is loaded by a code only once, so there are
no more rounds than stages. -/
def settle : Play (List (Nat × Nat)) := do
  let stages :=
    match (← get).world with
    | some world => world.stages.length
    | none => 0
  settleWithin depth (stages + 2)

end Adventure.Play
