import Adventure.Session.Basic

/-!
# Scenes on display

What is shown of the current scene, and the way from one scene to the next.  The scripts that run at
the entry of a scene are run by the operation `run`.

## Main definitions

* `Session.visibility`: for each object of a scene, whether it is to be shown.
* `Session.codeInput?`: what the code input of a scene shows.
* `Play.refreshObjects`, `Play.refreshCodeInput`, `Play.hideInteractive`, `Play.hideHotspots`.
* `Play.goToScene`: leaves the current scene and enters another one.
-/

namespace Adventure

namespace Session

/-- For each object that a scene reacts to, in order, whether some entry of its script passes. -/
def visibility (s : Session) (interactive : List (String × Script)) :
    Except Error (List (String × Bool)) :=
  interactive.mapM fun e => do
    let _ ← s.catalog.object e.1
    return (e.1, ← e.2.anyActive s.player)

/-- What the code input of a scene shows, if the scene has one: whether it is enabled, and its text.
A solved puzzle shows its code, and a locked one says so. -/
def codeInput? (s : Session) (scene : Scene) : Option (Bool × String) :=
  match scene.puzzle with
  | none => none
  | some puzzle =>
    if !scene.showsCodeInput then none
    else
      match s.player.answers.get? puzzle with
      | some code => some (false, code)
      | none =>
        let unsolved := s.player.unsolvedCount scene.prerequisites
        if unsolved = 0 then some (true, "")
        else some (false, s.catalog.parameters.lockedMessage unsolved)

/-- The objects that a scene reacts to and that are known, arrows aside if they are kept. -/
def hideable (s : Session) (keepArrows : Bool) (scene : Scene) : List String :=
  scene.interactive.keys.filter fun id =>
    match s.catalog.objects.get? id with
    | some object => !(keepArrows && object.isArrow)
    | none => false

end Session

namespace Play

/-- Shows or hides an object. -/
def display (e : String × Bool) : Play Unit :=
  cue (if e.2 then .showObject e.1 else .hideObject e.1)

/-- Shows the objects of the current scene that have an active entry, and hides the others. -/
def refreshObjects : Play Unit := do
  let scene ← ask Session.currentScene
  let plan ← ask fun s => s.visibility scene.interactive.entries
  plan.forM display

/-- Shows the code input of the current scene, if there is one. -/
def refreshCodeInput : Play Unit := do
  if (← get).player.currentScene.isNone then return
  let scene ← ask Session.currentScene
  match (← get).codeInput? scene with
  | some (enabled, prefill) => cue (.showCodeInput enabled prefill)
  | none => return

/-- Hides the objects of the current scene, and its code input unless arrows are kept. -/
def hideScene (keepArrows : Bool) : Play Unit := do
  if (← get).player.currentScene.isNone then return
  let scene ← ask Session.currentScene
  ((← get).hideable keepArrows scene).forM fun id => cue (.hideObject id)
  if !keepArrows && scene.showsCodeInput then cue .hideCodeInput

/-- Hides every object of the current scene and its code input. -/
def hideInteractive : Play Unit := hideScene false

/-- Hides the objects of the current scene but the arrows. -/
def hideHotspots : Play Unit := hideScene true

/-- Leaves the current scene. -/
def leaveScene : Play Unit := do
  -- What is hidden is what the scene reacts to, so the scene must still be the current one.
  hideInteractive
  match (← get).player.currentScene with
  | some id =>
    player fun p => { p with currentScene := none }
    if (← get).catalog.backgrounds.contains id then cue (.hideBackground id)
  | none => return

/-- Leaves the current scene, if there is one. -/
def leaveAny : Play Unit := do
  if (← get).player.currentScene.isSome then leaveScene

/-- Puts the player into a scene; returns whether it was visited before. -/
def arrive (id : String) : Play Bool := do
  player fun p => { p with currentScene := some id }
  if (← get).catalog.backgrounds.contains id then cue (.showBackground id)
  let visited := (← get).player.hasVisited id
  -- The mark precedes the scripts: a script that comes back to the scene finds it visited.
  player (·.markVisited id)
  return visited

/-- Hides again what an open message hides. -/
def cover : Play Unit := do
  if (← get).player.isBlocked then hideInteractive
  else if (← get).noticeOpen then hideHotspots

/-- Enters a scene.  Objects that an open message hides are hidden again before any script runs. -/
def enterScene (run : Script → Play Unit) (id : String) : Play Unit := do
  let visited ← arrive id
  refreshObjects
  refreshCodeInput
  cover
  note (.sceneEntered id !visited)
  let scene ← ask fun s => s.catalog.scene id
  run (if visited then [] else scene.firstEntryActions)
  run scene.entryActions

/-- Fails if an object is not known. -/
def requireObject (id : String) : Play Unit := do
  let _ ← ask fun s => s.catalog.object id

/-- Leaves the current scene and enters another one, all of whose objects must be known. -/
def goToScene (run : Script → Play Unit) (id : String) : Play Unit := do
  let scene ← ask fun s => s.catalog.scene id
  -- An object that is not known is found before the current scene is left.
  scene.interactive.keys.forM requireObject
  leaveAny
  enterScene run scene.id

end Play

end Adventure
