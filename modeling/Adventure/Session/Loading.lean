import Adventure.Session.Scenes

/-!
# Loading stages

A stage counts as loaded from the moment it is asked for.  Its assets are requested in one batch;
when they have arrived, or at once if there are none, its scenes, backgrounds, objects, procedures
and audio become known and its load actions run.

## Main definitions

* `Session.inheritanceBase`, `Session.resolve`: the scene that a scene inherits from, and the
  scenes of a stage with what they inherit.
* `Play.materialize`: makes what a stage declares known.
* `Play.loadStage`, `Play.assetsReady`: the two ends of the wait for assets.
-/

namespace Adventure

namespace Session

/-- The declaration that a scene of a stage inherits from: the nearest of the scenes before it in
its stage, or else, if the scene is known, the one of the last loaded stage that declares it. -/
def inheritanceBase (s : Session) (before : List Scene) (id : String) : Except Error Scene :=
  match before.reverse.find? fun scene => scene.id == id with
  | some scene => .ok scene
  | none =>
    if !s.catalog.scenes.contains id then .error (.notFound .scene id)
    else do
      let world ← s.worldOf
      let loaded := world.stages.reverse.filter fun stage => s.player.hasLoaded stage.id
      match loaded.findSome? fun stage => stage.scenes.find? fun scene => scene.id == id with
      | some scene => .ok scene
      | none => .error (.notFound .scene id)

/-- The scenes behind those of `before`, with the interactions that they inherit.  Only the own
interactions of a scene are handed on. -/
def resolve (s : Session) (before : List Scene) : List Scene → Except Error (List Scene)
  | [] => .ok []
  | scene :: rest => do
    let resolved ←
      match scene.inherits with
      | none => .ok scene
      | some id => (s.inheritanceBase before id).map fun base => scene.inherit base.interactive
    return resolved :: (← s.resolve (before ++ [scene]) rest)

end Session

namespace Play

/-- Makes a hotspot known. -/
def addHotspot (area : Hotspot) : Play Unit := do
  let fresh := !(← get).catalog.objects.contains area.id
  catalog (·.addObject (.hotspot area))
  -- The first object of an id is the only one that is drawn.
  if fresh then cue (.createObject area.id)

/-- Makes the background of a scene known, if it has one. -/
def addBackground (scene : Scene) : Play Unit := do
  match scene.background with
  | some file =>
    let url := (← get).catalog.parameters.backgroundUrl file
    cue (.createBackground scene.id url)
    catalog (·.addBackground scene.id url)
  | none => pure ()

/-- Makes a scene known, with its hotspots, its background and its procedures. -/
def addScene (scene : Scene) : Play Unit := do
  scene.hotspots.forM addHotspot
  addBackground scene
  scene.procedures.entries.forM fun e => catalog (·.addProcedure e.1 e.2)
  catalog (·.addScene scene)

/-- Makes known what a stage declares.  All inheritance is resolved before, so a scene that cannot
be found leaves everything as it was. -/
def materialize (stage : Stage) : Play Unit := do
  let scenes ← ask fun s => s.resolve [] stage.scenes
  -- From here on nothing fails.
  scenes.forM addScene
  stage.audio.entries.forM fun e =>
    catalog fun c => c.addAudio e.1 (c.parameters.audioUrls e.2)

/-- Runs the load actions of a stage.  Before any scene was entered, the first scene of the stage
is. -/
def openStage (run : Script → Play Unit) (stage : Stage) : Play Unit := do
  run stage.loadActions
  if (← get).player.currentScene.isNone then
    match stage.scenes with
    | scene :: _ => goToScene run scene.id
    | [] => pure ()

/-- Hides the loading indicator, unless other stages still wait for their assets. -/
def endLoading : Play Unit := do
  if (← get).pendingLoads.isEmpty then cue .hideLoading

/-- Makes a stage known and opens it. -/
def finishLoad (run : Script → Play Unit) (stage : Stage) : Play Unit := do
  materialize stage
  endLoading
  note (.stageMaterialized stage.id)
  openStage run stage

/-- Requests the background of a scene, if it has one. -/
def requestImage (scene : Scene) : Play Unit := do
  match scene.background with
  | some file => cue (.requestImage scene.id ((← get).catalog.parameters.backgroundUrl file))
  | none => pure ()

/-- Requests the files of a piece of audio, unless it is known. -/
def requestTrack (e : String × List String) : Play Unit := do
  let c := (← get).catalog
  -- A track that is known has its files.
  if !c.audio.contains e.1 then cue (.requestAudio e.1 (c.parameters.audioUrls e.2))

/-- Requests the assets of a stage. -/
def requestAssets (stage : Stage) : Play Unit := do
  stage.scenes.forM requestImage
  stage.audio.entries.forM requestTrack

/-- Starts a batch and lets a stage wait for it. -/
def startBatch (stage : String) : Play Unit := do
  let batch := (← get).batchCount
  modify fun s => { s with
    batchCount := batch + 1
    pendingLoads := s.pendingLoads ++ [(batch, stage)] }
  note (.stagePreloading stage batch)
  cue (.startBatch batch)

/-- Loads a stage. -/
def loadStage (run : Script → Play Unit) (id : String) : Play Unit := do
  let stage ← ask fun s => s.stage id
  -- From here on every code that leads to the stage rediscovers it.
  player (·.markLoaded stage.id)
  note (.stageRequested stage.id)
  cue .showLoading
  if stage.needsPreload then
    requestAssets stage
    startBatch stage.id
  else finishLoad run stage

/-- The assets of a batch have arrived. -/
def assetsReady (run : Script → Play Unit) (batch : Ticket) : Play Unit := do
  match waiting? batch (← get).pendingLoads with
  | none => throw (.notFound .batch batch.text)
  | some id =>
    modify fun s => { s with pendingLoads := dropWaiting batch s.pendingLoads }
    let stage ← ask fun s => s.stage id
    finishLoad run stage

end Play

end Adventure
