import Adventure.Proofs.Catalog
import Adventure.Proofs.Scenes
import Adventure.Session.Loading

/-!
# Outcomes of the operations on stages

A stage becomes known at once, after the inheritance of its scenes was resolved; only that can fail.

## Main definitions

* `Session.requested`, `Session.preloading`, `Session.finished`: a stage that was asked for, that
  waits for its assets, and that is known

## Main results

* `outcome_materialize`: a stage becomes known, or nothing changes
* `outcome_loadStage`, `outcome_assetsReady`: the two ends of the wait for assets
-/

namespace Adventure

/-! ## What becomes known -/

namespace Catalog

/-- The cues that create the hotspots that are new. -/
def hotspotCues (c : Catalog) : List Hotspot → List Cue
  | [] => []
  | area :: rest =>
    (if c.objects.contains area.id then [] else [.createObject area.id]) ++
      (c.addObject (.hotspot area)).hotspotCues rest

/-- The cue that creates the background of a scene, if it has one. -/
def backdropCues (c : Catalog) (scene : Scene) : List Cue :=
  match scene.background with
  | some file => [.createBackground scene.id (c.parameters.backgroundUrl file)]
  | none => []

/-- The cues that create what scenes declare. -/
def creationCues (c : Catalog) : List Scene → List Cue
  | [] => []
  | scene :: rest =>
    c.hotspotCues scene.hotspots ++ (c.addHotspots scene.hotspots).backdropCues scene ++
      (c.learn scene).creationCues rest

end Catalog

namespace Session

variable (s : Session)

/-- The session with another catalog. -/
def withCatalog (c : Catalog) : Session := { s with catalog := c }

/-- The session that knows what a stage declares. -/
def learned (scenes : List Scene) (audio : Table (List String)) : Session :=
  (s.withCatalog (s.catalog.learnAll scenes audio)).cued (s.catalog.creationCues scenes)

/-- The cue that hides the loading indicator, unless a stage waits for its assets. -/
def endingCues : List Cue := if s.pendingLoads.isEmpty then [.hideLoading] else []

/-- The session in which a stage is known and its load actions are due. -/
def finished (stage : Stage) (scenes : List Scene) : Session :=
  ((s.learned scenes stage.audio).cued s.endingCues).noted (.stageMaterialized stage.id)

/-- The session in which a stage was asked for. -/
def requested (id : String) : Session :=
  ({ s with player := s.player.markLoaded id }.noted (.stageRequested id)).cued [.showLoading]

/-- The cues that request the background of a scene. -/
def imageCues (scene : Scene) : List Cue :=
  match scene.background with
  | some file => [.requestImage scene.id (s.catalog.parameters.backgroundUrl file)]
  | none => []

/-- The cues that request a track. -/
def trackCues (e : String × List String) : List Cue :=
  if s.catalog.audio.contains e.1 then []
  else [.requestAudio e.1 (s.catalog.parameters.audioUrls e.2)]

/-- The cues that request the assets of a stage. -/
def assetCues (stage : Stage) : List Cue :=
  stage.scenes.flatMap s.imageCues ++ stage.audio.entries.flatMap s.trackCues

/-- The session in which a stage waits for its assets. -/
def preloading (stage : Stage) : Session :=
  ({ s with
      batchCount := s.batchCount + 1
      pendingLoads := s.pendingLoads ++ [(s.batchCount, stage.id)] }.noted
    (.stagePreloading stage.id s.batchCount)).cued (s.assetCues stage ++ [Cue.startBatch s.batchCount])

/-- The session in which nothing waits for a batch. -/
def reported (batch : Ticket) : Session :=
  { s with pendingLoads := dropWaiting batch s.pendingLoads }

/-! Which parts of the display are changed. -/

section About

open Cue

theorem about_hotspotCues (c : Catalog) (areas : List Hotspot) :
    About [] (c.hotspotCues areas) := by
  induction areas generalizing c with
  | nil => exact .nil
  | cons area areas ih =>
    have hfirst : About [] (if c.objects.contains area.id then [] else [createObject area.id]) := by
      split <;> simp [About, part?]
    exact hfirst.append (ih _)

theorem about_creationCues (c : Catalog) (scenes : List Scene) :
    About [] (c.creationCues scenes) := by
  induction scenes generalizing c with
  | nil => exact .nil
  | cons scene scenes ih =>
    have hbackdrop : About [] ((c.addHotspots scene.hotspots).backdropCues scene) := by
      unfold Catalog.backdropCues
      split <;> simp [About, part?]
    exact ((about_hotspotCues c scene.hotspots).append hbackdrop).append (ih _)

theorem about_endingCues : About [.loading] s.endingCues := by
  unfold endingCues
  split <;> simp [About, part?]

theorem about_assetCues (stage : Stage) : About [] (s.assetCues stage) := by
  intro c hc p hp
  unfold assetCues at hc
  rcases List.mem_append.1 hc with hc | hc
  · obtain ⟨scene, -, hc⟩ := List.mem_flatMap.1 hc
    unfold imageCues at hc
    split at hc <;> simp_all [part?]
  · obtain ⟨e, -, hc⟩ := List.mem_flatMap.1 hc
    unfold trackCues at hc
    split at hc <;> simp_all [part?]

theorem display_finished (stage : Stage) (scenes : List Scene) :
    (s.finished stage scenes).display =
      (s.catalog.creationCues scenes ++ s.endingCues).foldl Display.perform s.display := by
  simp [finished, learned, withCatalog, cued]

theorem cues_finished (stage : Stage) (scenes : List Scene) :
    s.Cues [.loading] (s.finished stage scenes) :=
  ⟨s.catalog.creationCues scenes ++ s.endingCues, display_finished s stage scenes,
    (about_creationCues s.catalog scenes).append (about_endingCues s)⟩

theorem cues_requested (id : String) : s.Cues [.loading] (s.requested id) :=
  ⟨[.showLoading], rfl, by simp [About, part?]⟩

theorem cues_preloading (stage : Stage) : s.Cues [.batches] (s.preloading stage) := by
  refine ⟨s.assetCues stage ++ [.startBatch s.batchCount], rfl, ?_⟩
  have hbatch : About [.batches] [startBatch s.batchCount] := by simp [About, part?]
  exact (about_assetCues s stage).append hbatch

end About

/-- A stage counts as loaded from the moment it is asked for. -/
theorem hasLoaded_requested (s : Session) (id other : String) :
    (s.requested id).player.hasLoaded other = (decide (other = id) || s.player.hasLoaded other) :=
  Names.contains_add _ id other

theorem hasLoaded_requested_self (s : Session) (id : String) :
    (s.requested id).player.hasLoaded id = true := by
  simp [hasLoaded_requested]

end Session

namespace Play

open Session

variable {s : Session}

theorem outcome_addHotspot (s : Session) (area : Hotspot) :
    (addHotspot area).outcome s =
      some (.ok (), (s.withCatalog (s.catalog.addObject (.hotspot area))).cued
        (if s.catalog.objects.contains area.id then [] else [.createObject area.id])) := by
  simp only [addHotspot, outcome_bind, outcome_get, andThen_ok, outcome_catalog, outcome_ite,
    outcome_cue, outcome_pure]
  cases s.catalog.objects.contains area.id <;> rfl

theorem outcome_addHotspots (areas : List Hotspot) (s : Session) :
    (areas.forM addHotspot).outcome s =
      some (.ok (), (s.withCatalog (s.catalog.addHotspots areas)).cued
        (s.catalog.hotspotCues areas)) := by
  induction areas generalizing s with
  | nil => rfl
  | cons area areas ih =>
    -- A hotspot is new if neither the catalog nor the list before it has the id.
    rw [outcome_forM_cons, outcome_addHotspot, andThen_ok, ih]
    simp [withCatalog, cued, Catalog.addHotspots, Catalog.hotspotCues]

theorem outcome_addBackground (s : Session) (scene : Scene) :
    (addBackground scene).outcome s =
      some (.ok (), (s.withCatalog (s.catalog.addBackdrop scene)).cued
        (s.catalog.backdropCues scene)) := by
  unfold addBackground Catalog.addBackdrop Catalog.backdropCues
  cases scene.background <;> rfl

theorem outcome_forM_catalog {β : Type} (f : Catalog → β → Catalog) (l : List β) (s : Session) :
    (l.forM fun b => catalog fun c => f c b).outcome s =
      some (.ok (), s.withCatalog (l.foldl f s.catalog)) := by
  induction l generalizing s with
  | nil => rfl
  | cons b l ih => rw [outcome_forM_cons, outcome_catalog, andThen_ok, ih]; rfl

theorem outcome_addScene (s : Session) (scene : Scene) :
    (addScene scene).outcome s =
      some (.ok (), (s.withCatalog (s.catalog.learn scene)).cued
        (s.catalog.hotspotCues scene.hotspots ++
          (s.catalog.addHotspots scene.hotspots).backdropCues scene)) := by
  simp only [addScene, outcome_bind, outcome_addHotspots, andThen_ok, outcome_addBackground,
    outcome_forM_catalog (fun c (e : String × Script) => c.addProcedure e.1 e.2), outcome_catalog]
  simp [withCatalog, cued, Catalog.learn, Catalog.addProcedures]

theorem outcome_addScenes (scenes : List Scene) (s : Session) :
    (scenes.forM addScene).outcome s =
      some (.ok (), (s.withCatalog (scenes.foldl Catalog.learn s.catalog)).cued
        (s.catalog.creationCues scenes)) := by
  induction scenes generalizing s with
  | nil => rfl
  | cons scene scenes ih =>
    rw [outcome_forM_cons, outcome_addScene, andThen_ok, ih]
    simp [withCatalog, cued, Catalog.creationCues]

/-- **A stage becomes known** with all that it declares, or nothing changes. -/
theorem outcome_materialize (s : Session) (stage : Stage) :
    (materialize stage).outcome s =
      match s.resolve [] stage.scenes with
      | .ok scenes => some (.ok (), s.learned scenes stage.audio)
      | .error e => some (.error e, s) := by
  simp only [materialize, outcome_bind, outcome_ask]
  cases s.resolve [] stage.scenes with
  | error e => rfl
  | ok scenes =>
    -- Scenes and tracks become known without a look-up that could fail.
    simp only [andThen_ok, outcome_bind, outcome_addScenes,
      outcome_forM_catalog fun c (e : String × List String) =>
        c.addAudio e.1 (c.parameters.audioUrls e.2)]
    rfl

theorem outcome_endLoading (s : Session) :
    endLoading.outcome s = some (.ok (), s.cued s.endingCues) := by
  simp only [endLoading, outcome_bind, outcome_get, andThen_ok, outcome_ite, outcome_cue,
    outcome_pure, endingCues]
  cases s.pendingLoads.isEmpty <;> rfl

theorem outcome_finishLoad (s : Session) (run : Script → Play Unit) (stage : Stage) :
    (finishLoad run stage).outcome s =
      match s.resolve [] stage.scenes with
      | .ok scenes => (openStage run stage).outcome (s.finished stage scenes)
      | .error e => some (.error e, s) := by
  simp only [finishLoad, outcome_bind, outcome_materialize]
  cases s.resolve [] stage.scenes with
  | error e => rfl
  | ok scenes =>
    simp only [andThen_ok, outcome_bind, outcome_endLoading, outcome_note]
    rfl

theorem outcome_requestImage (s : Session) (scene : Scene) :
    (requestImage scene).outcome s = some (.ok (), s.cued (s.imageCues scene)) := by
  unfold requestImage imageCues
  cases scene.background <;> rfl

theorem outcome_requestTrack (s : Session) (e : String × List String) :
    (requestTrack e).outcome s = some (.ok (), s.cued (s.trackCues e)) := by
  simp only [requestTrack, outcome_bind, outcome_get, andThen_ok, outcome_ite, outcome_cue,
    outcome_pure, trackCues]
  cases s.catalog.audio.contains e.1 <;> rfl

/-- Operations that only give cues, one after the other. -/
theorem outcome_forM_cues {β : Type} {f : β → Play Unit} {cues : Session → β → List Cue}
    (hf : ∀ s b, (f b).outcome s = some (.ok (), s.cued (cues s b)))
    (hc : ∀ s l, cues (s.cued l) = cues s) (l : List β) (s : Session) :
    (l.forM f).outcome s = some (.ok (), s.cued (l.flatMap (cues s))) := by
  induction l generalizing s with
  | nil => rfl
  | cons b l ih =>
    rw [outcome_forM_cons, hf, andThen_ok, ih, cued_cued, List.flatMap_cons, hc]

theorem outcome_requestAssets (s : Session) (stage : Stage) :
    (requestAssets stage).outcome s = some (.ok (), s.cued (s.assetCues stage)) := by
  simp only [requestAssets, outcome_bind,
    outcome_forM_cues outcome_requestImage fun _ _ => rfl,
    outcome_forM_cues outcome_requestTrack fun _ _ => rfl, andThen_ok, cued_cued]
  rfl

theorem outcome_startBatch (s : Session) (stage : Stage) :
    (do requestAssets stage; startBatch stage.id).outcome s =
      some (.ok (), s.preloading stage) := by
  simp only [startBatch, outcome_bind, outcome_requestAssets, andThen_ok, outcome_get,
    outcome_modify, outcome_note, outcome_cue]
  simp [preloading, cued, noted]

/-- **Loading** a stage: it is not declared, or waits for its assets, or is known at once. -/
theorem outcome_loadStage (s : Session) (run : Script → Play Unit) (id : String) :
    (loadStage run id).outcome s =
      match s.stage id with
      | .error e => some (.error e, s)
      | .ok stage =>
        if stage.needsPreload then some (.ok (), (s.requested stage.id).preloading stage)
        else (finishLoad run stage).outcome (s.requested stage.id) := by
  simp only [loadStage, outcome_bind, outcome_ask]
  cases s.stage id with
  | error e => rfl
  | ok stage =>
    simp only [andThen_ok, outcome_bind, outcome_player, outcome_note, outcome_cue, outcome_ite]
    -- The stage counts as loaded either way.
    split
    · exact (outcome_bind _ _ _).symm.trans (outcome_startBatch (s.requested stage.id) stage)
    · rfl

/-- **The assets of a batch have arrived**: the stage that waits for them is known at once. -/
theorem outcome_assetsReady (s : Session) (run : Script → Play Unit) (batch : Ticket) :
    (assetsReady run batch).outcome s =
      match waiting? batch s.pendingLoads with
      | none => some (.error (.notFound .batch batch.text), s)
      | some id =>
        match s.stage id with
        | .error e => some (.error e, s.reported batch)
        | .ok stage => (finishLoad run stage).outcome (s.reported batch) := by
  simp only [assetsReady, outcome_bind, outcome_get, andThen_ok]
  cases waiting? batch s.pendingLoads with
  | none => rfl
  | some id =>
    simp only [outcome_bind, outcome_modify, andThen_ok, outcome_ask]
    -- The stage is looked up in the world, whatever waits.
    rw [show (Session.stage { s with pendingLoads := dropWaiting batch s.pendingLoads } id) =
      s.stage id from rfl]
    cases s.stage id with
    | error e => rfl
    | ok stage => rfl

end Play

end Adventure
