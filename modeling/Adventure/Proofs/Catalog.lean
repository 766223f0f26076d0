import Adventure.Catalog
import Adventure.World

/-!
# What becomes known with a stage

A stage that was loaded adds its scenes, one after the other, and then its tracks to the catalog.
Nothing that is known is taken away, and what is new was declared.

## Main definitions

* `Catalog.learn`, `Catalog.learnAll`: the catalog with a scene, and with the scenes and tracks of a
  stage
* `Catalog.Within`: everything that one catalog knows, another one knows, too

## Main results

* `within_learnAll`: learning takes nothing away
* `scenes_learnAll_cases`, `procedures_learnAll_cases` and others: what is new was declared
-/

namespace Adventure.Catalog

attribute [ext] Catalog

/-- The catalog with some arrows. -/
def addArrows (c : Catalog) (arrows : List String) : Catalog :=
  arrows.foldl (fun c id => c.addObject (.arrow id)) c

/-- The catalog with some hotspots. -/
def addHotspots (c : Catalog) (areas : List Hotspot) : Catalog :=
  areas.foldl (fun c area => c.addObject (.hotspot area)) c

/-- The catalog with some procedures. -/
def addProcedures (c : Catalog) (procedures : List (String × Script)) : Catalog :=
  procedures.foldl (fun c e => c.addProcedure e.1 e.2) c

/-- The catalog with the background of a scene, if it has one. -/
def addBackdrop (c : Catalog) (scene : Scene) : Catalog :=
  match scene.background with
  | some file => c.addBackground scene.id (c.parameters.backgroundUrl file)
  | none => c

/-- The catalog with a scene and all that it declares. -/
def learn (c : Catalog) (scene : Scene) : Catalog :=
  (((c.addHotspots scene.hotspots).addBackdrop scene).addProcedures
    scene.procedures.entries).addScene scene

/-- The catalog with the tracks of a stage. -/
def addTracks (c : Catalog) (tracks : List (String × List String)) : Catalog :=
  tracks.foldl (fun c e => c.addAudio e.1 (c.parameters.audioUrls e.2)) c

/-- The catalog with the scenes and the tracks of a stage. -/
def learnAll (c : Catalog) (scenes : List Scene) (audio : Table (List String)) : Catalog :=
  (scenes.foldl learn c).addTracks audio.entries

variable (c : Catalog)

/-! ## One scene -/

theorem addArrows_eq (arrows : List String) :
    c.addArrows arrows =
      { c with objects := arrows.foldl (fun t id => t.insertNew id (.arrow id)) c.objects } := by
  induction arrows generalizing c with
  | nil => rfl
  | cons id arrows ih => exact ih (c.addObject (.arrow id))

theorem addHotspots_eq (areas : List Hotspot) :
    c.addHotspots areas =
      { c with objects := areas.foldl (fun t area => t.insertNew area.id (.hotspot area)) c.objects } := by
  induction areas generalizing c with
  | nil => rfl
  | cons area areas ih => exact ih (c.addObject (.hotspot area))

theorem addProcedures_eq (procedures : List (String × Script)) :
    c.addProcedures procedures =
      { c with procedures := procedures.foldl (fun t e => t.insertNew e.1 e.2) c.procedures } := by
  induction procedures generalizing c with
  | nil => rfl
  | cons e procedures ih => exact ih (c.addProcedure e.1 e.2)

theorem addTracks_eq (tracks : List (String × List String)) :
    c.addTracks tracks =
      { c with
        audio := tracks.foldl (fun t e => t.insertNew e.1 (c.parameters.audioUrls e.2)) c.audio } := by
  induction tracks generalizing c with
  | nil => rfl
  | cons e tracks ih => exact ih (c.addAudio e.1 (c.parameters.audioUrls e.2))

variable (scene : Scene)

theorem scenes_learn : (c.learn scene).scenes = c.scenes.insert scene.id scene := by
  simp only [learn, addScene, addProcedures_eq, addHotspots_eq, addBackdrop, addBackground]
  cases scene.background <;> rfl

theorem objects_learn :
    (c.learn scene).objects =
      scene.hotspots.foldl (fun t area => t.insertNew area.id (.hotspot area)) c.objects := by
  simp only [learn, addScene, addProcedures_eq, addHotspots_eq, addBackdrop, addBackground]
  cases scene.background <;> rfl

theorem procedures_learn :
    (c.learn scene).procedures =
      scene.procedures.entries.foldl (fun t e => t.insertNew e.1 e.2) c.procedures := by
  simp only [learn, addScene, addProcedures_eq, addHotspots_eq, addBackdrop, addBackground]
  cases scene.background <;> rfl

theorem backgrounds_learn :
    (c.learn scene).backgrounds =
      match scene.background with
      | some file => c.backgrounds.insert scene.id (c.parameters.backgroundUrl file)
      | none => c.backgrounds := by
  simp only [learn, addScene, addProcedures_eq, addHotspots_eq, addBackdrop, addBackground]
  cases scene.background <;> rfl

theorem audio_learn : (c.learn scene).audio = c.audio := by
  simp only [learn, addScene, addProcedures_eq, addHotspots_eq, addBackdrop, addBackground]
  cases scene.background <;> rfl

theorem parameters_learn : (c.learn scene).parameters = c.parameters := by
  simp only [learn, addScene, addProcedures_eq, addHotspots_eq, addBackdrop, addBackground]
  cases scene.background <;> rfl

/-! ## All scenes and tracks -/

/-- What holds of a catalog and is kept by each scene and each track holds of the catalog with all
of them. -/
theorem learnAll_induction {motive : Catalog → Prop} {c : Catalog} {scenes : List Scene}
    {audio : Table (List String)} (base : motive c)
    (scene : ∀ c, motive c → ∀ scene ∈ scenes, motive (c.learn scene))
    (track : ∀ c, motive c → ∀ e ∈ audio.entries,
      motive (c.addAudio e.1 (c.parameters.audioUrls e.2))) :
    motive (c.learnAll scenes audio) :=
  List.foldlRecOn audio.entries _ (List.foldlRecOn scenes _ base scene) track

/-- Everything that a catalog knows, another one knows, too; only scenes and backgrounds may have
changed. -/
structure Within (c d : Catalog) : Prop where
  parameters : d.parameters = c.parameters
  objects : ∀ {id o}, c.objects.get? id = some o → d.objects.get? id = some o
  procedures : ∀ {name script},
    c.procedures.get? name = some script → d.procedures.get? name = some script
  audio : ∀ {key urls}, c.audio.get? key = some urls → d.audio.get? key = some urls
  scenes : ∀ {id}, c.scenes.contains id = true → d.scenes.contains id = true
  backgrounds : ∀ {id}, c.backgrounds.contains id = true → d.backgrounds.contains id = true

theorem Within.refl : c.Within c := ⟨rfl, id, id, id, id, id⟩

theorem Within.trans {c d e : Catalog} (hcd : c.Within d) (hde : d.Within e) : c.Within e where
  parameters := hde.parameters.trans hcd.parameters
  objects h := hde.objects (hcd.objects h)
  procedures h := hde.procedures (hcd.procedures h)
  audio h := hde.audio (hcd.audio h)
  scenes h := hde.scenes (hcd.scenes h)
  backgrounds h := hde.backgrounds (hcd.backgrounds h)

theorem Within.contains_objects {c d : Catalog} (h : c.Within d) {id : String}
    (hc : c.objects.contains id = true) : d.objects.contains id = true := by
  obtain ⟨o, ho⟩ := Table.contains_iff.1 hc
  exact Table.contains_of_get? (h.objects ho)

theorem Within.contains_procedures {c d : Catalog} (h : c.Within d) {name : String}
    (hc : c.procedures.contains name = true) : d.procedures.contains name = true := by
  obtain ⟨script, hs⟩ := Table.contains_iff.1 hc
  exact Table.contains_of_get? (h.procedures hs)

theorem Within.contains_audio {c d : Catalog} (h : c.Within d) {key : String}
    (hc : c.audio.contains key = true) : d.audio.contains key = true := by
  obtain ⟨urls, hu⟩ := Table.contains_iff.1 hc
  exact Table.contains_of_get? (h.audio hu)

theorem within_learn : c.Within (c.learn scene) where
  parameters := parameters_learn c scene
  objects h := by
    rw [objects_learn]
    exact Table.get?_foldl_insertNew_of_some _ _ h
  procedures h := by
    rw [procedures_learn]
    exact Table.get?_foldl_insertNew_of_some _ _ h
  audio h := by rwa [audio_learn]
  scenes h := by simp [scenes_learn, h]
  backgrounds h := by
    rw [backgrounds_learn]
    split <;> simp [h]

/-- **Learning takes nothing away.** -/
theorem within_learnAll (scenes : List Scene) (audio : Table (List String)) :
    c.Within (c.learnAll scenes audio) := by
  refine learnAll_induction (Within.refl c) (fun d hd scene _ => hd.trans (within_learn d scene)) ?_
  -- A track that is already known keeps its files.
  intro d hd e _
  exact hd.trans ⟨rfl, id, id, Table.get?_insertNew_of_some, id, id⟩

variable {c}

/-- A scene that is known was known before, or is one of the new ones. -/
theorem scenes_learnAll_cases {scenes : List Scene} {audio : Table (List String)} {id : String}
    {scene : Scene} (h : (c.learnAll scenes audio).scenes.get? id = some scene) :
    c.scenes.get? id = some scene ∨ scene ∈ scenes ∧ scene.id = id := by
  revert h
  refine learnAll_induction (motive := fun d => d.scenes.get? id = some scene → _) .inl ?_
    fun d hd e _ => hd
  intro d hd other hmem h
  rw [scenes_learn, Table.get?_insert] at h
  -- The scene was registered by this one, or stands under another id.
  split at h
  · next heq =>
    cases h
    exact .inr ⟨hmem, heq.symm⟩
  · exact hd h

theorem procedures_learnAll_cases {scenes : List Scene} {audio : Table (List String)}
    {name : String} {script : Script}
    (h : (c.learnAll scenes audio).procedures.get? name = some script) :
    c.procedures.get? name = some script ∨
      ∃ scene ∈ scenes, scene.procedures.get? name = some script := by
  revert h
  refine learnAll_induction (motive := fun d => d.procedures.get? name = some script → _) .inl ?_
    fun d hd e _ => hd
  intro d hd scene hmem h
  rw [procedures_learn] at h
  -- Procedures that were known stay, so only new names are of this scene.
  rcases Table.get?_foldl_insertNew_cases _ _ h with h | ⟨e, he, rfl, rfl⟩
  · exact hd h
  · exact .inr ⟨scene, hmem, Table.mem_entries_iff.1 he⟩

/-- An object that is known was known before, or is a hotspot of a new scene. -/
theorem objects_learnAll_cases {scenes : List Scene} {audio : Table (List String)} {id : String}
    {o : Object} (h : (c.learnAll scenes audio).objects.get? id = some o) :
    c.objects.get? id = some o ∨
      ∃ scene ∈ scenes, ∃ area ∈ scene.hotspots, area.id = id ∧ .hotspot area = o := by
  revert h
  refine learnAll_induction (motive := fun d => d.objects.get? id = some o → _) .inl ?_
    fun d hd e _ => hd
  intro d hd scene hmem h
  rw [objects_learn] at h
  rcases Table.get?_foldl_insertNew_cases _ _ h with h | ⟨area, harea, hid, ho⟩
  · exact hd h
  · exact .inr ⟨scene, hmem, area, harea, hid, ho⟩

/-- A background that is known was known before, or is the one of a new scene. -/
theorem backgrounds_learnAll_cases {scenes : List Scene} {audio : Table (List String)}
    {id url : String} (h : (c.learnAll scenes audio).backgrounds.get? id = some url) :
    c.backgrounds.get? id = some url ∨ ∃ scene ∈ scenes, scene.id = id ∧
      ∃ file, scene.background = some file ∧ url = c.parameters.backgroundUrl file := by
  revert h
  -- The parameters stay what they were before the first scene.
  refine (learnAll_induction
    (motive := fun d => d.parameters = c.parameters ∧ (d.backgrounds.get? id = some url → _))
    ⟨rfl, .inl⟩ ?_ fun d hd e _ => hd).2
  rintro d ⟨hparameters, hd⟩ scene hmem
  refine ⟨(parameters_learn d scene).trans hparameters, fun h => ?_⟩
  rw [backgrounds_learn] at h
  cases hfile : scene.background with
  | none =>
    rw [hfile] at h
    exact hd h
  | some file =>
    simp only [hfile, Table.get?_insert] at h
    split at h
    · next heq =>
      cases h
      exact .inr ⟨scene, hmem, heq.symm, file, hfile, by rw [hparameters]⟩
    · exact hd h

/-- A track that is known was known before, or is a new one. -/
theorem audio_learnAll_cases {scenes : List Scene} {audio : Table (List String)} {key : String}
    {urls : List String} (h : (c.learnAll scenes audio).audio.get? key = some urls) :
    c.audio.get? key = some urls ∨
      ∃ files, audio.get? key = some files ∧ urls = c.parameters.audioUrls files := by
  revert h
  refine (learnAll_induction
    (motive := fun d => d.parameters = c.parameters ∧ (d.audio.get? key = some urls → _))
    ⟨rfl, .inl⟩ ?_ ?_).2
  · rintro d ⟨hparameters, hd⟩ scene -
    refine ⟨(parameters_learn d scene).trans hparameters, fun h => hd ?_⟩
    rwa [audio_learn] at h
  · rintro d ⟨hparameters, hd⟩ ⟨track, files⟩ hmem
    refine ⟨hparameters, fun h => ?_⟩
    rcases Table.get?_insertNew_cases h with h | ⟨rfl, hurls⟩
    · exact hd h
    · exact .inr ⟨files, Table.mem_entries_iff.1 hmem, by rw [← hurls, hparameters]⟩

/-- What was known right after a scene was learned is known at the end. -/
theorem exists_within_learnAll {scenes : List Scene} (audio : Table (List String)) {scene : Scene}
    (h : scene ∈ scenes) : ∃ d, (learn d scene).Within (c.learnAll scenes audio) := by
  -- The scenes behind this one, and the tracks, take nothing away.
  obtain ⟨before, after, rfl⟩ := List.append_of_mem h
  refine ⟨before.foldl learn c, ?_⟩
  rw [learnAll, List.foldl_append, List.foldl_cons]
  exact within_learnAll _ after audio

variable {scenes : List Scene} (audio : Table (List String)) {scene : Scene}

theorem contains_scenes_learnAll (h : scene ∈ scenes) :
    (c.learnAll scenes audio).scenes.contains scene.id = true := by
  obtain ⟨d, hd⟩ := exists_within_learnAll (c := c) audio h
  exact hd.scenes (by simp [scenes_learn])

theorem contains_backgrounds_learnAll (h : scene ∈ scenes) (hb : scene.background.isSome = true) :
    (c.learnAll scenes audio).backgrounds.contains scene.id = true := by
  obtain ⟨d, hd⟩ := exists_within_learnAll (c := c) audio h
  obtain ⟨file, hfile⟩ := Option.isSome_iff_exists.1 hb
  exact hd.backgrounds (by simp [backgrounds_learn, hfile])

theorem contains_objects_learnAll {area : Hotspot} (h : scene ∈ scenes)
    (ha : area ∈ scene.hotspots) :
    (c.learnAll scenes audio).objects.contains area.id = true := by
  obtain ⟨d, hd⟩ := exists_within_learnAll (c := c) audio h
  apply hd.contains_objects
  rw [objects_learn, Table.contains_foldl_insertNew, Bool.or_eq_true]
  exact .inr (List.any_eq_true.2 ⟨area, ha, by simp⟩)

theorem contains_procedures_learnAll {name : String} (h : scene ∈ scenes)
    (hn : scene.procedures.contains name = true) :
    (c.learnAll scenes audio).procedures.contains name = true := by
  obtain ⟨d, hd⟩ := exists_within_learnAll (c := c) audio h
  obtain ⟨script, hs⟩ := Table.contains_iff.1 hn
  apply hd.contains_procedures
  rw [procedures_learn, Table.contains_foldl_insertNew, Bool.or_eq_true]
  exact .inr (List.any_eq_true.2 ⟨(name, script), Table.mem_entries_iff.2 hs, by simp⟩)

theorem contains_audio_learnAll {key : String} (h : audio.contains key = true) :
    (c.learnAll scenes audio).audio.contains key = true := by
  obtain ⟨files, hf⟩ := Table.contains_iff.1 h
  rw [learnAll, addTracks_eq, Table.contains_foldl_insertNew, Bool.or_eq_true]
  exact .inr (List.any_eq_true.2 ⟨(key, files), Table.mem_entries_iff.2 hf, by simp⟩)

end Adventure.Catalog
