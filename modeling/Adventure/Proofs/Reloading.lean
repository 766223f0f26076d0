import Adventure.Proofs.Standing

/-!
# Stages that are loaded again

Making a stage known a second time registers all its scenes and backgrounds again, with inheritance
that is resolved again, while more is known and more counts as loaded than at first.  Where no id is
declared twice this makes no difference: an id stands for one scene, and what the scenes of the
stage have once inherited from is still known, so it is found again.

## Main definitions

* `Catalog.Knows`: a scene is known, and all that it declares
* `Catalog.Supports`: a stage is known, and all that its scenes inherit from

## Main results

* `Catalog.learnAll_eq_self`: learning what is known changes nothing
* `Session.Step.supports`: every step keeps the support of what has become known
* `Session.Leads.reloads`: a stage that has become known can be made known again, without a change
-/

namespace Adventure

open Session

/-! ## Learning what is known -/

namespace Catalog

/-- A scene is known as it is, with all that it declares. -/
structure Knows (c : Catalog) (scene : Scene) : Prop where
  registered : c.scenes.get? scene.id = some scene
  background : ∀ file, scene.background = some file →
    c.backgrounds.get? scene.id = some (c.parameters.backgroundUrl file)
  objects : ∀ area ∈ scene.hotspots, c.objects.contains area.id = true
  procedures : ∀ name, scene.procedures.contains name = true → c.procedures.contains name = true

variable {c : Catalog} {scene : Scene} {scenes : List Scene} {audio : Table (List String)}

/-- A scene that is known does not change what is known. -/
theorem learn_eq_self (h : c.Knows scene) : c.learn scene = c := by
  have hscenes : (c.learn scene).scenes = c.scenes := by
    rw [scenes_learn, Table.insert_eq_self_iff]
    exact h.registered
  have hbackgrounds : (c.learn scene).backgrounds = c.backgrounds := by
    rw [backgrounds_learn]
    split
    · next file hfile => exact Table.insert_eq_self_iff.2 (h.background file hfile)
    · rfl
  have hobjects : (c.learn scene).objects = c.objects := by
    rw [objects_learn]
    exact Table.foldl_insertNew_of_contains _ _ h.objects
  have hprocedures : (c.learn scene).procedures = c.procedures := by
    rw [procedures_learn]
    refine Table.foldl_insertNew_of_contains _ _ fun e he => ?_
    exact h.procedures e.1 (Table.contains_of_get? (Table.mem_entries_iff.1 he))
  exact Catalog.ext hobjects hbackgrounds hscenes (audio_learn c scene) hprocedures
    (parameters_learn c scene)

/-- **Learning what is known changes nothing.** -/
theorem learnAll_eq_self (hscenes : ∀ scene ∈ scenes, c.Knows scene)
    (haudio : ∀ key, audio.contains key = true → c.audio.contains key = true) :
    c.learnAll scenes audio = c := by
  refine learnAll_induction (motive := fun d => d = c) rfl ?_ ?_
  · rintro d rfl scene hscene
    exact learn_eq_self (hscenes scene hscene)
  · rintro d rfl e he
    have hknown := haudio e.1 (Table.contains_of_get? (Table.mem_entries_iff.1 he))
    rw [addAudio, Table.insertNew_of_contains hknown]

/-- A stage is known with all that it declares, and so are the scenes that its scenes inherit
from. -/
structure Supports (c : Catalog) (stage : Stage) : Prop extends c.Covers stage where
  bases : ∀ d ∈ stage.scenes, ∀ b, d.inherits = some b → c.scenes.contains b = true

theorem Supports.mono {d : Catalog} {stage : Stage} (h : c.Supports stage) (hw : c.Within d) :
    d.Supports stage where
  toCovers := h.toCovers.mono hw
  bases scene hscene b hb := hw.scenes (h.bases scene hscene b hb)

end Catalog

/-! ## What has become known is supported -/

namespace Session

variable {since s t u : Session} {id : Uuid} {w : World} {stage : Stage} {scenes : List Scene}

/-- What the scenes of a stage inherit from is known when the stage is. -/
theorem supports_finished (hscenes : s.resolve [] stage.scenes = .ok scenes) :
    (s.finished stage scenes).catalog.Supports stage where
  toCovers := covers_finished hscenes
  bases d hd b hb := by
    obtain ⟨place, hplace⟩ := List.mem_iff_getElem?.1 hd
    obtain ⟨base, hbase, -⟩ := inheritanceBase_of_resolve hscenes hplace hb
    rcases inheritanceBase_eq_ok_iff.1 hbase with hfind | ⟨-, hknown, -⟩
    · -- The base stands before the scene in the stage, and becomes known with it.
      have hmem := List.mem_of_mem_take (List.mem_reverse.1 (List.mem_of_find?_eq_some hfind))
      obtain rfl : base.id = b := by simpa using List.find?_some hfind
      exact (covers_finished hscenes).scenes base hmem
    · exact (Catalog.within_learnAll s.catalog scenes stage.audio).scenes hknown

/-- **What has become known stays supported**, whatever a step does. -/
theorem Step.supports (h : s.Step t) (hs : since.Stands w s)
    (hall : ∀ stage ∈ since.known s, s.catalog.Supports stage) :
    ∀ stage ∈ since.known t, t.catalog.Supports stage := by
  rcases h.learns with ⟨hc, hm⟩ | ⟨stage, u, scenes, hu, hscenes, rfl⟩
  · rw [known_congr h.extends.world hm, hc]
    exact hall
  · have hus := hu.stands hs
    have hknown : since.known u = since.known s :=
      known_congr (hus.world.trans hs.world.symm) hu.materialized
    rw [known_finished hus.history hus.world (hu.stage? hs.world).2, hknown, List.forall_mem_cons]
    -- The stage has become known with its bases, and what was known before still is.
    refine ⟨supports_finished hscenes, fun other hother => ?_⟩
    rw [← hu.catalog] at hall
    exact (hall other hother).mono (Catalog.within_learnAll u.catalog scenes stage.audio)

theorem known_begun (since : Session) (id : Uuid) (w : World) :
    since.known (since.begun id w) = [] := by
  have hm : (since.begun id w).materialized = since.materialized := rfl
  unfold known
  rw [hm, List.drop_length]
  rfl

theorem Leads.supports (h : (since.begun id w).Leads s) :
    ∀ stage ∈ since.known s, s.catalog.Supports stage := by
  induction h with
  | refl =>
    rw [known_begun]
    exact nofun
  | tail hleads hstep ih => exact hstep.supports (Leads.stands hleads (stands_begun since id w)) ih

/-! ## The second time -/

theorem Loaded.mem_scenes {d : Scene} (h : s.Loaded d) (hw : s.world = some w) : d ∈ w.scenes := by
  obtain ⟨v, hv, stage, hstage, -, hd⟩ := h
  obtain rfl := Option.some.inj (hw.symm.trans hv)
  exact World.mem_scenes hstage hd

theorem mem_known (hw : s.world = some w) (h : stage ∈ since.known s) : stage ∈ w.stages := by
  obtain ⟨id, -, hstage⟩ := List.mem_filterMap.1 h
  rw [hw] at hstage
  exact List.mem_of_find?_eq_some hstage

/-- Scenes whose bases are found can be resolved. -/
theorem exists_resolve_of_bases (h : ∀ d ∈ scenes, ∀ b, d.inherits = some b →
    ∀ before, ∃ base, s.inheritanceBase before b = .ok base) (before : List Scene) :
    ∃ resolved, s.resolve before scenes = .ok resolved := by
  induction scenes generalizing before with
  | nil => exact ⟨[], rfl⟩
  | cons d scenes ih =>
    rw [List.forall_mem_cons] at h
    obtain ⟨rest, hrest⟩ := ih h.2 (before ++ [d])
    have hfirst : ∃ r, s.inherited before d = .ok r := by
      unfold inherited
      cases hi : d.inherits with
      | none => exact ⟨d, rfl⟩
      | some b =>
        obtain ⟨base, hbase⟩ := h.1 b hi before
        exact ⟨d.inherit base.interactive, by simp [hbase, Except.map]⟩
    obtain ⟨r, hr⟩ := hfirst
    exact ⟨r :: rest, by rw [resolve_cons, hr, hrest]; rfl⟩

/-- **What a stage is resolved to is known**, where no id is declared twice and the stage is known:
its scenes are those that are registered, and their backgrounds are. -/
theorem Declared.knows (h : s.Declared) (hw : s.world = some w) (hdistinct : w.DistinctScenes)
    (hmem : stage ∈ w.stages) (hcovers : s.catalog.Covers stage)
    (hscenes : s.resolve [] stage.scenes = .ok scenes) : ∀ r ∈ scenes, s.catalog.Knows r := by
  intro r hr
  obtain ⟨d, hd, hbecomes⟩ := (resolve_becomes hw hmem hscenes).1 r hr
  have hid := hbecomes.id_eq
  have heq := hbecomes.eq
  have hdw : d ∈ w.scenes := World.mem_scenes hmem hd
  constructor
  · -- The scene that is registered under the id comes from the same declaration.
    obtain ⟨r', hr'⟩ := Table.contains_iff.1 (hcovers.scenes d hd)
    obtain ⟨d', hd', hid', hbecomes'⟩ := h.scenes hr'
    have hregisters : w.Registers r' :=
      ⟨d', hd'.mem_scenes hw, hbecomes'.mono fun _ hbase => hbase.mem_scenes hw⟩
    have hsame : r' = r := hregisters.unique hdistinct ⟨d, hdw, hbecomes⟩
      ((hbecomes'.id_eq.trans hid').trans hid.symm)
    rw [hid, hr', hsame]
  · intro file hfile
    rw [heq] at hfile
    have hsome : d.background.isSome = true := by rw [hfile]; rfl
    obtain ⟨url, hurl⟩ := Table.contains_iff.1 (hcovers.backgrounds d hd hsome)
    obtain ⟨d', hd', hid', file', hfile', rfl⟩ := h.backgrounds hurl
    obtain rfl := hdistinct.eq (hd'.mem_scenes hw) hdw hid'
    obtain rfl := Option.some.inj (hfile'.symm.trans hfile)
    rw [hid, hurl]
  · intro area harea
    rw [heq] at harea
    exact hcovers.objects d hd area harea
  · intro name hname
    rw [heq] at hname
    exact hcovers.procedures d hd name hname

end Session

/-- **Reloading changes nothing.**  A stage that cannot be made known leaves the session with its
display and its log as it was.  And let a world be started in which no scene is declared twice.  In
every later session, between two steps or where a step makes the stage known, a stage that has
become known since can be made known again, whatever else was loaded: what is known stays as it is,
with all scenes and what they inherit, and so do the player and what is on screen. -/
theorem Session.Leads.reloads {since s u : Session} {id : Uuid} {w : World} {stage : Stage}
    (h : (since.begun id w).Leads s) (hu : u = s ∨ s.Materializes stage u) :
    (∀ (v t : Session) (e : Error),
      (Play.materialize stage).outcome v = some (.error e, t) → t = v) ∧
    (w.DistinctScenes → stage ∈ since.known u →
      ∃ t, (Play.materialize stage).outcome u = some (.ok (), t) ∧
        t.catalog = u.catalog ∧ t.player = u.player ∧ u.Cues [] t) := by
  constructor
  · intro v t e hfails
    rw [Play.outcome_materialize] at hfails
    split at hfails
    · cases hfails
    · cases hfails
      rfl
  · intro hdistinct hknown
    have hs := h.stands (stands_begun since id w)
    have hdeclared := (h.declared ⟨awaited_begun since id w, declared_begun since id w⟩).2
    -- A step that makes the stage known has not changed what is known before it does.
    have hsame : u.catalog = s.catalog ∧ u.world = some w ∧ u.materialized = s.materialized ∧
        u.Declared := by
      rcases hu with rfl | hu
      · exact ⟨rfl, hs.world, rfl, hdeclared⟩
      · exact ⟨hu.catalog, (hu.stands hs).world, hu.materialized, hu.declared hdeclared⟩
    obtain ⟨hc, hw, hm, hudeclared⟩ := hsame
    have hsupports : u.catalog.Supports stage := by
      rw [hc]
      rw [known_congr (hw.trans hs.world.symm) hm] at hknown
      exact h.supports stage hknown
    have hmem := mem_known hw hknown
    obtain ⟨scenes, hscenes⟩ := exists_resolve_of_bases (fun d hd b hb before =>
      hudeclared.oneLevel.bases before b (hsupports.bases d hd b hb)) []
    have hall := hudeclared.knows hw hdistinct hmem hsupports.toCovers hscenes
    refine ⟨u.learned scenes stage.audio, ?_, ?_, rfl, u.catalog.creationCues scenes, rfl,
      about_creationCues u.catalog scenes⟩
    · rw [Play.outcome_materialize, hscenes]
    · exact Catalog.learnAll_eq_self hall hsupports.audio

/-! ## An example -/

/-- A world with a terrace, and a bower that inherits from it. -/
def World.terrace : World where
  stages := [
    { id := "terrace"
      scenes := [
        { id := "steps"
          background := some "steps.png"
          hotspots := [⟨"urn", .ofInt 0, .ofInt 0, .ofInt 1, .ofInt 1⟩]
          interactive := .ofList [("urn", [.new (.showText "Empty.")])] }] },
    { id := "bower"
      scenes := [
        { id := "bench"
          inherits := some "steps"
          interactive := .ofList [("down", [.new (.goToScene "steps")])] }] }]

theorem World.distinctScenes_terrace : World.terrace.DistinctScenes := by
  unfold DistinctScenes
  decide

/-- The terrace becomes known behind its batch, and then the bower. -/
theorem exists_leads_terrace :
    ∃ s, ((withArrows (.ofNat 0) ["down"]).begun (.ofNat 1) .terrace).Leads s ∧
      (withArrows (.ofNat 0) ["down"]).known s = World.terrace.stages.reverse := by
  have hstart := @Reached.start ["down"] _ _ 3 (.ofNat 1) .terrace _ (.fresh (.ofNat 0)) rfl
  have hbegun := (@Play.start_leads .terrace (withArrows (.ofNat 0) ["down"]) _ 3 (.ofNat 1) _
    rfl).resolve_left fun h => nomatch congrArg Session.world h
  have harrived := @Reached.call _ _ _ (.handle (.assetsReady (.issued 0))) 3 _ hstart rfl
  have hterrace := hbegun.trans
    (@Call.leads _ _ hstart.grounded (.handle (.assetsReady (.issued 0))) 3 _ rfl)
  have hbower := hterrace.trans (@Call.leads _ _ harrived.grounded (.loadStage "bower") 3 _ rfl)
  exact ⟨_, hbower, rfl⟩

/-- Once the bower is known, both stages can be made known again, and nothing changes. -/
theorem reloads_terrace :
    ∃ s, ((withArrows (.ofNat 0) ["down"]).begun (.ofNat 1) .terrace).Leads s ∧
      ∀ stage ∈ World.terrace.stages, ∃ t,
        (Play.materialize stage).outcome s = some (.ok (), t) ∧ t.catalog = s.catalog := by
  obtain ⟨s, hs, hknown⟩ := exists_leads_terrace
  refine ⟨s, hs, fun stage hstage => ?_⟩
  rw [← List.mem_reverse, ← hknown] at hstage
  obtain ⟨t, ht, hc, -⟩ := (Leads.reloads hs (.inl rfl)).2 World.distinctScenes_terrace hstage
  exact ⟨t, ht, hc⟩

end Adventure
