import Adventure.Proofs.Inheritance

/-!
# The scene that stands under an id

An id can be declared by several stages, and more than once in one.  Of these declarations the last
one that became known stands: it is the one that is registered.  A scene that inherits finds its
base in another way, among the stages that count as loaded, in the order of the world and not in the
order in which they became known.  Where the two orders agree, both find the same declaration.

## Main definitions

* `Session.materialized`, `Session.known`: the stages that have become known, in their order
* `Session.standing?`: the declaration that became known last
* `Session.Stands`: these are the ones that are registered
* `Session.InStep`: the two ways to a declaration agree

## Main results

* `Session.Step.learns`: what a step does to what is known
* `Session.Step.stands`: every step keeps what stands
* `Session.Leads.inherits_standing`: a scene inherits from the one that stands, where the two agree
* `not_forall_inherits_standing`: it does not everywhere
-/

namespace Adventure

open Session

/-! ## What became known -/

/-- The stage of which a line of the log tells that it became known. -/
def Note.materialized? : Note → Option String
  | stageMaterialized stage => some stage
  | _ => none

/-- The last scene of an id that a stage declares. -/
def Stage.last? (stage : Stage) (id : String) : Option Scene :=
  stage.scenes.reverse.find? fun scene => scene.id == id

namespace Session

/-- The ids of the stages that have become known, the latest one last. -/
def materialized (s : Session) : List String := s.notes.toList.filterMap Note.materialized?

/-- The stages that have become known since another session, the latest one first. -/
def known (since s : Session) : List Stage :=
  (s.materialized.drop since.materialized.length).reverse.filterMap fun id =>
    s.world.bind fun w => w.stage? id

/-- The declaration of an id that became known last. -/
def standing? (since s : Session) (id : String) : Option Scene :=
  (since.known s).findSome? fun stage => stage.last? id

/-- The stages that count as loaded and those that became known agree in the declaration of an id:
both begin, as far as they declare it, with one stage, and that declares it in one way. -/
def InStep (since s : Session) (id : String) : Prop :=
  ∃ stage, (s.loadedStages.find? fun stage => (stage.first? id).isSome) = some stage ∧
    ((since.known s).find? fun stage => (stage.last? id).isSome) = some stage ∧
    stage.first? id = stage.last? id

/-- What is registered is what stands, with what it inherits. -/
structure Stands (since : Session) (w : World) (s : Session) : Prop where
  world : s.world = some w
  history : since.materialized <+: s.materialized
  registered : ∀ id, Option.Rel (Scene.Becomes (· ∈ w.scenes)) (since.standing? s id)
    (s.catalog.scenes.get? id)

end Session

/-! ## Searches -/

section Searches

variable {α β : Type} {R : α → β → Prop}

/-- Two searches in lists of related members. -/
theorem rel_find?_of_forall₂ {l : List α} {m : List β} (h : l.Forall₂ R m) {p : α → Bool}
    {q : β → Bool} (hpq : ∀ a b, R a b → p a = q b) : Option.Rel R (l.find? p) (m.find? q) := by
  induction h with
  | nil => exact .none
  | @cons a b l m hab _ ih =>
    rw [List.find?_cons, List.find?_cons, hpq a b hab]
    cases q b with
    | true => exact .some hab
    | false => exact ih

theorem rel_or {a a' : Option α} {b b' : Option β} (h : Option.Rel R a b)
    (h' : Option.Rel R a' b') : Option.Rel R (a.or a') (b.or b') := by
  cases h with
  | none => exact h'
  | some hab => exact .some hab

/-- What is found first is found where something is found first. -/
theorem findSome?_of_find? {f : α → Option β} {l : List α} {a : α}
    (h : (l.find? fun a => (f a).isSome) = some a) : l.findSome? f = f a := by
  obtain ⟨hsome, before, after, rfl, hbefore⟩ := List.find?_eq_some_iff_append.1 h
  obtain ⟨b, hb⟩ := Option.isSome_iff_exists.1 hsome
  rw [hb, List.findSome?_eq_some_iff]
  exact ⟨before, a, after, rfl, hb, fun x hx => by simpa using hbefore x hx⟩

end Searches

/-- The scene that is registered last under an id stands there. -/
theorem Catalog.get?_scenes_learnAll (c : Catalog) (scenes : List Scene)
    (audio : Table (List String)) (id : String) :
    (c.learnAll scenes audio).scenes.get? id =
      (scenes.reverse.find? fun scene => scene.id == id).or (c.scenes.get? id) := by
  have hscenes : (scenes.foldl learn c).scenes.get? id =
      (scenes.reverse.find? fun scene => scene.id == id).or (c.scenes.get? id) := by
    induction scenes generalizing c with
    | nil => rfl
    | cons scene scenes ih =>
      rw [List.foldl_cons, ih, scenes_learn, Table.get?_insert, List.reverse_cons,
        List.find?_append, Option.or_assoc]
      by_cases h : id = scene.id
      · simp [h]
      · simp [h, Ne.symm h]
  rw [learnAll, addTracks_eq]
  exact hscenes

namespace Session

variable {since s t u : Session} {w : World} {stage : Stage} {scenes : List Scene}

/-! ## What steps do -/

theorem materialized_noted (s : Session) (n : Note) :
    (s.noted n).materialized = s.materialized ++ n.materialized?.toList := by
  simp only [materialized, noted, Array.toList_push, List.filterMap_append]
  cases h : n.materialized? <;> simp [h]

theorem Materializes.catalog (h : s.Materializes stage u) : u.catalog = s.catalog := by
  cases h with
  | asked h => exact h.quiet.catalog
  | arrived => rfl

theorem Materializes.materialized (h : s.Materializes stage u) :
    u.materialized = s.materialized := by
  cases h with
  | @asked id t h =>
    have hnone : (t.requested id).materialized = t.materialized :=
      (materialized_noted _ _).trans (List.append_nil _)
    rw [hnone]
    cases h <;> rfl
  | arrived => rfl

/-- The stage that becomes known is the one that the world declares under its id. -/
theorem Materializes.stage? (h : s.Materializes stage u) (hw : s.world = some w) :
    u.world = some w ∧ w.stage? stage.id = some stage := by
  have hfound : ∀ {t : Session} {id : String}, t.world = some w → t.stage id = .ok stage →
      w.stage? stage.id = some stage := by
    intro t id ht hstage
    obtain ⟨v, hv, hid⟩ := stage?_of_ok hstage
    obtain rfl := Option.some.inj (ht.symm.trans hv)
    rwa [stage_id hstage]
  cases h with
  | asked h hstage =>
    have ht := h.quiet.world.trans hw
    exact ⟨ht, hfound ht hstage⟩
  | arrived _ hstage => exact ⟨hw, hfound hw hstage⟩

/-- **What a step does to what is known**: nothing, or it makes a stage known. -/
theorem Step.learns (h : s.Step t) :
    t.catalog = s.catalog ∧ t.materialized = s.materialized ∨
    ∃ stage u scenes, s.Materializes stage u ∧ u.resolve [] stage.scenes = .ok scenes ∧
      t = u.finished stage scenes := by
  have hasked : ∀ {id : String} {t : Session}, Asked (.free fun _ _ => True) s id t →
      t.catalog = s.catalog ∧ t.materialized = s.materialized := by
    intro id t h
    cases h <;> exact ⟨rfl, rfl⟩
  have hnoted : ∀ {t : Session} {n : Note}, n.materialized? = none →
      (t.noted n).materialized = t.materialized := by
    intro t n hn
    rw [materialized_noted, hn]
    exact List.append_nil _
  cases h with
  | move h =>
    cases h with
    | load h hstage hneeds hscenes => exact .inr ⟨_, _, _, .asked h hstage hneeds, hscenes, rfl⟩
    | complete h hstage hscenes => exact .inr ⟨_, _, _, .arrived h hstage, hscenes, rfl⟩
    | enter => exact .inl ⟨rfl, hnoted rfl⟩
    | preload h =>
      obtain ⟨hc, hm⟩ := hasked h
      exact .inl ⟨hc, ((hnoted rfl).trans (hnoted rfl)).trans hm⟩
    | hide | notice | block | close | answer | assign | increment | fade | swell | play | stop
    | redirect | tune | schedule | fire | clear | queue | reportBatches | reportTimers =>
      exact .inl ⟨rfl, rfl⟩
  | halt h =>
    cases h with
    | unstaged h => exact .inl (hasked h)
    | unresolved h =>
      obtain ⟨hc, hm⟩ := hasked h
      exact .inl ⟨hc, (hnoted rfl).trans hm⟩
    | reject | strand | close | answer | incomplete => exact .inl ⟨rfl, rfl⟩

/-! ## What stands -/

theorem known_congr (hw : t.world = s.world) (hm : t.materialized = s.materialized) :
    since.known t = since.known s := by
  unfold known
  rw [hw, hm]

/-- A stage that becomes known is the latest one that is. -/
theorem known_finished (hh : since.materialized <+: s.materialized) (hw : s.world = some w)
    (hstage : w.stage? stage.id = some stage) :
    since.known (s.finished stage scenes) = stage :: since.known s := by
  have hm : (s.finished stage scenes).materialized = s.materialized ++ [stage.id] :=
    materialized_noted _ _
  have hworld : (s.finished stage scenes).world = some w := hw
  unfold known
  rw [hm, hworld, hw, List.drop_append_of_le_length hh.length_le, List.reverse_append]
  simp only [List.reverse_singleton, List.singleton_append, List.filterMap_cons, Option.bind_some,
    hstage]

theorem standing?_congr (hw : t.world = s.world) (hm : t.materialized = s.materialized)
    (id : String) : since.standing? t id = since.standing? s id := by
  unfold standing?
  rw [known_congr hw hm]

/-- A stage that becomes known takes the place of those before it. -/
theorem standing?_finished (hh : since.materialized <+: s.materialized) (hw : s.world = some w)
    (hstage : w.stage? stage.id = some stage) (id : String) :
    since.standing? (s.finished stage scenes) id = (stage.last? id).or (since.standing? s id) := by
  unfold standing?
  rw [known_finished hh hw hstage, List.findSome?_cons]
  cases stage.last? id <;> rfl

theorem Stands.congr (hs : since.Stands w s) (hw : t.world = s.world)
    (hc : t.catalog = s.catalog) (hm : t.materialized = s.materialized) : since.Stands w t where
  world := hw.trans hs.world
  history := hm ▸ hs.history
  registered id := by
    rw [standing?_congr hw hm, hc]
    exact hs.registered id

theorem Materializes.stands (h : s.Materializes stage u) (hs : since.Stands w s) :
    since.Stands w u :=
  hs.congr ((h.stage? hs.world).1.trans hs.world.symm) h.catalog h.materialized

/-- **A stage that becomes known** registers its scenes, and they stand. -/
theorem Stands.finished (hs : since.Stands w s) (hstage : w.stage? stage.id = some stage)
    (hscenes : s.resolve [] stage.scenes = .ok scenes) :
    since.Stands w (s.finished stage scenes) where
  world := hs.world
  history := by
    have hm : (s.finished stage scenes).materialized = s.materialized ++ [stage.id] :=
      materialized_noted _ _
    rw [hm]
    exact hs.history.trans (List.prefix_append _ _)
  registered id := by
    have hmem := List.mem_of_find?_eq_some hstage
    have hbecomes : stage.scenes.Forall₂ (Scene.Becomes (· ∈ w.scenes)) scenes :=
      (forall₂_of_resolve hscenes).imp fun _ _ h =>
        h.mono fun _ => mem_scenes_of_base hs.world hmem
    -- The last scene of an id in the stage becomes the last one that is registered under it.
    have hlast : Option.Rel (Scene.Becomes (· ∈ w.scenes)) (stage.last? id)
        (scenes.reverse.find? fun scene => scene.id == id) :=
      rel_find?_of_forall₂ (List.rel_reverse hbecomes) fun d r h => by rw [h.id_eq]
    have hget : (s.finished stage scenes).catalog.scenes.get? id = _ :=
      s.catalog.get?_scenes_learnAll scenes stage.audio id
    rw [standing?_finished hs.history hs.world hstage, hget]
    exact rel_or hlast (hs.registered id)

/-- **What is registered stands**, whatever a step does. -/
theorem Step.stands (h : s.Step t) (hs : since.Stands w s) : since.Stands w t := by
  rcases h.learns with ⟨hc, hm⟩ | ⟨stage, u, scenes, hu, hscenes, rfl⟩
  · exact hs.congr h.extends.world hc hm
  · exact (hu.stands hs).finished (hu.stage? hs.world).2 hscenes

theorem stands_begun (since : Session) (id : Uuid) (w : World) :
    since.Stands w (since.begun id w) where
  world := rfl
  history := List.prefix_rfl
  registered scene := by
    -- Nothing has become known since, and no scene is registered.
    have hnone : since.standing? (since.begun id w) scene = none := by
      have hm : (since.begun id w).materialized = since.materialized := rfl
      unfold standing? known
      rw [hm, List.drop_length]
      rfl
    have hempty : (since.begun id w).catalog.scenes = ∅ := by simp [begun, Catalog.addArrows_eq]
    rw [hnone, hempty]
    exact .none

theorem Leads.stands (h : s.Leads t) (hs : since.Stands w s) : since.Stands w t := by
  induction h with
  | refl => exact hs
  | tail _ hstep ih => exact hstep.stands ih

/-- A scene that inherits does so from a base behind those before it in its stage. -/
theorem inheritanceBase_of_resolve (h : s.resolve [] stage.scenes = .ok scenes) {place : Nat}
    {d : Scene} {b : String} (hplace : stage.scenes[place]? = some d) (hb : d.inherits = some b) :
    ∃ base, s.inheritanceBase (stage.scenes.take place) b = .ok base ∧
      scenes[place]? = some (d.inherit base.interactive) := by
  obtain ⟨r, hr, hinherited⟩ := resolve_place_ok h hplace
  simp only [inherited, hb, List.nil_append] at hinherited
  cases hbase : s.inheritanceBase (stage.scenes.take place) b with
  | error e =>
    rw [hbase] at hinherited
    cases hinherited
  | ok base =>
    rw [hbase] at hinherited
    cases hinherited
    exact ⟨base, rfl, hr⟩

/-- **Where the two ways to a declaration agree**, the nearest one is the one that stands. -/
theorem InStep.standing?_eq {id : String} (h : since.InStep s id) :
    since.standing? s id = s.nearest? id := by
  obtain ⟨stage, hfirst, hlast, heq⟩ := h
  unfold standing? nearest?
  rw [findSome?_of_find? hfirst, findSome?_of_find? hlast, heq]

end Session

/-! ## What a scene inherits -/

section

variable {since s t u : Session} {id : Uuid} {w : World} {stage : Stage}

/-- **A scene inherits from the scene that is registered**, as long as the two ways to it agree.
When a stage is made known, in whatever session, a scene of it whose base is not declared before it
in the stage gets the interactions of the nearest declaration; and if the last stage of the world
that counts as loaded and declares the base is also the one of those that became known last, and
declares it in one way, these are the interactions of the declaration that is registered. -/
theorem Session.Leads.inherits_standing (h : (since.begun id w).Leads s)
    (hu : u = s ∨ s.Materializes stage u)
    (hm : (Play.materialize stage).outcome u = some (.ok (), t)) :
    ∃ scenes, u.resolve [] stage.scenes = .ok scenes ∧ t = u.learned scenes stage.audio ∧
      ∀ place d b, stage.scenes[place]? = some d → d.inherits = some b →
        (∀ before ∈ stage.scenes.take place, before.id ≠ b) →
        ∃ base standing r, scenes[place]? = some (d.inherit base.interactive) ∧
          u.nearest? b = some base ∧ since.standing? u b = some standing ∧
          u.catalog.scenes.get? b = some r ∧ standing.Becomes (· ∈ w.scenes) r ∧
          (since.InStep u b → base = standing) := by
  have hs : since.Stands w s := h.stands (stands_begun since id w)
  have hstands : since.Stands w u := by
    rcases hu with rfl | hu
    · exact hs
    · exact hu.stands hs
  rw [Play.outcome_materialize] at hm
  cases hscenes : u.resolve [] stage.scenes with
  | error e =>
    rw [hscenes] at hm
    cases hm
  | ok scenes =>
    rw [hscenes] at hm
    cases hm
    refine ⟨scenes, rfl, rfl, fun place d b hplace hb hbefore => ?_⟩
    obtain ⟨base, hbase, hr⟩ := inheritanceBase_of_resolve hscenes hplace hb
    -- No scene before it in its stage has the id, so the base is looked for in loaded stages.
    rw [inheritanceBase_eq_ok_iff] at hbase
    obtain hfind | ⟨-, hknown, hnearest⟩ := hbase
    · have hmem := List.mem_reverse.1 (List.mem_of_find?_eq_some hfind)
      exact absurd (by simpa using List.find?_some hfind) (hbefore base hmem)
    · obtain ⟨registered, hregistered⟩ := Table.contains_iff.1 hknown
      have hrel := hstands.registered b
      rw [hregistered] at hrel
      cases hstanding : since.standing? u b with
      | none =>
        rw [hstanding] at hrel
        cases hrel
      | some standing =>
        rw [hstanding] at hrel
        obtain hbecomes | _ := hrel
        refine ⟨base, standing, registered, hr, hnearest, rfl, hregistered, hbecomes,
          fun hstep => ?_⟩
        have heq := hstep.standing?_eq
        rw [hstanding, hnearest] at heq
        exact (Option.some.inj heq).symm

/-! ## Examples -/

/-- A world whose cove is declared by two stages, and whose cape inherits from it. -/
def World.coast : World where
  stages := [
    { id := "dune"
      scenes := [{ id := "cove", interactive := .ofList [("up", [.new (.showText "Sand.")])] }] },
    { id := "reef"
      scenes := [{ id := "cove", interactive := .ofList [("down", [.new (.showText "Coral.")])] }] },
    { id := "cape"
      scenes := [{ id := "tip", inherits := some "cove" }] }]

/-- The reef becomes known behind the dune, as it stands in the world, and the cape inherits the
corals of the cove that is registered then. -/
theorem inherits_standing_coast :
    ∃ s stage u t, ((withArrows (.ofNat 0) ["up", "down"]).begun (.ofNat 1) .coast).Leads s ∧
      s.Materializes stage u ∧ (Play.materialize stage).outcome u = some (.ok (), t) ∧
      ∃ base tip, (withArrows (.ofNat 0) ["up", "down"]).standing? u "cove" = some base ∧
        base.interactive.keys = ["down"] ∧ t.catalog.scenes.get? "tip" = some tip ∧
        tip.interactive.keys = ["down"] := by
  have hstart := @Reached.start ["up", "down"] _ _ 3 (.ofNat 1) .coast _ (.fresh (.ofNat 0)) rfl
  have hdune := (@Play.start_leads .coast (withArrows (.ofNat 0) ["up", "down"]) _ 3 (.ofNat 1) _
    rfl).resolve_left fun h => nomatch congrArg Session.world h
  have hreef := hdune.trans (@Call.leads _ _ hstart.grounded (.loadStage "reef") 3 _ rfl)
  obtain ⟨scenes, -, -, hall⟩ := Leads.inherits_standing hreef
    (.inr (.asked (@Asked.direct _ _ "cape" trivial) rfl rfl)) rfl
  obtain ⟨base, standing, r, htip, hnearest, hstanding, -, -, heq⟩ := hall 0 _ _ rfl rfl nofun
  obtain rfl := heq ⟨_, rfl, rfl, rfl⟩
  cases hnearest
  exact ⟨_, _, _, _, hreef, .asked (@Asked.direct _ _ "cape" trivial) rfl rfl, rfl, _, _,
    hstanding, rfl, rfl, rfl⟩

/-- A world whose cove is declared by two stages; in the second one, a ledge before it inherits from
it. -/
def World.tide : World where
  stages := [
    { id := "shore"
      scenes := [
        { id := "pier" },
        { id := "cove", interactive := .ofList [("up", [.new (.showText "Cliffs.")])] }] },
    { id := "tide"
      scenes := [
        { id := "ledge", inherits := some "cove" },
        { id := "cove", interactive := .ofList [("down", [.new (.showText "Deep water.")])] }] }]

/-- **Not every scene inherits from the one that is registered.**  The tide counts as loaded before
its cove is known, so its ledge inherits from that, while the cove of the shore is registered. -/
theorem not_forall_inherits_standing :
    ¬∀ (arrows : List String) (id id' : Uuid) (w : World) (s u t : Session) (stage : Stage),
      w.validate = .ok () → ((withArrows id arrows).begun id' w).Leads s →
        (u = s ∨ s.Materializes stage u) →
        (Play.materialize stage).outcome u = some (.ok (), t) →
          ∃ scenes, u.resolve [] stage.scenes = .ok scenes ∧ t = u.learned scenes stage.audio ∧
            ∀ place d b, stage.scenes[place]? = some d → d.inherits = some b →
              (∀ before ∈ stage.scenes.take place, before.id ≠ b) →
              ∃ standing r, scenes[place]? = some (d.inherit standing.interactive) ∧
                (withArrows id arrows).standing? u b = some standing ∧
                u.catalog.scenes.get? b = some r ∧ standing.Becomes (· ∈ w.scenes) r := by
  intro hall
  have hshore := (@Play.start_leads .tide (withArrows (.ofNat 0) ["up", "down"]) _ 3 (.ofNat 1) _
    rfl).resolve_left fun h => nomatch congrArg Session.world h
  obtain ⟨scenes, hscenes, -, hplaces⟩ := hall _ _ _ .tide _ _ _ _ rfl hshore
    (.inr (.asked (@Asked.direct _ _ "tide" trivial) rfl rfl)) rfl
  obtain ⟨standing, r, hledge, hstanding, -⟩ := hplaces 0 _ _ rfl rfl nofun
  cases hscenes
  cases hstanding
  -- The ledge has the interactions of one cove, and would have those of the other.
  have hkeys := congrArg (Option.map fun scene => scene.interactive.keys) hledge
  exact absurd hkeys (by decide)

end

end Adventure
