import Adventure.Proofs.Readiness

/-!
# Well-formed worlds never fail

A session of a well-formed world first waits for the assets of the first stage; no scene is known
then, and nothing holds a script.  Once they have arrived, everything that is held is sound.  So an
event ends with an error only if it is about something that is not there.

## Main definitions

* `Session.Expects`: the events that can happen
* `Session.Waiting`: the first stage waits for its assets
* `Session.InPlay`: the sessions of a well-formed world, before and after that

## Main results

* `InPlay.handle`: events keep everything sound, and fail only if they are refused
* `Played.never_fails`: no event that can happen fails
-/

namespace Adventure

open Session

/-! ## Events and calls -/

/-- The calls that deliver events, directly or through the queue. -/
def Call.Delivers : Call → Prop
  | handle _ | post _ | pump | takeBatches | takeTimers => True
  | goToScene _ | loadStage _ | execute _ => False

namespace Session

/-- **The events that can happen**: what is clicked is there, or swallowed by a message; a code is
submitted where a declared puzzle is; hints and buttons exist; batches and timers wait. -/
def Expects (s : Session) : Event Ticket → Prop
  | .objectClicked object => s.player.isBlocked = true ∨ ∃ scene, s.here? = some scene ∧
      (scene.interactive.contains object = true ∨ s.catalog.objects.contains object = true)
  | .codeSubmitted _ => ∃ scene puzzle declared, s.here? = some scene ∧
      scene.puzzle = some puzzle ∧ s.puzzle puzzle = .ok declared
  | .hintRequested puzzle index => ∃ declared, s.puzzle puzzle = .ok declared ∧
      index.toNat < declared.hints.length
  | .buttonClicked index => ∃ scripts, s.player.pending = some scripts ∧
      index.toNat < scripts.length
  | .messageDismissed => True
  | .assetsReady batch => (waiting? batch s.pendingLoads).isSome = true
  | .timerFired timer => (waiting? timer s.pendingTimers).isSome = true

variable {s t : Session} {w : World} {arrows : List String}

theorem Orderly.not_refuses (h : s.Orderly w arrows) (hw : w.WellFormed arrows)
    {event : Event Ticket} (he : s.Expects event) {e : Error} : ¬s.Refuses event e := by
  intro hr
  cases hr with
  | unplaced hb hscene =>
    rcases he with hblocked | ⟨scene, hhere, -⟩
    · cases hb.symm.trans hblocked
    · cases (currentScene_of_here? hhere).symm.trans hscene
  | object hb hscene hi ho =>
    rcases he with hblocked | ⟨scene, hhere, hreacts | hknown⟩
    · cases hb.symm.trans hblocked
    · cases (currentScene_of_here? hhere).symm.trans hscene
      rw [Table.get?_eq_none_iff] at hi
      cases hi.symm.trans hreacts
    · cases ho.symm.trans hknown
  | @code code e htargets =>
    obtain ⟨scene, puzzle, declared, hhere, hpuzzle, hdeclared⟩ := he
    have hcontains := Table.contains_of_get? (h.puzzle.1 hdeclared)
    obtain ⟨targets, hok⟩ := h.exists_targets hw (puzzleFor_none hhere hpuzzle) hcontains code
    cases hok.symm.trans htargets
  | puzzle hp =>
    obtain ⟨declared, hok, -⟩ := he
    cases hok.symm.trans hp
  | hint hp hi =>
    obtain ⟨declared, hok, hlt⟩ := he
    cases hok.symm.trans hp
    exact absurd (List.getElem?_eq_none_iff.1 hi) (Nat.not_le_of_lt hlt)
  | unasked hp =>
    obtain ⟨scripts, hsome, -⟩ := he
    cases hsome.symm.trans hp
  | button hp hi =>
    obtain ⟨scripts, hsome, hlt⟩ := he
    cases hsome.symm.trans hp
    exact absurd (List.getElem?_eq_none_iff.1 hi) (Nat.not_le_of_lt hlt)
  | batch hnone =>
    have hsome : (waiting? _ s.pendingLoads).isSome = true := he
    rw [hnone] at hsome
    cases hsome
  | timer hnone =>
    have hsome : (waiting? _ s.pendingTimers).isSome = true := he
    rw [hnone] at hsome
    cases hsome

/-! ## Two phases -/

/-- The first stage waits for its assets, and no script can be run. -/
structure Waiting (w : World) (arrows : List String) (s : Session) : Prop extends
    s.Orderly w arrows where
  placeless : s.player.currentScene = none
  unasked : s.player.pending = none
  untimed : s.pendingTimers = []
  base : ∀ e ∈ s.pendingLoads, ∃ stage ∈ w.base, stage.id = e.2

/-- The sessions of a well-formed world, in both phases. -/
structure InPlay (w : World) (arrows : List String) (s : Session) : Prop where
  grounded : s.Grounded
  phase : s.Waiting w arrows ∨ s.Ready w arrows

theorem Waiting.still (h : s.Waiting w arrows) (hx : s.Extends t)
    (hc : t.catalog = s.catalog) (hcurrent : t.player.currentScene = s.player.currentScene)
    (hp : t.player.pending = none) (ht : t.pendingTimers = s.pendingTimers)
    (hl : t.pendingLoads = s.pendingLoads) : t.Waiting w arrows where
  toOrderly := by
    refine h.toOrderly.step hx hc ?_ (fun _ he => .inl (ht ▸ he)) fun _ he => .inl (hl ▸ he)
    intro _ hsome
    cases hp.symm.trans hsome
  placeless := hcurrent.trans h.placeless
  unasked := hp
  untimed := ht.trans h.untimed
  base e he := h.base e (hl ▸ he)

/-- Without a current scene, a notice can always be closed. -/
theorem Waiting.dismiss (h : s.Waiting w arrows) (hs : s.Grounded) :
    ∃ t, Play.dismiss.outcome s = some (.ok (), t) ∧ t.Grounded ∧ t.Waiting w arrows := by
  have houtcome := Play.outcome_dismiss s
  cases ho : s.noticeOpen with
  | false =>
    rw [ho] at houtcome
    exact ⟨s, houtcome, hs, h⟩
  | true =>
    have hhere : s.noticeClosed.here? = none := here?_of_none h.placeless
    have hplan : s.noticeClosed.plan? = .ok [] := by rw [plan?, hhere]
    rw [ho, if_pos rfl, Play.outcome_closeNotice hs, hplan] at houtcome
    refine ⟨s.noticeClosed.shown [], houtcome, hs.congr rfl rfl rfl, ?_⟩
    exact h.still (.of_eq rfl rfl rfl rfl) rfl rfl h.unasked rfl rfl

theorem Waiting.currentScene (h : s.Waiting w arrows) :
    s.currentScene = .error (.notFound .scene "<no current scene>") := by
  unfold Session.currentScene
  rw [h.placeless]

/-- The queue and the display do not matter. -/
theorem InPlay.congr (h : s.InPlay w arrows) (harrows : t.arrows = s.arrows)
    (hworld : t.world = s.world) (hc : t.catalog = s.catalog) (hp : t.player = s.player)
    (ht : t.pendingTimers = s.pendingTimers) (hl : t.pendingLoads = s.pendingLoads) :
    t.InPlay w arrows where
  grounded := h.grounded.congr (by rw [hc]) (by rw [hp]) (by rw [hp])
  phase := by
    have hx : s.Extends t := .of_eq harrows hworld hc hp
    rcases h.phase with hwaiting | hready
    · refine .inl (hwaiting.still hx hc ?_ ?_ ht hl)
      · rw [hp]
      · rw [hp]
        exact hwaiting.unasked
    · refine .inr (hready.still hx hc ?_ ht hl)
      intro _ hsome
      rwa [hp] at hsome

/-- Right after a world was accepted, its first stage is asked for and everything is sound. -/
theorem orderly_begun {id id' : Uuid} {first : Stage} (hfirst : w.firstStage = .ok first) :
    (((withArrows id arrows).begun id' w).requested first.id).Orderly w arrows := by
  have hcatalog : ((withArrows id arrows).begun id' w).catalog =
      ({ parameters := w.parameters } : Catalog).addArrows arrows := rfl
  have hscenes : ((withArrows id arrows).begun id' w).catalog.scenes = ∅ := by
    rw [hcatalog, Catalog.addArrows_eq]
  have hprocedures : ((withArrows id arrows).begun id' w).catalog.procedures = ∅ := by
    rw [hcatalog, Catalog.addArrows_eq]
  refine ⟨rfl, ?_, ?_, ?_, ?_, ?_, nofun, nofun, nofun⟩
  · show ((withArrows id arrows).begun id' w).catalog.parameters = w.parameters
    rw [hcatalog, Catalog.addArrows_eq]
  · intro arrow harrow
    show ((withArrows id arrows).begun id' w).catalog.objects.contains arrow = true
    rw [hcatalog, Catalog.addArrows_eq, Table.contains_foldl_insertNew, Bool.or_eq_true]
    refine .inr (List.any_eq_true.2 ⟨arrow, List.contains_iff_mem.1 harrow, by simp⟩)
  · intro stage hstage
    obtain rfl : stage = first := World.eq_of_mem_base hstage (World.mem_base_iff.2 hfirst)
    exact hasLoaded_requested_self _ stage.id
  · intro scene _ hget
    have hsome : ((withArrows id arrows).begun id' w).catalog.scenes.get? scene = some _ := hget
    rw [hscenes] at hsome
    cases hsome
  · intro name _ hget
    have hsome : ((withArrows id arrows).begun id' w).catalog.procedures.get? name = some _ := hget
    rw [hprocedures] at hsome
    cases hsome

end Session

/-! ## Before the first stage is known -/

section Phases

variable {w : World} {arrows : List String} {s t : Session} (hw : w.WellFormed arrows)
include hw

/-- **The first stage becomes known** and is opened. -/
theorem Session.Orderly.open_first (h : s.Orderly w arrows) (hs : s.Grounded) {id : String}
    {stage : Stage} (hstage : s.stage id = .ok stage) (hbase : stage ∈ w.base) (depth : Nat) :
    (Play.finishLoad (Play.execute depth) stage).ensures (fun _ t => t.InPlay w arrows)
      (fun _ _ => False) s := by
  have k : Keeps .sound (Ready w arrows) fun _ _ => False := Keeps.ready hw
  have hmem := World.mem_stages_of_mem_base hbase
  obtain ⟨scenes, hscenes⟩ := h.exists_resolved hw hmem (.inl hbase)
  have hready := h.finished hw hmem hscenes (.inl hbase)
  have hsafe := k.openStage (k.execute depth) (hs.finished stage scenes) hready
    (.finished hstage hscenes)
  refine Play.ensures_of_eq (t := s.finished stage scenes) ?_
    (Play.ensures_imp hsafe (fun _ t ht => ⟨ht.grounded, .inr ht.inv⟩) fun _ _ he => he.2)
  rw [Play.outcome_finishLoad, hscenes]

/-- **Events before the first stage is known**: only its assets make a difference. -/
theorem Session.Waiting.handle (h : s.Waiting w arrows) (hs : s.Grounded) (depth : Nat)
    (event : Event Ticket) :
    (Play.handle depth event).ensures (fun _ t => t.InPlay w arrows)
      (fun e t => t.InPlay w arrows ∧ s.Refuses event e) s := by
  have hrefuse : ∀ {e : Error}, s.Refuses event e →
      (Play.handle depth event).outcome s = some (.error e, s) →
      (Play.handle depth event).ensures (fun _ t => t.InPlay w arrows)
        (fun e t => t.InPlay w arrows ∧ s.Refuses event e) s :=
    fun hr houtcome => Play.ensures_of_error houtcome ⟨⟨hs, .inl h⟩, hr⟩
  cases event with
  | objectClicked object =>
    have hb : s.player.isBlocked = false := by
      rw [Player.isBlocked, h.unasked]
      rfl
    -- A notice is closed, but then there is no scene that could react.
    obtain ⟨t, hdismiss, hground, ht⟩ := h.dismiss hs
    have houtcome := Play.outcome_clickObject depth s object
    have hreact : (Play.react depth object).outcome t =
        some (.error (.notFound .scene "<no current scene>"), t) := by
      simp only [Play.react, Play.outcome_bind, Play.outcome_ask, ht.currentScene,
        Play.andThen_error]
    rw [hb, hdismiss] at houtcome
    exact Play.ensures_of_error (houtcome.trans hreact)
      ⟨⟨hground, .inl ht⟩, .unplaced hb h.currentScene⟩
  | codeSubmitted code =>
    cases htargets : s.targetsOf none code with
    | error e =>
      apply hrefuse (.code htargets)
      exact (Play.outcome_submitCode hs (Play.execute depth) none code).trans (by rw [htargets])
    | ok found =>
      -- The puzzle would be that of the current scene.
      obtain ⟨puzzle, hpuzzle, -⟩ := bind_eq_ok_iff.1 htargets
      obtain ⟨scene, hscene, -⟩ := bind_eq_ok_iff.1 hpuzzle
      cases h.currentScene.symm.trans hscene
  | hintRequested puzzle index =>
    have houtcome := Play.outcome_requestHint depth hs puzzle index
    cases hp : s.puzzle puzzle with
    | error e =>
      rw [hp] at houtcome
      exact hrefuse (.puzzle hp) houtcome
    | ok declared =>
      simp only [hp] at houtcome
      cases hi : declared.hints[index.toNat]? with
      | none =>
        rw [hi] at houtcome
        exact hrefuse (.hint hp hi) houtcome
      | some hint =>
        rw [hi] at houtcome
        have hnoticed : (s.noticed hint).Waiting w arrows :=
          h.still (extends_noticed s hint) rfl rfl rfl rfl rfl
        exact Play.ensures_of_ok houtcome ⟨hs.congr rfl rfl rfl, .inl hnoticed⟩
  | buttonClicked index =>
    apply hrefuse (.unasked h.unasked)
    exact (Play.outcome_clickButton hs (Play.execute depth) index.toNat).trans (by rw [h.unasked])
  | messageDismissed =>
    obtain ⟨t, hdismiss, hground, ht⟩ := h.dismiss hs
    exact Play.ensures_of_ok hdismiss ⟨hground, .inl ht⟩
  | assetsReady batch =>
    have houtcome := Play.outcome_assetsReady s (Play.execute depth) batch
    cases hwaiting : waiting? batch s.pendingLoads with
    | none =>
      rw [hwaiting] at houtcome
      exact hrefuse (.batch hwaiting) houtcome
    | some id =>
      -- The stage that waits is the first one.
      obtain ⟨serial, -, hmem⟩ := mem_of_waiting? hwaiting
      obtain ⟨stage, hbase, hid⟩ := h.base _ hmem
      obtain rfl : stage.id = id := hid
      have hstage : s.stage stage.id = .ok stage := h.stage.2 (World.stage?_of_mem_base hbase)
      simp only [hwaiting, hstage] at houtcome
      have hreported : (s.reported batch).Orderly w arrows :=
        h.toOrderly.step (extends_reported s batch) rfl .inl (fun _ he => .inl he)
          fun _ he => .inl (mem_of_mem_dropWaiting he)
      have hopen := hreported.open_first hw (hs.congr rfl rfl rfl) hstage hbase depth
      exact Play.ensures_of_eq houtcome
        (Play.ensures_imp hopen (fun _ _ ht => ht) fun _ _ he => he.elim)
  | timerFired timer =>
    have huntimed : waiting? timer s.pendingTimers = none := by
      rw [h.untimed]
      cases timer <;> rfl
    apply hrefuse (.timer huntimed)
    exact (Play.outcome_timerFired depth s timer).trans (by rw [huntimed])

/-! ## Both phases -/

/-- **Events keep everything sound**, and fail only if they are refused. -/
theorem Session.InPlay.handle (h : s.InPlay w arrows) (depth : Nat) (event : Event Ticket) :
    (Play.handle depth event).ensures (fun _ t => t.InPlay w arrows)
      (fun e t => t.InPlay w arrows ∧ s.Refuses event e) s := by
  rcases h.phase with hwaiting | hready
  · exact hwaiting.handle hw h.grounded depth event
  · refine Play.ensures_imp ((Keeps.ready hw).handle depth h.grounded hready event)
      (fun _ t ht => ⟨ht.grounded, .inr ht.inv⟩) ?_
    intro e t he
    obtain ⟨hground, hfalse | ⟨hI, hr⟩⟩ := he
    · exact hfalse.elim
    · exact ⟨⟨hground, .inr hI⟩, hr⟩

theorem Session.InPlay.pumpUpTo (h : s.InPlay w arrows) (depth count : Nat) :
    (Play.pumpUpTo depth count).ensures (fun _ t => t.InPlay w arrows)
      (fun _ t => t.InPlay w arrows) s := by
  induction count generalizing s with
  | zero => exact Play.ensures_of_ok rfl h
  | succ count ih =>
    cases hq : s.queue with
    | nil => exact Play.ensures_of_ok (Play.outcome_pumpUpTo_nil depth hq _) h
    | cons event rest =>
      have hrest : (s.withQueue rest).InPlay w arrows :=
        h.congr rfl rfl rfl rfl rfl rfl
      apply Play.ensures_of_eq (Play.outcome_pumpUpTo_cons depth hq count)
      apply Play.ensures_bind
      refine Play.ensures_imp (hrest.handle hw depth event) ?_ fun _ t ht => ht.1
      intro _ t ht
      exact Play.ensures_bind (Play.ensures_imp (ih ht)
        (fun handled u hu => Play.ensures_of_ok rfl hu) fun _ _ => id)

/-! ## Sessions -/

/-- **The start does not fail**: the first stage waits for its assets, or is known at once. -/
theorem Session.InPlay.start (depth : Nat) (id id' : Uuid) :
    (Play.start depth id' w).ensures (fun _ t => t.InPlay w arrows) (fun _ _ => False)
      (.withArrows id arrows) := by
  obtain ⟨first, hfirst, -⟩ := bind_eq_ok_iff.1 hw.valid
  have hbase : first ∈ w.base := World.mem_base_iff.2 hfirst
  have horderly : (((withArrows id arrows).begun id' w).requested first.id).Orderly w arrows :=
    orderly_begun hfirst
  have hground : (((withArrows id arrows).begun id' w).requested first.id).Grounded :=
    (grounded_begun _ id' w).congr rfl rfl rfl
  have hfound : (((withArrows id arrows).begun id' w).requested first.id).stage first.id =
      .ok first := horderly.stage.2 (World.stage?_of_mem_base hbase)
  have hstage : ((withArrows id arrows).begun id' w).stage first.id = .ok first := hfound
  have houtcome := Play.outcome_start (withArrows id arrows) depth id' w
  rw [hw.valid, hfirst] at houtcome
  simp only [Play.outcome_loadStage, hstage] at houtcome
  -- With assets the session waits for them, and without it is ready at once.
  cases hneeds : first.needsPreload with
  | true =>
    rw [hneeds, if_pos rfl] at houtcome
    refine Play.ensures_of_ok houtcome ⟨hground.congr rfl rfl rfl, .inl ⟨?_, rfl, rfl, rfl, ?_⟩⟩
    · refine horderly.step (extends_preloading _ first) rfl .inl (fun _ he => .inl he)
        fun e he => .inr ?_
      obtain rfl := List.mem_singleton.1 he
      exact ⟨first, World.stage?_of_mem_base hbase⟩
    · intro e he
      obtain rfl := List.mem_singleton.1 he
      exact ⟨first, hbase, rfl⟩
  | false =>
    rw [hneeds] at houtcome
    exact Play.ensures_of_eq houtcome (horderly.open_first hw hground hfound hbase depth)

theorem Session.InPlay.call (h : s.InPlay w arrows) (depth : Nat) {c : Call} (hc : c.Delivers) :
    (c.play depth).ensures (fun _ t => t.InPlay w arrows) (fun _ t => t.InPlay w arrows) s := by
  cases c with
  | handle event =>
    exact Play.ensures_imp (h.handle hw depth event) (fun _ _ => id) fun _ _ => And.left
  | goToScene id => exact hc.elim
  | loadStage id => exact hc.elim
  | execute script => exact hc.elim
  | post event =>
    exact Play.ensures_of_ok rfl (h.congr rfl rfl rfl rfl rfl rfl)
  | pump =>
    refine Play.ensures_of_eq (q := do let _ ← Play.pumpUpTo depth s.queue.length) (t := s) ?_
      (Play.ensures_bind (Play.ensures_imp (h.pumpUpTo hw depth s.queue.length)
        (fun _ t ht => Play.ensures_of_ok rfl ht) fun _ _ => id))
    simp only [Call.play, Play.pump, Play.outcome_bind, Play.outcome_get, Play.andThen_ok]
  | takeBatches | takeTimers =>
    exact Play.ensures_of_ok rfl (h.congr rfl rfl rfl rfl rfl rfl)

theorem Played.inPlay (h : Played (fun _ c => c.Delivers) arrows w s) : s.InPlay w arrows := by
  induction h with
  | @start depth id id' r t h =>
    have hstart := Session.InPlay.start hw depth id id'
    cases r with
    | ok =>
      have ht := Play.ensures_ok hstart h
      exact ht
    | error e => exact (Play.ensures_error hstart h).elim
  | @call s t c depth r hs hc h ih =>
    have hcall := ih.call hw depth hc
    cases r with
    | ok =>
      have ht := Play.ensures_ok hcall h
      exact ht
    | error e =>
      have ht := Play.ensures_error hcall h
      exact ht

/-- **Well-formed worlds never fail.**  The start of such a world never ends with an error.  In
every session that was started with it once, whatever events were delivered since, in whatever
order, an event ends with an error only if it is refused before any script runs; and the events that
can happen are not refused.  What has no answer is left out: scripts that are nested deeper than
`depth`. -/
theorem Played.never_fails :
    (∀ depth id id' e t,
      (Play.start depth id' w).outcome (.withArrows id arrows) ≠ some (.error e, t)) ∧
      ∀ {s}, Played (fun _ c => c.Delivers) arrows w s →
        ∀ depth event e t, (Play.handle depth event).outcome s = some (.error e, t) →
          s.Refuses event e ∧ ¬s.Expects event := by
  constructor
  · intro depth id id' e t h
    exact Play.ensures_error (Session.InPlay.start hw depth id id') h
  · intro s hs depth event e t h
    have hplay : s.InPlay w arrows := hs.inPlay hw
    have hr : s.Refuses event e := (Play.ensures_error (hplay.handle hw depth event) h).2
    refine ⟨hr, fun he => ?_⟩
    rcases hplay.phase with hwaiting | hready
    · exact hwaiting.not_refuses hw he hr
    · exact hready.not_refuses hw he hr

end Phases

/-! ## An example -/

/-- A world with a well, whose rope opens a cellar by a code.  The cellar waits for the wind of the
first stage, inherits the rope, and has it pulled once more after a while. -/
def World.well : World where
  stages := [
    { id := "yard"
      audio := .ofList [("wind", ["wind.ogg"])]
      scenes := [
        { id := "well"
          hotspots := [⟨"rope", .ofInt 0, .ofInt 0, .ofInt 1, .ofInt 1⟩]
          interactive := .ofList [("rope", [.new (.runProcedure "pull")])]
          procedures := .ofList [("pull", [.new (.enterCode (some "lock") "sesame")])]
          entryActions := [.new (.setMusic (some "wind") none)] }] },
    { id := "cellar"
      scenes := [
        { id := "dark"
          inherits := some "well"
          interactive := .ofList [("left", [.new (.goToScene "well")])]
          entryActions := [.new (.delayed (.ofInt 500) [.new (.runProcedure "pull")])] }]
      loadActions := [.new (.goToScene "dark")] }]
  puzzles := .ofList [("lock", { code := some "sesame", stage := some "cellar" })]
  parameters := { rediscoveredActions := [.new (.playAudio "wind" none)] }

set_option maxRecDepth 4096 in
theorem World.well_wellFormed : World.well.WellFormed ["left"] where
  valid := rfl
  distinct := by
    unfold DistinctScenes
    decide
  scripts := by decide
  defaults := by decide
  objects := by decide
  bases := by decide
  laterBases := by decide
  solutions := by decide

set_option maxRecDepth 4096 in
/-- After the assets of the yard have arrived and the rope was pulled, the timer of the cellar waits,
and its script does not fail. -/
theorem never_fails_well :
    World.well.WellFormed ["left"] ∧
      ∃ s, Played (fun _ c => c.Delivers) ["left"] .well s ∧
        s.Expects (.timerFired (.issued 0)) ∧
        ∀ depth e t, (Play.handle depth (.timerFired (.issued 0))).outcome s ≠ some (.error e, t) := by
  have hstart := @Played.start (fun _ c => c.Delivers) ["left"] .well 1 (.ofNat 0) (.ofNat 1) _ _ rfl
  have harrived := @Played.call _ _ _ _ _ (.handle (.assetsReady (.issued 0))) 2 _ hstart trivial rfl
  have hpulled := @Played.call _ _ _ _ _ (.handle (.objectClicked "rope")) 5 _ harrived trivial rfl
  refine ⟨World.well_wellFormed, _, hpulled, rfl, ?_⟩
  intro depth e t h
  exact ((Played.never_fails World.well_wellFormed).2 hpulled depth _ e t h).2 rfl

end Adventure
