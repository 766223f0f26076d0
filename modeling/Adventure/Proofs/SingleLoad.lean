import Adventure.Proofs.Sessions

/-!
# Each stage is loaded once

A code loads a stage only if the stage was not loaded before, and a stage counts as loaded from the
moment it is asked for.  So, as long as the surroundings load no stage by themselves, a stage is
asked for once, however the scripts, the codes and the batches of other stages come in between.

What a stage has come to is read off the log, and how often the loading indicator was shown off the
cues.

## Main definitions

* `Note.isRequest`, `Note.isPreload`, `Note.isOpening`: the lines of the log about a stage
* `Session.LoadsOnce`: how often each of them was written

## Main results

* `Move.loadsOnce`, `Halt.loadsOnce`: every step keeps the counts
* `Played.stages_load_once`: the counts in every session
-/

namespace Adventure

open Session

/-! ## What is counted -/

namespace Note

/-- A stage was asked for. -/
def isRequest (id : String) : Note → Bool
  | stageRequested stage => stage == id
  | _ => false

/-- A batch was started for a stage. -/
def isPreload (id : String) : Note → Bool
  | stagePreloading stage _ => stage == id
  | _ => false

/-- A stage became known, and its load actions were begun. -/
def isOpening (id : String) : Note → Bool
  | stageMaterialized stage => stage == id
  | _ => false

end Note

/-- The loading indicator is shown. -/
def Cue.isShowLoading : Cue → Bool
  | showLoading => true
  | _ => false

/-- How often the stages that wait for a batch are a given one. -/
def Session.waitingFor (s : Session) (id : String) : Nat :=
  s.pendingLoads.countP fun e => e.2 == id

/-- **Each stage is loaded once.**  It is asked for once if it counts as loaded, and otherwise not at
all; a batch is started for it, it waits for the batch, and it becomes known, at most once for that
request. -/
structure Session.LoadsOnce (s : Session) : Prop where
  requested : ∀ id, s.notes.countP (Note.isRequest id) = if s.player.hasLoaded id then 1 else 0
  preloaded : ∀ id, s.notes.countP (Note.isPreload id) ≤ s.notes.countP (Note.isRequest id)
  opened : ∀ id, s.notes.countP (Note.isOpening id) + s.waitingFor id ≤
    s.notes.countP (Note.isRequest id)
  indicated : s.display.cues.countP Cue.isShowLoading = s.player.loadedStages.size

variable {P : Policy} {s t : Session} {e : Error}

/-- The counts do not change with what else is in the log and in the cues. -/
theorem Session.LoadsOnce.congr (h : s.LoadsOnce)
    (hn : ∀ p : Note → Bool, (∀ scene first, p (.sceneEntered scene first) = false) →
      t.notes.countP p = s.notes.countP p)
    (hl : t.player.loadedStages = s.player.loadedStages) (hw : t.pendingLoads = s.pendingLoads)
    (hc : t.display.cues.countP Cue.isShowLoading = s.display.cues.countP Cue.isShowLoading) :
    t.LoadsOnce := by
  have hr : ∀ id, t.notes.countP (Note.isRequest id) = s.notes.countP (Note.isRequest id) := by
    intro id
    exact hn _ fun _ _ => rfl
  have hp : ∀ id, t.notes.countP (Note.isPreload id) = s.notes.countP (Note.isPreload id) := by
    intro id
    exact hn _ fun _ _ => rfl
  have ho : ∀ id, t.notes.countP (Note.isOpening id) = s.notes.countP (Note.isOpening id) := by
    intro id
    exact hn _ fun _ _ => rfl
  constructor
  · intro id
    rw [hr, Player.hasLoaded, hl]
    exact h.requested id
  · intro id
    rw [hr, hp]
    exact h.preloaded id
  · intro id
    rw [hr, ho, waitingFor, hw]
    exact h.opened id
  · rw [hc, hl]
    exact h.indicated

/-! ## The cues about the loading indicator -/

theorem countP_foldl_perform (p : Cue → Bool) (cues : List Cue) (d : Display) :
    (cues.foldl Display.perform d).cues.countP p = d.cues.countP p + cues.countP p := by
  induction cues generalizing d with
  | nil => rfl
  | cons c cues ih =>
    have hc : (d.perform c).cues = d.cues.push c := rfl
    rw [List.foldl_cons, ih, hc, Array.countP_push, List.countP_cons]
    omega

/-- Cues about other parts do not show the loading indicator. -/
theorem countP_isShowLoading_of_about {parts : List Part} {cues : List Cue}
    (h : Cue.About parts cues) (hp : .loading ∉ parts) : cues.countP Cue.isShowLoading = 0 := by
  refine List.countP_eq_zero.2 fun c hc hshow => hp (h c hc .loading ?_)
  cases c <;> first | rfl | cases hshow

theorem Session.Cues.showLoading {parts : List Part} (h : s.Cues parts t)
    (hp : .loading ∉ parts) :
    t.display.cues.countP Cue.isShowLoading = s.display.cues.countP Cue.isShowLoading := by
  obtain ⟨cues, ht, habout⟩ := h
  rw [ht, countP_foldl_perform, countP_isShowLoading_of_about habout hp, Nat.add_zero]

/-- The indicator is hidden at the end of a load, not shown. -/
theorem showLoading_finished (s : Session) (stage : Stage) (scenes : List Scene) :
    (s.finished stage scenes).display.cues.countP Cue.isShowLoading =
      s.display.cues.countP Cue.isShowLoading := by
  have hcreation : (s.catalog.creationCues scenes).countP Cue.isShowLoading = 0 :=
    countP_isShowLoading_of_about (about_creationCues s.catalog scenes) (by simp)
  have hending : s.endingCues.countP Cue.isShowLoading = 0 := by
    unfold endingCues
    split <;> rfl
  rw [display_finished, countP_foldl_perform, List.countP_append, hcreation, hending]
  rfl

/-! ## Loading -/

/-- Of a stage that does not count as loaded there is no trace. -/
theorem Session.LoadsOnce.untouched (h : s.LoadsOnce) {id : String}
    (hl : s.player.hasLoaded id = false) :
    s.notes.countP (Note.isRequest id) = 0 ∧ s.notes.countP (Note.isPreload id) = 0 ∧
      s.notes.countP (Note.isOpening id) = 0 ∧ s.waitingFor id = 0 := by
  have hr := h.requested id
  have hp := h.preloaded id
  have ho := h.opened id
  rw [hl] at hr
  simp only [Bool.false_eq_true, if_false] at hr
  omega

theorem countP_requested (s : Session) (id : String) (p : Note → Bool) :
    (s.requested id).notes.countP p =
      s.notes.countP p + if p (.stageRequested id) then 1 else 0 :=
  Array.countP_push

theorem countP_preloading (s : Session) (stage : Stage) (p : Note → Bool) :
    (s.preloading stage).notes.countP p =
      s.notes.countP p + if p (.stagePreloading stage.id s.batchCount) then 1 else 0 :=
  Array.countP_push

theorem countP_finished (s : Session) (stage : Stage) (scenes : List Scene) (p : Note → Bool) :
    (s.finished stage scenes).notes.countP p =
      s.notes.countP p + if p (.stageMaterialized stage.id) then 1 else 0 :=
  Array.countP_push

/-- A stage is asked for; now it may wait for a batch, or become known, once. -/
theorem Session.LoadsOnce.request (h : s.LoadsOnce) {id : String}
    (hl : s.player.hasLoaded id = false) :
    (s.requested id).LoadsOnce ∧
      (s.requested id).notes.countP (Note.isPreload id) <
        (s.requested id).notes.countP (Note.isRequest id) ∧
      (s.requested id).notes.countP (Note.isOpening id) + (s.requested id).waitingFor id <
        (s.requested id).notes.countP (Note.isRequest id) := by
  obtain ⟨hr, hp, ho, hw⟩ := h.untouched hl
  have hw' : ∀ other, (s.requested id).waitingFor other = s.waitingFor other := by
    intro _
    rfl
  refine ⟨⟨?_, ?_, ?_, ?_⟩, ?_, ?_⟩
  · intro other
    have hloaded : (s.requested id).player.hasLoaded other =
        (decide (other = id) || s.player.hasLoaded other) := Names.contains_add _ id other
    rw [countP_requested, hloaded]
    by_cases heq : other = id
    · subst heq
      simp [hr, Note.isRequest]
    · simp [heq, Ne.symm heq, h.requested other, Note.isRequest]
  · intro other
    rw [countP_requested, countP_requested]
    exact Nat.le_add_right_of_le (h.preloaded other)
  · intro other
    rw [countP_requested, countP_requested, hw']
    exact Nat.le_add_right_of_le (h.opened other)
  · -- The mark is new, as the cue is.
    have hcontains : s.player.loadedStages.contains id = false := hl
    have hsize : (s.requested id).player.loadedStages.size = s.player.loadedStages.size + 1 := by
      refine (Table.size_insert s.player.loadedStages id ()).trans ?_
      rw [hcontains]
      rfl
    have hcues : (s.requested id).display.cues = s.display.cues.push .showLoading := rfl
    rw [hsize, hcues, Array.countP_push, h.indicated]
    rfl
  · rw [countP_requested, countP_requested, hr, hp]
    simp [Note.isPreload, Note.isRequest]
  · rw [countP_requested, countP_requested, hw', hr, ho, hw]
    simp [Note.isOpening, Note.isRequest]

theorem Session.LoadsOnce.preloading (h : s.LoadsOnce) {stage : Stage}
    (hp : s.notes.countP (Note.isPreload stage.id) < s.notes.countP (Note.isRequest stage.id))
    (ho : s.notes.countP (Note.isOpening stage.id) + s.waitingFor stage.id <
      s.notes.countP (Note.isRequest stage.id)) : (s.preloading stage).LoadsOnce := by
  have hw : ∀ id, (s.preloading stage).waitingFor id =
      s.waitingFor id + if stage.id = id then 1 else 0 := by
    intro id
    simp [waitingFor, Session.preloading]
  constructor
  · intro id
    rw [countP_preloading]
    exact h.requested id
  · intro id
    rw [countP_preloading, countP_preloading]
    by_cases heq : stage.id = id
    · subst heq
      simpa [Note.isPreload, Note.isRequest] using Nat.succ_le_of_lt hp
    · simpa [Note.isPreload, Note.isRequest, heq] using h.preloaded id
  · intro id
    rw [countP_preloading, countP_preloading, hw]
    by_cases heq : stage.id = id
    · subst heq
      simpa [Note.isOpening, Note.isRequest, ← Nat.add_assoc] using Nat.succ_le_of_lt ho
    · simpa [Note.isOpening, Note.isRequest, heq] using h.opened id
  · rw [(cues_preloading s stage).showLoading (by simp)]
    exact h.indicated

theorem Session.LoadsOnce.finished (h : s.LoadsOnce) {stage : Stage}
    (ho : s.notes.countP (Note.isOpening stage.id) + s.waitingFor stage.id <
      s.notes.countP (Note.isRequest stage.id)) (scenes : List Scene) :
    (s.finished stage scenes).LoadsOnce := by
  have hw : ∀ id, (s.finished stage scenes).waitingFor id = s.waitingFor id := by
    intro _
    rfl
  constructor
  · intro id
    rw [countP_finished]
    exact h.requested id
  · intro id
    rw [countP_finished, countP_finished]
    exact h.preloaded id
  · intro id
    rw [countP_finished, countP_finished, hw]
    by_cases heq : stage.id = id
    · subst heq
      simp only [Note.isOpening, Note.isRequest, BEq.rfl, if_true, Bool.false_eq_true, if_false]
      omega
    · simpa [Note.isOpening, Note.isRequest, heq] using h.opened id
  · rw [showLoading_finished]
    exact h.indicated

/-- When a batch has arrived, its stage may become known. -/
theorem Session.LoadsOnce.report (h : s.LoadsOnce) {batch : Ticket} {id : String}
    (hb : waiting? batch s.pendingLoads = some id) :
    (s.reported batch).LoadsOnce ∧
      s.notes.countP (Note.isOpening id) + (s.reported batch).waitingFor id <
        s.notes.countP (Note.isRequest id) := by
  obtain ⟨serial, rfl, hmem⟩ := mem_of_waiting? hb
  have hw : ∀ other, (s.reported (.issued serial)).waitingFor other ≤ s.waitingFor other := by
    intro other
    exact List.Sublist.countP_le List.filter_sublist
  -- The entry of the batch itself is gone.
  have hlt : (s.reported (.issued serial)).waitingFor id < s.waitingFor id := by
    have hsplit := List.countP_eq_countP_filter_add s.pendingLoads (fun e => e.2 == id)
      fun e => e.1 != serial
    have hpos : 0 < (s.pendingLoads.filter fun e => !(e.1 != serial)).countP
        fun e => e.2 == id :=
      List.countP_pos_iff.2 ⟨(serial, id), List.mem_filter.2 ⟨hmem, by simp⟩, by simp⟩
    have hrest : (s.reported (.issued serial)).waitingFor id =
      (s.pendingLoads.filter fun e => e.1 != serial).countP fun e => e.2 == id := rfl
    rw [hrest, waitingFor, hsplit]
    exact Nat.lt_add_of_pos_right hpos
  refine ⟨⟨h.requested, h.preloaded, ?_, h.indicated⟩, ?_⟩
  · intro other
    exact Nat.le_trans (Nat.add_le_add_left (hw other) _) (h.opened other)
  · have hopened := h.opened id
    omega

/-! ## Steps -/

/-- A stage is asked for only if it does not count as loaded. -/
theorem Asked.fresh {stage : String}
    (hP : ∀ {s id}, P.loads s id → s.player.hasLoaded id = false) (h : Asked P s stage t)
    (hs : s.LoadsOnce) : t.LoadsOnce ∧ t.player.hasLoaded stage = false := by
  have hc := h.cues.showLoading (by simp)
  cases h with
  | direct h => exact ⟨hs, hP h⟩
  | code hp ht hmem h => exact ⟨hs.congr (fun _ _ => rfl) rfl rfl hc, h⟩

theorem Move.loadsOnce (hP : ∀ {s id}, P.loads s id → s.player.hasLoaded id = false)
    (h : Move P s t) (hs : s.LoadsOnce) : t.LoadsOnce := by
  cases h with
  | enter =>
    refine hs.congr ?_ rfl rfl ((cues_changed s _ _ _).showLoading (by simp))
    intro p hp
    -- The one new line is about the scene.
    refine Array.countP_push.trans ?_
    rw [hp]
    rfl
  | hide => exact hs.congr (fun _ _ => rfl) rfl rfl ((cues_hidden s false).showLoading (by simp))
  | notice => exact hs.congr (fun _ _ => rfl) rfl rfl ((cues_noticed s _).showLoading (by simp))
  | block =>
    exact hs.congr (fun _ _ => rfl) rfl rfl ((cues_blocked s _ _ _).showLoading (by simp))
  | @close plan =>
    have hcues := (cues_noticeClosed s).trans (cues_shown _ plan)
    exact hs.congr (fun _ _ => rfl) rfl rfl (hcues.showLoading (by simp))
  | @answer scripts hp plan =>
    have hcues := (cues_answered s).trans (cues_shown _ plan)
    exact hs.congr (fun _ _ => rfl) rfl rfl (hcues.showLoading (by simp))
  | tune => exact hs.congr (fun _ _ => rfl) rfl rfl ((cues_tuned s _).showLoading (by simp))
  | schedule =>
    exact hs.congr (fun _ _ => rfl) rfl rfl ((cues_scheduled s _ _).showLoading (by simp))
  | @preload id stage u h hstage =>
    obtain ⟨hu, hfresh⟩ := h.fresh hP hs
    obtain ⟨hrequested, hp, ho⟩ := hu.request hfresh
    have hid : stage.id = id := stage_id hstage
    exact hrequested.preloading (by rwa [hid]) (by rwa [hid])
  | @load id stage scenes u h hstage =>
    obtain ⟨hu, hfresh⟩ := h.fresh hP hs
    obtain ⟨hrequested, -, ho⟩ := hu.request hfresh
    have hid : stage.id = id := stage_id hstage
    exact hrequested.finished (by rwa [hid]) scenes
  | @complete batch id stage scenes h hstage =>
    obtain ⟨hreported, ho⟩ := hs.report h
    have hid : stage.id = id := stage_id hstage
    exact hreported.finished (by rwa [hid]) scenes
  | assign | increment | fire | queue | reportBatches | reportTimers =>
    exact hs.congr (fun _ _ => rfl) rfl rfl rfl
  | fade | swell | play | stop | redirect | clear =>
    refine hs.congr (fun _ _ => rfl) rfl rfl ?_
    simp [cued, Display.perform, Cue.isShowLoading]

theorem Halt.loadsOnce (hP : ∀ {s id}, P.loads s id → s.player.hasLoaded id = false)
    (h : Halt P s e t) (hs : s.LoadsOnce) : t.LoadsOnce := by
  cases h with
  | reject => exact hs
  | strand => exact hs.congr (fun _ _ => rfl) rfl rfl ((cues_stranded s _).showLoading (by simp))
  | close =>
    exact hs.congr (fun _ _ => rfl) rfl rfl ((cues_noticeClosed s).showLoading (by simp))
  | answer => exact hs.congr (fun _ _ => rfl) rfl rfl ((cues_answered s).showLoading (by simp))
  | unstaged h => exact (h.fresh hP hs).1
  | unresolved h =>
    obtain ⟨hu, hfresh⟩ := h.fresh hP hs
    exact (hu.request hfresh).1
  | incomplete h => exact (hs.report h).1

/-! ## Sessions -/

theorem Session.LoadsOnce.of_notes_eq_empty (hn : s.notes = #[])
    (hl : s.player.loadedStages = ∅) (hw : s.pendingLoads = [])
    (hc : s.display.cues.countP Cue.isShowLoading = 0) : s.LoadsOnce := by
  constructor
  · intro id
    rw [hn, Player.hasLoaded, hl]
    rfl
  · intro id
    rw [hn]
    exact Nat.le_refl _
  · intro id
    rw [hn, waitingFor, hw]
    exact Nat.le_refl _
  · rw [hc, hl]
    rfl

theorem Played.loadsOnce {arrows : List String} {world : World}
    (h : Played (fun _ c => ∀ id, c ≠ .loadStage id) arrows world s) : s.LoadsOnce := by
  let fresh : Session → String → Prop := fun s id => s.player.hasLoaded id = false
  have k : Keeps (.free fresh) LoadsOnce fun _ => LoadsOnce :=
    .free (fun _ hI hm => hm.loadsOnce id hI) fun _ hI hh => hh.loadsOnce id hI
  have h' : Played (fun s c => c.Permitted (.free fresh) s) arrows world s :=
    h.mono fun _ c hc => c.permitted_free fun id heq => absurd heq (hc id)
  refine (k.played (fun _ _ => id) ?_ ?_ id h').2
  · intro id
    exact .of_notes_eq_empty rfl rfl rfl rfl
  · intro id id'
    exact .of_notes_eq_empty rfl rfl rfl
      ((cues_begun (withArrows id arrows) id' world).showLoading (by simp))

/-- **Each stage is loaded at most once**, whatever is submitted, and in whatever order batches and
timers come to their end, as long as the surroundings load no stage by themselves: it is asked for
at most once, as often as the loading indicator was shown; at most one batch is started for it, and
it becomes known and its load actions are begun at most once.  The stages that wait for a batch are
distinct and count as loaded. -/
theorem Played.stages_load_once {arrows : List String} {world : World}
    (h : Played (fun _ c => ∀ id, c ≠ .loadStage id) arrows world s) :
    (∀ id, s.notes.countP (Note.isRequest id) = if s.player.hasLoaded id then 1 else 0) ∧
      s.display.cues.countP Cue.isShowLoading = s.player.loadedStages.size ∧
      (∀ id, s.notes.countP (Note.isPreload id) ≤ 1) ∧
      (∀ id, s.notes.countP (Note.isOpening id) ≤ 1) ∧
      (s.pendingLoads.map Prod.snd).Nodup ∧
      ∀ id ∈ s.pendingLoads.map Prod.snd, s.player.hasLoaded id = true := by
  have hs := h.loadsOnce
  -- Whatever is at most one for each request is at most one.
  have hone : ∀ id, s.notes.countP (Note.isRequest id) ≤ 1 := by
    intro id
    rw [hs.requested id]
    split <;> omega
  have hcount : ∀ id, (s.pendingLoads.map Prod.snd).count id = s.waitingFor id := by
    intro id
    rw [List.count, List.countP_map]
    rfl
  refine ⟨hs.requested, hs.indicated, ?_, ?_, ?_, ?_⟩
  · intro id
    exact Nat.le_trans (hs.preloaded id) (hone id)
  · intro id
    have := hs.opened id
    have := hone id
    omega
  · refine List.nodup_iff_count.2 fun id => ?_
    have := hs.opened id
    have := hone id
    rw [hcount]
    omega
  · intro id hid
    -- A stage that waits was asked for, so it counts as loaded.
    have hpos : 0 < s.waitingFor id := hcount id ▸ List.count_pos_iff.2 hid
    have hopened := hs.opened id
    have hrequested := hs.requested id
    cases hl : s.player.hasLoaded id with
    | true => rfl
    | false =>
      rw [hl] at hrequested
      simp only [Bool.false_eq_true, if_false] at hrequested
      omega

/-- The keep behind the gate is loaded by its code, and waits for its picture. -/
theorem stages_load_once_gate :
    ∃ s, Played (fun _ c => ∀ id, c ≠ .loadStage id) ["left"] .gate s ∧
      s.pendingLoads = [(0, "keep")] ∧ s.display.cues.countP Cue.isShowLoading = 2 := by
  have hplayed := @Played.call (fun _ c => ∀ id, c ≠ .loadStage id) ["left"] .gate _ _
    (.handle (.codeSubmitted "sesame")) 3 _ (@Played.start _ _ _ 3 (.ofNat 0) (.ofNat 1) _ _ rfl)
    (fun id => nofun) rfl
  exact ⟨_, hplayed, rfl, hplayed.stages_load_once.2.1.trans rfl⟩

end Adventure
