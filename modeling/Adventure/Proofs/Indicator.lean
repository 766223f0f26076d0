import Adventure.Proofs.LoadLedger
import Adventure.Proofs.Steps

/-!
# The loading indicator

The indicator is shown when a stage is asked for and hidden when a stage has become known while none
waits for its assets.  A stage that cannot be made known is on neither side: the step fails before
the indicator is looked at.  So an indicator that nothing will hide is what such a step leaves
behind, until the next stage is asked for.

## Main definitions

* `Session.Lit`: the indicator is shown while a stage waits
* `Session.Hung`: the indicator is shown, and no stage waits
* `Session.Signals`: what a step does about stages and the indicator
* `Session.Stalls`: steps in which no stage becomes known or comes to wait
* `World.attic`: a world whose first stage cannot be made known

## Main results

* `Session.Step.signals`: every step is of this kind
* `Underway.lit`: whatever waits, waits under the indicator
* `Played.hung_iff`: when the indicator is shown though no stage waits
-/

namespace Adventure

open Session

namespace Session

variable {s t u : Session} {id : String} {stage : Stage} {scenes : List Scene}

/-- The indicator is shown while a stage waits for its assets. -/
def Lit (s : Session) : Prop := s.pendingLoads ≠ [] → s.display.loading = true

/-- The indicator is shown, and no stage waits for its assets. -/
structure Hung (s : Session) : Prop where
  loading : s.display.loading = true
  idle : s.pendingLoads = []

/-- What a step does about stages and the indicator: nothing, or a stage comes to wait under the
indicator, or one becomes known, or one cannot be made known. -/
inductive Signals (s : Session) : Session → Prop where
  | quiet {t : Session} (h : s.Quiet t) (hl : t.display.loading = s.display.loading) : Signals s t
  | wait {t : Session} (hl : t.display.loading = true) (hp : t.pendingLoads ≠ [])
      (hb : t.batchCount ≠ s.batchCount) (hu : ∀ id, t.unsettled id = s.unsettled id) : Signals s t
  | known {t : Session} (id : String) (hl : t.display.loading = true ↔ t.pendingLoads ≠ [])
      (ho : t.openings id ≠ s.openings id) (hu : ∀ id, t.unsettled id = s.unsettled id) :
      Signals s t
  | fail {t : Session} (id : String) (hl : t.display.loading = true)
      (hb : t.batchCount = s.batchCount) (ho : ∀ id, t.openings id = s.openings id)
      (hp : s.pendingLoads = [] → t.pendingLoads = [])
      (hu : t.unsettled id = s.unsettled id + 1)
      (hmono : ∀ other, s.unsettled other ≤ t.unsettled other) : Signals s t

/-- Cues about other parts of the display are no signals. -/
theorem Signals.of_cues {parts : List Part} (h : s.Quiet t) (hcues : s.Cues parts t)
    (hp : .loading ∉ parts) : s.Signals t :=
  .quiet h (hcues.loading hp)

/-- **The end of a load** hides the indicator unless a stage waits. -/
theorem loading_finished (s : Session) (stage : Stage) (scenes : List Scene) :
    (s.finished stage scenes).display.loading =
      (s.display.loading && !s.pendingLoads.isEmpty) := by
  have hcreated : (s.learned scenes stage.audio).display.loading = s.display.loading :=
    (cues_cued (s := s.withCatalog _) (about_creationCues s.catalog scenes)).loading (by simp)
  cases hempty : s.pendingLoads.isEmpty with
  | true =>
    have hcues : s.endingCues = [.hideLoading] := if_pos hempty
    rw [finished, hcues, Bool.not_true, Bool.and_false]
    rfl
  | false =>
    have hcues : s.endingCues = [] := if_neg (by simp [hempty])
    rw [finished, hcues, Bool.not_false, Bool.and_true]
    exact hcreated

theorem Lit.finished (h : s.Lit) :
    (s.finished stage scenes).display.loading = true ↔ s.pendingLoads ≠ [] := by
  rw [loading_finished, Bool.and_eq_true, Bool.not_eq_true', List.isEmpty_eq_false_iff]
  exact ⟨And.right, fun hp => ⟨h hp, hp⟩⟩

theorem loading_requested (s : Session) (id : String) :
    (s.requested id).display.loading = true := rfl

/-- A stage that has come to wait was asked for under the indicator. -/
theorem loading_preloading (s : Session) (id : String) (stage : Stage) :
    ((s.requested id).preloading stage).display.loading = true :=
  ((cues_preloading (s.requested id) stage).loading (by simp)).trans (loading_requested s id)

/-- What a batch leaves waiting waited before. -/
theorem pendingLoads_reported_of_eq_nil (batch : Ticket) (h : s.pendingLoads = []) :
    (s.reported batch).pendingLoads = [] := by
  cases batch <;> simp [reported, dropWaiting, h]

theorem Lit.reported (h : s.Lit) (batch : Ticket) : (s.reported batch).Lit := by
  intro hp
  exact h fun hnil => hp (pendingLoads_reported_of_eq_nil batch hnil)

/-- A stage that was asked for cannot be made known. -/
theorem Ledger.signals_requested (hs : s.Ledger) (h : s.Quiet t) (hstage : t.stage id = .ok stage) :
    s.Signals (t.requested id) := by
  obtain ⟨-, hcount⟩ := hs.ask h hstage
  refine .fail id (loading_requested t id) h.batchCount ?_ ?_ (by simp [hcount]) ?_
  · intro other
    rw [openings_requested, h.openings]
  · intro hnil
    exact h.pendingLoads.trans hnil
  · intro other
    rw [hcount]
    exact Nat.le_add_right _ _

/-- A stage whose assets have arrived cannot be made known. -/
theorem Ledger.signals_reported (hs : s.Ledger) (hl : s.Lit) {batch : Ticket}
    (h : waiting? batch s.pendingLoads = some id) : s.Signals (s.reported batch) := by
  obtain ⟨-, hcount⟩ := hs.report h
  have hwaits : s.pendingLoads ≠ [] := by
    obtain ⟨serial, -, hmem⟩ := mem_of_waiting? h
    exact List.ne_nil_of_mem hmem
  refine .fail id (hl hwaits) rfl (fun _ => rfl) (pendingLoads_reported_of_eq_nil batch)
    (by simp [hcount]) ?_
  intro other
  rw [hcount]
  exact Nat.le_add_right _ _

end Session

section

variable {P : Policy} {s t u : Session} {e : Error}

theorem Move.signals (hs : s.Ledger) (hl : s.Lit) (h : Move P s t) : s.Signals t := by
  -- A request that a step takes up is settled by it.
  obtain ⟨-, hu⟩ := h.loads.ledger hs
  cases h with
  | @preload id stage u hasked =>
    refine .wait (loading_preloading u id stage) (by simp [preloading]) ?_ hu
    have hcount : ((u.requested id).preloading stage).batchCount = s.batchCount + 1 :=
      congrArg (· + 1) hasked.quiet.batchCount
    omega
  | @load id stage scenes u hasked =>
    have hlit : (u.requested id).Lit := fun _ => loading_requested u id
    refine .known stage.id hlit.finished ?_ hu
    rw [openings_finished, openings_requested, hasked.quiet.openings, if_pos rfl]
    omega
  | @complete batch id stage scenes =>
    refine .known stage.id (hl.reported batch).finished ?_ hu
    have hopened := openings_finished (s.reported batch) stage.id stage scenes
    rw [if_pos rfl] at hopened
    rw [hopened]
    exact Nat.succ_ne_self _
  | enter => exact .of_cues (quiet_entered s _ _ _) (cues_changed s _ _ _) (by simp)
  | hide => exact .of_cues ⟨rfl, rfl, rfl, rfl, rfl, fun _ _ => rfl⟩ (cues_hidden s false) (by simp)
  | notice text =>
    exact .of_cues ⟨rfl, rfl, rfl, rfl, rfl, fun _ _ => rfl⟩ (cues_noticed s text) (by simp)
  | block text =>
    exact .of_cues ⟨rfl, rfl, rfl, rfl, rfl, fun _ _ => rfl⟩ (cues_blocked s text _ _) (by simp)
  | close =>
    exact .of_cues ⟨rfl, rfl, rfl, rfl, rfl, fun _ _ => rfl⟩
      ((cues_noticeClosed s).trans (cues_shown _ _)) (by simp)
  | answer =>
    exact .of_cues ⟨rfl, rfl, rfl, rfl, rfl, fun _ _ => rfl⟩
      ((cues_answered s).trans (cues_shown _ _)) (by simp)
  | tune =>
    exact .of_cues ⟨rfl, rfl, rfl, rfl, rfl, fun _ _ => rfl⟩ (cues_tuned s _) (by simp)
  | fade | swell | play | stop | redirect | assign | increment | schedule | fire | clear | queue
  | reportBatches | reportTimers =>
    exact .quiet ⟨rfl, rfl, rfl, rfl, rfl, fun _ _ => rfl⟩ rfl

theorem Halt.signals (hs : s.Ledger) (hl : s.Lit) (h : Halt P s e t) : s.Signals t := by
  cases h with
  | unresolved h hstage => exact hs.signals_requested h.quiet hstage
  | incomplete h => exact hs.signals_reported hl h
  | reject => exact .quiet ⟨rfl, rfl, rfl, rfl, rfl, fun _ _ => rfl⟩ rfl
  | unstaged h => exact .of_cues h.quiet h.cues (by simp)
  | strand =>
    exact .of_cues ⟨rfl, rfl, rfl, rfl, rfl, fun _ _ => rfl⟩ (cues_stranded s _) (by simp)
  | close =>
    exact .of_cues ⟨rfl, rfl, rfl, rfl, rfl, fun _ _ => rfl⟩ (cues_noticeClosed s) (by simp)
  | answer => exact .of_cues ⟨rfl, rfl, rfl, rfl, rfl, fun _ _ => rfl⟩ (cues_answered s) (by simp)

/-- **Each step** leaves the indicator as it is, or tells by it whether a stage waits, unless a
stage cannot be made known. -/
theorem Session.Step.signals (hs : s.Ledger) (hl : s.Lit) (h : s.Step t) : s.Signals t := by
  cases h with
  | move h => exact h.signals hs hl
  | halt h => exact h.signals hs hl

end

namespace Session

variable {s t : Session}

theorem Signals.lit (h : s.Signals t) (hl : s.Lit) : t.Lit := by
  intro hp
  cases h with
  | quiet h hsame =>
    rw [hsame]
    exact hl (h.pendingLoads ▸ hp)
  | wait hloading | fail _ hloading => exact hloading
  | known id hiff => exact hiff.2 hp

/-- Requests that are unsettled stay so. -/
theorem Signals.unsettled_le (h : s.Signals t) (id : String) : s.unsettled id ≤ t.unsettled id := by
  cases h with
  | quiet h => exact Nat.le_of_eq (h.unsettled id).symm
  | wait _ _ _ hu | known _ _ _ hu => exact Nat.le_of_eq (hu id).symm
  | fail _ _ _ _ _ _ hmono => exact hmono id

/-- **What leaves the indicator behind** is a step that cannot make a stage known. -/
theorem Signals.hung (h : s.Signals t) (ht : t.Hung) :
    s.Hung ∨ ∃ id, t.unsettled id = s.unsettled id + 1 := by
  cases h with
  | quiet h hsame => exact .inl ⟨hsame ▸ ht.loading, h.pendingLoads ▸ ht.idle⟩
  | wait _ hp => exact absurd ht.idle hp
  | known id hiff => exact absurd ht.idle (hiff.1 ht.loading)
  | fail id _ _ _ _ hu => exact .inr ⟨id, hu⟩

/-- Such a step leaves the indicator on screen. -/
theorem Signals.loading (h : s.Signals t) {id : String} (hu : t.unsettled id = s.unsettled id + 1) :
    t.display.loading = true := by
  cases h with
  | quiet h =>
    have := h.unsettled id
    omega
  | wait _ _ _ hsame | known _ _ _ hsame =>
    have := hsame id
    omega
  | fail _ hloading => exact hloading

/-- Steps in which no stage comes to wait or becomes known. -/
def Stalls : Session → Session → Prop :=
  Relation.ReflTransGen fun s t =>
    s.Step t ∧ t.batchCount = s.batchCount ∧ ∀ id, t.openings id = s.openings id

/-- In such steps the indicator stays. -/
theorem Signals.hung_of_hung (h : s.Signals t) (hs : s.Hung) (hb : t.batchCount = s.batchCount)
    (ho : ∀ id, t.openings id = s.openings id) : t.Hung := by
  cases h with
  | quiet h hsame => exact ⟨hsame.trans hs.loading, h.pendingLoads.trans hs.idle⟩
  | wait _ _ hnew => exact absurd hb hnew
  | known id _ hnew => exact absurd (ho id) hnew
  | fail _ hloading _ _ hp => exact ⟨hloading, hp hs.idle⟩

/-- The indicator stays only in such steps. -/
theorem Signals.stalls (h : s.Signals t) (ht : t.Hung) :
    t.batchCount = s.batchCount ∧ ∀ id, t.openings id = s.openings id := by
  cases h with
  | quiet h => exact ⟨h.batchCount, h.openings⟩
  | wait _ hp => exact absurd ht.idle hp
  | known id hiff => exact absurd ht.idle (hiff.1 ht.loading)
  | fail _ _ hb ho => exact ⟨hb, ho⟩

end Session

/-! ## Sessions -/

section

variable {arrows : List String} {world : World} {s t : Session}

/-- The ledger is kept between the steps of a call, too. -/
theorem Underway.ledger (h : Underway arrows world s) : s.Ledger := by
  refine h.invariant (fun id => ledger_withArrows id arrows)
    (fun id id' => ledger_begun id id' arrows world) ?_
  intro s t _ hs hstep
  cases hstep with
  | move h => exact (h.loads.ledger hs).1
  | halt h => exact (h.loadFails.ledger hs).1

/-- **Whatever waits, waits under the indicator.** -/
theorem Underway.lit (h : Underway arrows world s) : s.Lit := by
  refine h.invariant (I := Lit) (fun id hp => absurd rfl hp) (fun id id' hp => absurd rfl hp) ?_
  intro s t hunder hs hstep
  exact (hstep.signals hunder.ledger hs).lit hs

theorem Underway.signals (h : Underway arrows world s) (hstep : s.Step t) : s.Signals t :=
  hstep.signals h.ledger h.lit

theorem Underway.stalls (h : Underway arrows world s) (ht : s.Lasts Hung t) :
    Underway arrows world t ∧ s.Stalls t := by
  induction ht with
  | refl => exact ⟨h, .refl⟩
  | tail _ hstep ih =>
    have hstalls := (ih.1.signals hstep.1).stalls hstep.2.2
    exact ⟨ih.1.step hstep.1, ih.2.tail ⟨hstep.1, hstalls⟩⟩

theorem Underway.hung (h : Underway arrows world s) (hs : s.Hung) (ht : s.Stalls t) :
    Underway arrows world t ∧ t.Hung := by
  induction ht with
  | refl => exact ⟨h, hs⟩
  | tail _ hstep ih =>
    obtain ⟨hstep, hb, ho⟩ := hstep
    exact ⟨ih.1.step hstep, (ih.1.signals hstep).hung_of_hung ih.2 hb ho⟩

/-- What is unsettled at some time is unsettled later. -/
theorem Underway.unsettled_le (h : Underway arrows world s) (ht : s.Lasts Hung t) (id : String) :
    Underway arrows world t ∧ s.unsettled id ≤ t.unsettled id := by
  induction ht with
  | refl => exact ⟨h, Nat.le_refl _⟩
  | tail _ hstep ih =>
    exact ⟨ih.1.step hstep.1, Nat.le_trans ih.2 ((ih.1.signals hstep.1).unsettled_le id)⟩

/-- Where an indicator comes from under which no stage waits. -/
theorem Underway.exists_fail (h : Underway arrows world s) (hs : s.Hung) :
    ∃ t u id, Underway arrows world t ∧ t.Step u ∧ u.unsettled id = t.unsettled id + 1 ∧ u.Hung ∧
      u.Lasts Hung s := by
  have hfresh : ∀ id, ¬(withArrows id arrows).Hung := by
    rintro id ⟨hloading, -⟩
    cases hloading
  have hbegun : ∀ id id', ¬((withArrows id arrows).begun id' world).Hung := by
    rintro id id' ⟨hloading, -⟩
    rw [(cues_begun (withArrows id arrows) id' world).loading (by simp)] at hloading
    cases hloading
  obtain ⟨t, u, ht, hnot, hstep, hu, hlasts⟩ := h.exists_onset hfresh hbegun hs
  rcases (ht.signals hstep).hung hu with hung | ⟨id, hcount⟩
  · exact absurd hung hnot
  · exact ⟨t, u, id, ht, hstep, hcount, hu, hlasts⟩

/-- **The indicator and the stages that wait.**  In every session, whatever waits, waits under the
indicator.  The indicator is shown while no stage waits exactly if a stage could not be made known,
which left none waiting, and none has come to wait or become known since.  So the indicator tells
the truth as long as every request for a stage was settled. -/
theorem Played.hung_iff (h : Played (fun _ _ => True) arrows world s) :
    (s.pendingLoads ≠ [] → s.display.loading = true) ∧
      (s.display.loading = true ∧ s.pendingLoads = [] ↔
        ∃ t u id, Underway arrows world t ∧ t.Step u ∧ u.unsettled id = t.unsettled id + 1 ∧
          u.pendingLoads = [] ∧ u.Stalls s) ∧
      ((∀ id, s.unsettled id = 0) → (s.display.loading = true ↔ s.pendingLoads ≠ [])) := by
  have hunder := h.underway
  refine ⟨hunder.lit, ⟨?_, ?_⟩, fun hsettled => ⟨?_, hunder.lit⟩⟩
  · rintro ⟨hloading, hidle⟩
    obtain ⟨t, u, id, ht, hstep, hcount, hung, hlasts⟩ := hunder.exists_fail ⟨hloading, hidle⟩
    exact ⟨t, u, id, ht, hstep, hcount, hung.idle, ((ht.step hstep).stalls hlasts).2⟩
  · rintro ⟨t, u, id, ht, hstep, hcount, hidle, hstalls⟩
    have hung : u.Hung := ⟨(ht.signals hstep).loading hcount, hidle⟩
    obtain ⟨-, hloading, hidle⟩ := (ht.step hstep).hung hung hstalls
    exact ⟨hloading, hidle⟩
  · intro hloading hidle
    obtain ⟨t, u, id, ht, hstep, hcount, -, hlasts⟩ := hunder.exists_fail ⟨hloading, hidle⟩
    obtain ⟨-, hle⟩ := (ht.step hstep).unsettled_le hlasts id
    have := hsettled id
    omega

/-- A world whose only scene inherits from one that does not exist. -/
def World.attic : World where
  stages := [{ id := "attic", scenes := [{ id := "loft", inherits := some "stairs" }] }]

/-- The start of the world leaves the indicator behind. -/
theorem exists_played_attic :
    ∃ s, Played (fun _ _ => True) ["up"] .attic s ∧ s.Hung :=
  ⟨_, @Played.start _ _ _ 3 (.ofNat 0) (.ofNat 1) _ _ rfl, rfl, rfl⟩

/-- The stage of the attic could not be made known. -/
theorem hung_iff_attic :
    ∃ s, Played (fun _ _ => True) ["up"] .attic s ∧
      ∃ t u id, Underway ["up"] .attic t ∧ t.Step u ∧ u.unsettled id = t.unsettled id + 1 ∧
        u.Stalls s := by
  obtain ⟨s, h, hung⟩ := exists_played_attic
  obtain ⟨t, u, id, ht, hstep, hcount, -, hstalls⟩ := h.hung_iff.2.1.1 ⟨hung.loading, hung.idle⟩
  exact ⟨s, h, t, u, id, ht, hstep, hcount, hstalls⟩

/-- The indicator does not always tell the truth. -/
theorem not_forall_loading_iff :
    ¬∀ (arrows : List String) (world : World) (s : Session),
      Played (fun _ _ => True) arrows world s →
        (s.display.loading = true ↔ s.pendingLoads ≠ []) := by
  intro hall
  obtain ⟨s, h, hung⟩ := exists_played_attic
  exact (hall _ _ s h).1 hung.loading hung.idle

end

end Adventure
