import Adventure.Proofs.Answers
import Adventure.Proofs.Growth

/-!
# Codes that lead nowhere new

A submission that succeeds has loaded all the stages that the code leads to, so the code leads
nowhere new from then on.  While it goes on it can be interrupted by other submissions, whose codes
take the place of its own; once they are through, what they left on record leads nowhere new either.
So if nothing has failed, the only answers with stages left to load are codes whose submission still
goes on.

## Main definitions

* `Session.Exhausted`: all stages that a code leads to are loaded
* `Session.Settled`: so it is for all answers on record, some codes aside
* `Settles`: scripts that succeed leave the answers settled
* `Flawless`: the sessions in which nothing has failed so far

## Main results

* `loaded_of_acceptCodes`: a submission that succeeds has loaded its stages
* `Settles.submitCode`: a submission that succeeds leaves the answers settled
* `Flawless.settled`: where nothing has failed, all answers are exhausted
-/

namespace Adventure

open Session

/-! ## Answers on record -/

namespace Session

/-- All stages that a code of a puzzle leads to are loaded. -/
def Exhausted (s : Session) (puzzle code : String) : Prop :=
  ∀ declared targets, s.puzzle puzzle = .ok declared → declared.targets code = .ok targets →
    ∀ stage ∈ targets, s.player.hasLoaded stage = true

/-- All answers on record are exhausted, but for the codes whose submission goes on. -/
def Settled (ongoing : List (String × String)) (s : Session) : Prop :=
  ∀ puzzle answer, s.player.answers.get? puzzle = some answer →
    s.Exhausted puzzle answer ∨ (puzzle, answer) ∈ ongoing

variable {s t : Session} {ongoing : List (String × String)} {puzzle code : String}

theorem Exhausted.extends (h : s.Exhausted puzzle code) (he : s.Extends t) :
    t.Exhausted puzzle code := by
  intro declared targets hp ht stage hstage
  rw [he.puzzle] at hp
  exact he.loaded (h declared targets hp ht stage hstage)

theorem Settled.extends (h : Settled ongoing s) (he : s.Extends t)
    (ha : t.player.answers = s.player.answers) : Settled ongoing t := by
  intro puzzle answer hanswer
  rw [ha] at hanswer
  exact (h puzzle answer hanswer).imp_left fun h => h.extends he

theorem settled_of_empty (h : s.player.answers = ∅) : Settled ongoing s := by
  intro puzzle answer ha
  rw [h] at ha
  cases ha

theorem Settled.weaken (h : Settled ongoing s) (e : String × String) : Settled (e :: ongoing) s :=
  fun puzzle answer ha => (h puzzle answer ha).imp_right (.tail _)

/-- A code may be recorded while its submission goes on. -/
theorem Settled.solved (h : Settled ongoing s) (hmem : (puzzle, code) ∈ ongoing) :
    Settled ongoing (s.solved puzzle code) := by
  intro other answer ha
  have hinsert : (s.player.answers.insert puzzle code).get? other = some answer := ha
  rw [Table.get?_insert] at hinsert
  split at hinsert
  · next heq =>
    subst heq
    cases hinsert
    exact .inr hmem
  · exact (h other answer hinsert).imp_left fun h => h.extends (extends_solved s puzzle code)

/-- A submission has come to its end. -/
theorem Settled.finish (h : Settled ((puzzle, code) :: ongoing) s)
    (hcode : s.Exhausted puzzle code) : Settled ongoing s := by
  intro other answer ha
  rcases h other answer ha with hother | hmem
  · exact .inl hother
  · cases hmem with
    | head => exact .inl hcode
    | tail _ hmem => exact .inr hmem

end Session

/-! ## Stages of a submission that succeeds -/

namespace Play

variable {s t : Session} {depth : Nat}

theorem hasLoaded_of_loadStage (hs : s.Grounded) {id : String}
    (h : (loadStage (execute depth) id).outcome s = some (.ok (), t)) :
    t.player.hasLoaded id = true := by
  rw [outcome_loadStage] at h
  cases hstage : s.stage id with
  | error e =>
    rw [hstage] at h
    cases h
  | ok stage =>
    simp only [hstage, stage_id hstage] at h
    have hloaded : (s.requested id).player.hasLoaded id = true := hasLoaded_requested_self s id
    split at h
    · cases h
      exact hloaded
    · rw [outcome_finishLoad] at h
      cases hscenes : (s.requested id).resolve [] stage.scenes with
      | error e =>
        rw [hscenes] at h
        cases h
      | ok scenes =>
        rw [hscenes] at h
        -- The load actions take nothing away.
        have hrequested : (s.requested id).Grounded := hs.congr rfl rfl rfl
        have k := keeps_extends ((s.requested id).finished stage scenes)
        have hopen := k.openStage (k.execute depth) (hrequested.finished stage scenes) (.refl _)
          (.finished (s := s.requested id) hstage hscenes)
        exact (ensures_ok hopen h).inv.loaded hloaded

theorem hasLoaded_of_acceptCode (hs : s.Grounded) {puzzle code stage : String}
    (h : (acceptCode (execute depth) puzzle code stage).outcome s = some (.ok (), t)) :
    t.player.hasLoaded stage = true := by
  rw [outcome_acceptCode hs] at h
  cases hloaded : s.player.hasLoaded stage with
  | true =>
    rw [hloaded, if_pos rfl] at h
    exact (Call.extends hs (c := .execute _) h).loaded hloaded
  | false =>
    rw [hloaded, if_neg Bool.false_ne_true] at h
    have hsolved : (s.solved puzzle code).Grounded := hs.congr rfl rfl rfl
    exact hasLoaded_of_loadStage hsolved h

/-- **A submission that succeeds** has loaded its stages. -/
theorem loaded_of_acceptCodes (hs : s.Grounded) {puzzle code : String} {declared : Puzzle}
    {targets stages : List String} (hp : s.puzzle puzzle = .ok declared)
    (ht : declared.targets (Text.trim code) = .ok targets) (hsub : stages ⊆ targets)
    (h : (stages.forM (acceptCode (execute depth) puzzle (Text.trim code))).outcome s =
      some (.ok (), t)) : ∀ stage ∈ stages, t.player.hasLoaded stage = true := by
  induction stages generalizing s with
  | nil => nofun
  | cons stage stages ih =>
    obtain ⟨hfirst, hothers⟩ := List.cons_subset.1 hsub
    obtain ⟨_, u, haccept, hrest⟩ := outcome_bind_eq_ok_iff.1 h
    have k := keeps_extends s
    have hu := ensures_ok (k.acceptCode (k.execute depth) hs (.refl s) hp ht hfirst) haccept
    have hp' : u.puzzle puzzle = .ok declared := (hu.growth.puzzle puzzle).trans hp
    intro other hother
    cases hother with
    | head =>
      -- What the first stage left is not lost behind it.
      have hafter := ensures_ok
        (k.acceptCodes (k.execute depth) hu.grounded hu.inv hp' ht hothers) hrest
      exact hafter.growth.loaded (hasLoaded_of_acceptCode hs haccept)
    | tail _ hother => exact ih hu.grounded hp' hothers hrest other hother

end Play

/-! ## Operations that succeed -/

/-- An operation that succeeds leaves the answers settled. -/
def Settling (ongoing : List (String × String)) {α : Type} (p : Play α) (s : Session) : Prop :=
  Safe (.free fun _ _ => True) (Settled ongoing) (fun _ _ => True) p s

/-- Scripts that succeed leave the answers settled, whatever submissions go on. -/
def Settles (run : Script → Play Unit) : Prop :=
  ∀ ⦃ongoing s⦄, s.Grounded → Settled ongoing s → ∀ script, Settling ongoing (run script) s

section Operations

variable {ongoing : List (String × String)} {s t : Session} {α : Type} {p : Play α}

/-- A step that records no answer. -/
theorem Session.Settled.after (hI : Settled ongoing s) (hs : s.Grounded)
    (hm : Move (.free fun _ _ => True) s t) (ha : t.player.answers = s.player.answers) :
    After (.free fun _ _ => True) (Settled ongoing) s t :=
  ⟨hm.grounded hs, hI.extends hm.extends ha, hm.extends, fun _ => trivial⟩

theorem Session.Settled.of_move (hI : Settled ongoing s) (hs : s.Grounded)
    (hm : Move (.free fun _ _ => True) s t) (ha : t.player.answers = s.player.answers) {a : α}
    (h : p.outcome s = some (.ok a, t)) : Settling ongoing p s :=
  Play.ensures_of_ok h (hI.after hs hm ha)

/-- A submission that succeeds is through with its code. -/
theorem Settling.finish {puzzle code : String} (h : Settling ((puzzle, code) :: ongoing) p s)
    (hcode : ∀ a t, p.outcome s = some (.ok a, t) → t.Exhausted puzzle code) :
    Settling ongoing p s := by
  apply Play.ensures_of_forall
  · intro a t ht
    have hafter := Play.ensures_ok h ht
    exact ⟨hafter.grounded, hafter.inv.finish (hcode a t ht), hafter.growth, fun _ => trivial⟩
  · intro e t ht
    exact Play.ensures_error h ht

theorem settling_ask (hs : s.Grounded) (hI : Settled ongoing s)
    (query : Session → Except Error α) : Settling ongoing (Play.ask query) s := by
  have h := Play.outcome_ask query s
  cases hquery : query s with
  | error e =>
    rw [hquery] at h
    exact Safe.of_error hs trivial h
  | ok a =>
    rw [hquery] at h
    exact Safe.of_ok hs hI h

variable {run : Script → Play Unit}

namespace Settles

theorem goToScene (hrun : Settles run) (hs : s.Grounded) (hI : Settled ongoing s) (id : String) :
    Settling ongoing (Play.goToScene run id) s := by
  have h := Play.outcome_goToScene hs run id
  cases hscene : s.catalog.scenes.get? id with
  | none =>
    rw [hscene] at h
    exact Safe.of_error hs trivial h
  | some scene =>
    simp only [hscene] at h
    cases hobject : Play.unknown? s scene.interactive.keys with
    | some object =>
      rw [hobject] at h
      exact Safe.of_error hs trivial h
    | none =>
      simp only [hobject] at h
      cases hplan : (s.left.arrived id).plan? with
      | error e =>
        rw [hplan] at h
        exact Safe.of_error (hs.left.arrived (Table.contains_of_get? hscene)) trivial h
      | ok plan =>
        simp only [hplan] at h
        have hafter := hI.after hs
          (.enter (a := .new (.goToScene id)) trivial rfl hscene hobject hplan) rfl
        refine Safe.later hafter h (Safe.bind (hrun hafter.grounded hafter.inv _) ?_)
        intro _ t ht
        exact hrun ht.grounded ht.inv _

theorem openStage (hrun : Settles run) (hs : s.Grounded) (hI : Settled ongoing s)
    (stage : Stage) : Settling ongoing (Play.openStage run stage) s := by
  apply Safe.bind (hrun hs hI _)
  intro _ t ht
  apply Safe.bind (Safe.of_ok ht.grounded ht.inv rfl)
  intro _ u hu
  split
  · cases stage.scenes with
    | nil => exact Safe.of_ok hu.grounded hu.inv rfl
    | cons scene scenes => exact hrun.goToScene hu.grounded hu.inv scene.id
  · exact Safe.of_ok hu.grounded hu.inv rfl

theorem loadStage (hrun : Settles run) (hs : s.Grounded) (hI : Settled ongoing s)
    (id : String) : Settling ongoing (Play.loadStage run id) s := by
  have h := Play.outcome_loadStage s run id
  have hasked : Asked (.free fun _ _ => True) s id s := .direct trivial
  cases hstage : s.stage id with
  | error e =>
    rw [hstage] at h
    exact Safe.of_error hs trivial h
  | ok stage =>
    simp only [hstage, stage_id hstage] at h
    cases hneeds : stage.needsPreload with
    | true =>
      simp only [hneeds, if_true] at h
      exact hI.of_move hs (.preload hasked hstage hneeds) rfl h
    | false =>
      simp only [hneeds, Bool.false_eq_true, if_false, Play.outcome_finishLoad] at h
      cases hscenes : (s.requested id).resolve [] stage.scenes with
      | error e =>
        rw [hscenes] at h
        have hrequested : (s.requested id).Grounded := hs.congr rfl rfl rfl
        exact Safe.of_error hrequested trivial h
      | ok scenes =>
        rw [hscenes] at h
        have hafter := hI.after hs (.load hasked hstage hneeds hscenes) rfl
        exact Safe.later hafter h (hrun.openStage hafter.grounded hafter.inv stage)

/-- The code may be recorded here, since its submission goes on. -/
theorem acceptCode (hrun : Settles run) (hs : s.Grounded) (hI : Settled ongoing s)
    {puzzle code : String} (hmem : (puzzle, code) ∈ ongoing) (stage : String) :
    Settling ongoing (Play.acceptCode run puzzle code stage) s := by
  have h := Play.outcome_acceptCode hs run puzzle code stage
  cases hloaded : s.player.hasLoaded stage with
  | true =>
    rw [hloaded, if_pos rfl] at h
    exact Safe.of_eq h (hrun hs hI _)
  | false =>
    rw [hloaded, if_neg Bool.false_ne_true] at h
    have hafter : After (.free fun _ _ => True) (Settled ongoing) s (s.solved puzzle code) :=
      ⟨hs.congr rfl rfl rfl, hI.solved hmem, extends_solved s puzzle code, fun _ => trivial⟩
    exact Safe.later hafter h (hrun.loadStage hafter.grounded hafter.inv stage)

variable {depth : Nat}

/-- **A submission that succeeds** leaves the answers settled, whatever submissions it is a part
of. -/
theorem submitCode (hrun : Settles (Play.execute depth)) (hs : s.Grounded)
    (hI : Settled ongoing s) (puzzle : Option String) (code : String) :
    Settling ongoing (Play.submitCode (Play.execute depth) puzzle code) s := by
  have h := Play.outcome_submitCode hs (Play.execute depth) puzzle code
  cases htargets : s.targetsOf puzzle code with
  | error e =>
    rw [htargets] at h
    exact Safe.of_error hs trivial h
  | ok found =>
    obtain ⟨puzzle, targets⟩ := found
    rw [htargets] at h
    cases targets with
    | nil =>
      have hafter := hI.after hs .clear rfl
      exact Safe.later hafter h (hrun hafter.grounded hafter.inv _)
    | cons stage stages =>
      obtain ⟨-, declared, hp, ht⟩ := targetsOf_ok htargets
      apply Safe.of_eq h
      -- Until all stages are taken, the code is one of those whose submission goes on.
      have hloop : Settling ((puzzle, Text.trim code) :: ongoing)
          ((stage :: stages).forM (Play.acceptCode (Play.execute depth) puzzle (Text.trim code)))
          s := by
        apply Safe.forM hs (hI.weaken _)
        intro stage _ t ht
        exact hrun.acceptCode ht.grounded ht.inv (.head _) stage
      apply hloop.finish
      intro _ t hok declared' targets' hp' ht'
      have hgrowth := (Play.ensures_ok hloop hok).growth
      obtain rfl := Except.ok.inj (hp.symm.trans ((hgrowth.puzzle puzzle).symm.trans hp'))
      obtain rfl := Except.ok.inj (ht.symm.trans ht')
      exact Play.loaded_of_acceptCodes hs hp ht (List.Subset.refl _) hok

/-! ## Scripts -/

theorem perform (hrun : Settles (Play.execute depth)) (hs : s.Grounded) (hI : Settled ongoing s)
    (a : Action) : Settling ongoing (Play.perform (Play.execute depth) a) s := by
  have hperforms : Play.Performs (.free fun _ _ => True) (Play.execute depth) s a :=
    Play.performs hs trivial _
  cases hperforms with
  | enter _ h =>
    rw [h]
    exact hrun.goToScene hs hI _
  | submit _ h =>
    rw [h]
    exact hrun.submitCode hs hI _ _
  | script _ h => exact Safe.of_eq h (hrun hs hI _)
  | step hm _ ha h => exact hI.of_move hs hm ha h
  | pass h => exact Safe.of_ok hs hI h
  | refuse _ h => exact Safe.of_error hs trivial h

theorem step (hrun : Settles (Play.execute depth)) (hs : s.Grounded) (hI : Settled ongoing s)
    (a : Action) : Settling ongoing (Play.step (Play.execute depth) a) s := by
  apply Safe.bind (settling_ask hs hI _)
  intro passes t ht
  cases passes with
  | true => exact hrun.perform ht.grounded ht.inv a
  | false => exact Safe.of_ok ht.grounded ht.inv rfl

/-- **Scripts settle**, by induction on the depth of their calls. -/
theorem execute (depth : Nat) : Settles (Play.execute depth) := by
  induction depth with
  | zero =>
    intro ongoing s hs hI script
    unfold Settling Safe
    exact Play.ensures_of_none rfl
  | succ depth ih =>
    intro ongoing s hs hI script
    apply Safe.forM hs hI
    intro a _ t ht
    exact ih.step ht.grounded ht.inv a

end Settles

/-! ## Events -/

namespace Session.Settled

variable (hs : s.Grounded) (hI : Settled ongoing s) (depth : Nat)
include hs hI

theorem closeNotice (ho : s.noticeOpen = true) : Settling ongoing Play.closeNotice s := by
  have h := Play.outcome_closeNotice hs
  cases hplan : s.noticeClosed.plan? with
  | error e =>
    rw [hplan] at h
    exact Safe.of_error hs.noticeClosed trivial h
  | ok plan =>
    rw [hplan] at h
    exact hI.of_move hs (.close ho hplan) rfl h

theorem dismiss : Settling ongoing Play.dismiss s := by
  have h := Play.outcome_dismiss s
  cases ho : s.noticeOpen with
  | false =>
    rw [ho] at h
    exact Safe.of_ok hs hI h
  | true =>
    rw [ho, if_pos rfl] at h
    exact Safe.of_eq h (hI.closeNotice hs ho)

theorem react (object : String) : Settling ongoing (Play.react depth object) s := by
  apply Safe.bind (settling_ask hs hI _)
  intro scene t ht
  cases scene.interactive.get? object with
  | some script => exact Settles.execute depth ht.grounded ht.inv script
  | none =>
    apply Safe.bind (settling_ask ht.grounded ht.inv _)
    intro _ u hu
    exact Safe.of_ok hu.grounded hu.inv rfl

theorem clickObject (object : String) : Settling ongoing (Play.clickObject depth object) s := by
  have h := Play.outcome_clickObject depth s object
  cases hb : s.player.isBlocked with
  | true =>
    rw [hb, if_pos rfl] at h
    exact Safe.of_ok hs hI h
  | false =>
    rw [hb, if_neg Bool.false_ne_true, ← Play.outcome_bind] at h
    refine Safe.of_eq h (Safe.bind (hI.dismiss hs) ?_)
    intro _ t ht
    exact ht.inv.react ht.grounded depth object

theorem requestHint (puzzle : String) (index : UInt64) :
    Settling ongoing (Play.handle depth (.hintRequested puzzle index)) s := by
  have h := Play.outcome_requestHint depth hs puzzle index
  cases hp : s.puzzle puzzle with
  | error e =>
    rw [hp] at h
    exact Safe.of_error hs trivial h
  | ok declared =>
    simp only [hp] at h
    cases hhint : declared.hints[index.toNat]? with
    | none =>
      rw [hhint] at h
      exact Safe.of_error hs trivial h
    | some hint =>
      rw [hhint] at h
      exact hI.of_move hs (.notice hint) rfl h

theorem clickButton (index : Nat) :
    Settling ongoing (Play.clickButton (Play.execute depth) index) s := by
  have h := Play.outcome_clickButton hs (Play.execute depth) index
  cases hp : s.player.pending with
  | none =>
    rw [hp] at h
    exact Safe.of_error hs trivial h
  | some scripts =>
    simp only [hp] at h
    cases hscript : scripts[index]? with
    | none =>
      rw [hscript] at h
      exact Safe.of_error hs trivial h
    | some script =>
      simp only [hscript] at h
      cases hplan : s.answered.plan? with
      | error e =>
        rw [hplan] at h
        exact Safe.of_error hs.answered trivial h
      | ok plan =>
        rw [hplan] at h
        have hafter := hI.after hs (.answer hp hplan) rfl
        exact Safe.later hafter h (Settles.execute depth hafter.grounded hafter.inv script)

theorem assetsReady (batch : Ticket) :
    Settling ongoing (Play.assetsReady (Play.execute depth) batch) s := by
  have h := Play.outcome_assetsReady s (Play.execute depth) batch
  have hreported : (s.reported batch).Grounded := hs.congr rfl rfl rfl
  cases hw : waiting? batch s.pendingLoads with
  | none =>
    rw [hw] at h
    exact Safe.of_error hs trivial h
  | some id =>
    simp only [hw] at h
    cases hstage : s.stage id with
    | error e =>
      rw [hstage] at h
      exact Safe.of_error hreported trivial h
    | ok stage =>
      simp only [hstage, Play.outcome_finishLoad] at h
      cases hscenes : (s.reported batch).resolve [] stage.scenes with
      | error e =>
        rw [hscenes] at h
        exact Safe.of_error hreported trivial h
      | ok scenes =>
        rw [hscenes] at h
        have hafter := hI.after hs (.complete hw hstage hscenes) rfl
        exact Safe.later hafter h
          ((Settles.execute depth).openStage hafter.grounded hafter.inv stage)

theorem timerFired (timer : Ticket) : Settling ongoing (Play.timerFired depth timer) s := by
  have h := Play.outcome_timerFired depth s timer
  cases hw : waiting? timer s.pendingTimers with
  | none =>
    rw [hw] at h
    exact Safe.of_error hs trivial h
  | some script =>
    rw [hw] at h
    have hafter := hI.after hs (.fire hw) rfl
    exact Safe.later hafter h (Settles.execute depth hafter.grounded hafter.inv script)

/-- **Events that succeed** leave the answers settled. -/
theorem handle (event : Event Ticket) : Settling ongoing (Play.handle depth event) s := by
  cases event with
  | objectClicked object => exact hI.clickObject hs depth object
  | codeSubmitted code => exact (Settles.execute depth).submitCode hs hI none code
  | hintRequested puzzle index => exact hI.requestHint hs depth puzzle index
  | buttonClicked index => exact hI.clickButton hs depth index.toNat
  | messageDismissed => exact hI.dismiss hs
  | assetsReady batch => exact hI.assetsReady hs depth batch
  | timerFired timer => exact hI.timerFired hs depth timer

theorem pumpUpTo (count : Nat) : Settling ongoing (Play.pumpUpTo depth count) s := by
  induction count generalizing s with
  | zero => exact Safe.of_ok hs hI rfl
  | succ count ih =>
    apply Safe.bind (Safe.of_ok (a := s) hs hI rfl)
    intro before t ht
    cases before.queue with
    | nil => exact Safe.of_ok (a := 0) ht.grounded ht.inv rfl
    | cons event rest =>
      apply Safe.bind (ht.inv.of_move ht.grounded (.queue rest) rfl rfl)
      intro _ u hu
      apply Safe.bind (hu.inv.handle hu.grounded depth event)
      intro _ v hv
      apply Safe.bind (ih hv.grounded hv.inv)
      intro handled w hw
      exact Safe.of_ok hw.grounded hw.inv rfl

/-- **Calls that succeed** leave the answers settled. -/
theorem call (c : Call) : Settling ongoing (c.play depth) s := by
  cases c with
  | handle event => exact hI.handle hs depth event
  | goToScene id => exact (Settles.execute depth).goToScene hs hI id
  | loadStage id => exact (Settles.execute depth).loadStage hs hI id
  | execute script => exact Settles.execute depth hs hI script
  | post event => exact hI.of_move hs (.queue (s.queue ++ [event])) rfl rfl
  | pump =>
    have hpump : Settling ongoing (Play.pump depth) s := by
      apply Safe.bind (Safe.of_ok (a := s) hs hI rfl)
      intro before t ht
      exact ht.inv.pumpUpTo ht.grounded depth before.queue.length
    apply Safe.bind hpump
    intro _ t ht
    exact Safe.of_ok ht.grounded ht.inv rfl
  | takeBatches => exact hI.of_move hs .reportBatches rfl rfl
  | takeTimers => exact hI.of_move hs .reportTimers rfl rfl

end Session.Settled

end Operations

/-! ## Sessions in which nothing has failed -/

/-- A session of a world that was started once and in which nothing has failed so far, neither the
start nor a call. -/
inductive Flawless (arrows : List String) (world : World) : Session → Prop where
  | start {depth : Nat} {id id' : Uuid} {t : Session}
      (h : (Play.start depth id' world).outcome (.withArrows id arrows) = some (.ok (), t)) :
      Flawless arrows world t
  | call {s t : Session} {c : Call} {depth : Nat} (hs : Flawless arrows world s)
      (h : (c.play depth).outcome s = some (.ok (), t)) : Flawless arrows world t

namespace Flawless

variable {arrows : List String} {world : World} {s : Session}

theorem played (h : Flawless arrows world s) : Played (fun _ _ => True) arrows world s := by
  induction h with
  | start h => exact .start h
  | call _ h ih => exact .call ih trivial h

/-- **Where nothing has failed**, all answers on record are exhausted. -/
theorem settled (h : Flawless arrows world s) : Settled [] s := by
  induction h with
  | @start depth id id' t h =>
    obtain ⟨-, first, -, hstart⟩ := Play.outcome_start_eq_ok_iff.1 h
    have hbegun : Settled [] ((Session.withArrows id arrows).begun id' world) := settled_of_empty rfl
    have hload := (Settles.execute depth).loadStage (grounded_begun _ id' world) hbegun first.id
    exact (Play.ensures_ok hload hstart).inv
  | @call s t c depth hs h ih =>
    exact (Play.ensures_ok (ih.call hs.played.underway.grounded depth c) h).inv

end Flawless

end Adventure
