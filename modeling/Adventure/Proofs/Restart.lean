import Adventure.Proofs.Oblivion
import Adventure.Proofs.Reachability
import Adventure.Proofs.Replay

/-!
# Restarts

A session that is started again forgets what was played, and goes on as a new one would.  Only the
screen keeps what was there, except where the start itself shows or hides something.

## Main definitions

* `Session.Alike d s u`: one core; on the display `d`, the cues of `u` leave the screen of `s`

## Main results

* `Session.blind_alike`: sessions that are alike go the same way

* `Session.alike_begun`: once a world is accepted, a session and a new one are alike
* `Reached.restarted`: a restart does what a first start does, and when it leaves the same screen
-/

namespace Adventure

open Session

/-! ## Sessions that are alike -/

namespace Session

theorem core_of_batch (s : Session) (batch : Nat) (stage : String) :
    { s with
      batchCount := batch + 1
      pendingLoads := s.pendingLoads ++ [(batch, stage)] }.core =
    { s.core with pendingLoads := s.core.pendingLoads ++ [(0, stage)] } := by
  simp [core]

theorem core_of_timer (s : Session) (timer : Nat) (script : Script) :
    { s with
      timerCount := timer + 1
      pendingTimers := s.pendingTimers ++ [(timer, script)] }.core =
    { s.core with pendingTimers := s.core.pendingTimers ++ [(0, script)] } := by
  simp [core]

/-- Two sessions have one core, and the cues of the second one, given on a display, leave the screen
of the first one. -/
structure Alike (d : Display) (s u : Session) : Prop where
  core : s.core = u.core
  screen : s.display.SameScreen (d.replay u.display.cues.toList)

variable {d : Display} {s u : Session}

/-- Sessions stay alike if their cores and their displays change in the same way. -/
theorem Alike.update (h : s.Alike d u) {f : Session → Session}
    (hcore : ∀ s : Session, (f s.core).core = (f s).core)
    (hdisplay : ∀ s, (f s).display = s.display) : (f s).Alike d (f u) where
  core := by rw [← hcore s, h.core, hcore u]
  screen := by rw [hdisplay, hdisplay]; exact h.screen

/-- Sessions stay alike if they get cues that do the same to every screen. -/
theorem Alike.cued (h : s.Alike d u) {c c' : Cue}
    (hc : ∀ e, (Display.perform e c).SameScreen (e.perform c')) :
    (s.cued [c]).Alike d (u.cued [c']) where
  core := h.core
  screen := by
    show (s.display.perform c).SameScreen (d.replay (u.display.cues.push c').toList)
    rw [Array.toList_push, Display.replay_append]
    exact (h.screen.perform c).trans (hc _)

/-- Nothing reads the log. -/
theorem Alike.noted (h : s.Alike d u) (n n' : Note) : (s.noted n).Alike d (u.noted n') :=
  ⟨h.core, h.screen⟩

/-- **Sessions that are alike** go the same way: batches and timers have other numbers, but nothing
looks at these. -/
theorem blind_alike (d : Display) : Blind (Alike d) where
  view h := by rw [Session.view, h.core, Session.view]
  cued h _ := h.cued fun _ => .refl _
  noted n h := h.noted n n
  changed f h hf := h.update (f := fun s => s.withPlayer (f s.player))
    (fun s => by simp [Session.core, withPlayer, hf.sessionId s.player (.ofNat 0)]) fun _ => rfl
  opened scripts h := h.update (f := fun s => s.withPlayer { s.player with pending := scripts })
    (fun s => by simp [Session.core, withPlayer]) fun _ => rfl
  recorded puzzle code h := h.update
    (f := fun s => s.withPlayer (s.player.recordAnswer puzzle code))
    (fun s => by simp [Session.core, withPlayer, Player.recordAnswer]) fun _ => rfl
  shown scene h := by
    have hinput := congrArg (fun s : Session => s.codeInput? scene) h.core
    exact rel_codeInput? hinput fun _ _ => h.cued fun _ => .refl _
  learned f h := h.update (f := fun s => s.withCatalog (f s.catalog))
    (fun s => by simp [Session.core, withCatalog]) fun _ => rfl
  noticed isOpen h := h.update (f := fun s => s.withNotice isOpen)
    (fun s => by simp [Session.core, withNotice]) fun _ => rfl
  batched {s u} stage h := by
    have hwaits : Alike d { s with
        batchCount := s.batchCount + 1
        pendingLoads := s.pendingLoads ++ [(s.batchCount, stage)] } { u with
        batchCount := u.batchCount + 1
        pendingLoads := u.pendingLoads ++ [(u.batchCount, stage)] } :=
      ⟨by rw [core_of_batch, core_of_batch, h.core], h.screen⟩
    exact (hwaits.noted _ _).cued fun _ => ⟨rfl, rfl, rfl, rfl, rfl⟩
  scheduled {s u} duration script h := by
    have hwaits : Alike d { s with
        timerCount := s.timerCount + 1
        pendingTimers := s.pendingTimers ++ [(s.timerCount, script)] } { u with
        timerCount := u.timerCount + 1
        pendingTimers := u.pendingTimers ++ [(u.timerCount, script)] } :=
      ⟨by rw [core_of_timer, core_of_timer, h.core], h.screen⟩
    exact hwaits.cued fun _ => ⟨rfl, rfl, rfl, rfl, rfl⟩

end Session

/-! ## Starts -/

variable {arrows : List String} {s t u : Session} {depth : Nat} {id fresh : Uuid} {world : World}

/-- **Once a world is accepted**, a session and a new one are alike, whatever was played before. -/
theorem Session.alike_begun (s : Session) (id id' fresh : Uuid) (world : World) :
    (s.begun id world).Alike s.display ((withArrows fresh s.arrows).begun id' world) where
  core := rfl
  screen := by
    -- The arrows are created on both displays.
    show (s.display.replay _).SameScreen (s.display.replay (({} : Display).replay _).cues.toList)
    rw [Display.cues_replay]
    exact .refl _

/-- **What a start does** depends on nothing that was played before. -/
theorem Play.start_alike (h : (start depth id world).outcome s = some (.ok (), t))
    (id' fresh : Uuid) :
    ∃ u, (start depth id' world).outcome (withArrows fresh s.arrows) = some (.ok (), u) ∧
      t.Alike s.display u := by
  obtain ⟨hvalid, first, hfirst, hload⟩ := outcome_start_eq_ok_iff.1 h
  have k := blind_alike s.display
  obtain ⟨u, hu, halike⟩ := (k.loadStage (k.execute depth) first.id).answer
    (alike_begun s id id' fresh world) hload
  exact ⟨u, outcome_start_eq_ok_iff.2 ⟨hvalid, first, hfirst, hu⟩, halike⟩

/-- The screen of a first start is what its cues leave on an empty one. -/
theorem Play.screen_start (h : (start depth id world).outcome (withArrows fresh arrows) =
      some (.ok (), u)) :
    u.display.SameScreen (({} : Display).replay u.display.cues.toList) := by
  obtain ⟨v, hv, halike⟩ := start_alike h id fresh
  -- There is one answer only.
  obtain rfl : u = v := by
    rw [show withArrows fresh (withArrows fresh arrows).arrows = withArrows fresh arrows from rfl,
      h] at hv
    cases hv
    rfl
  exact halike.screen

/-- The arrows stay what they are. -/
theorem Reached.arrows_eq (h : Reached arrows s) : s.arrows = arrows := by
  have k : Keeps (.free fun _ _ => True) (fun s => s.arrows = arrows) fun _ s =>
      s.arrows = arrows :=
    .free (fun _ h hm => hm.extends.arrows.trans h) fun _ h hh => hh.extends.arrows.trans h
  exact (k.reached (fun _ => rfl) (fun h _ _ => h) h).2

/-- **A restart does what a first start does**: whatever was played before, what is known, reached
and waited for is as in a new session.  The screen is what the cues of a first start leave on the
old one, which is the screen of a first start exactly if each slot was empty or is decided by one
of these cues. -/
theorem Reached.restarted (hs : Reached arrows s)
    (h : (Play.start depth id world).outcome s = some (.ok (), t)) (id' fresh : Uuid) :
    ∃ u, (Play.start depth id' world).outcome (.withArrows fresh arrows) = some (.ok (), u) ∧
      t.core = u.core ∧
      t.display.SameScreen (s.display.replay u.display.cues.toList) ∧
      (t.display.SameScreen u.display ↔
        ∀ slot, s.display.content slot = none ∨
          ∃ c ∈ u.display.cues.toList, c.slot? = some slot) := by
  obtain ⟨u, hu, halike⟩ := Play.start_alike h id' fresh
  rw [hs.arrows_eq] at hu
  refine ⟨u, hu, halike.core, halike.screen, ?_⟩
  rw [← Display.sameScreen_replay_iff]
  have hfirst := Play.screen_start hu
  constructor
  · intro hsame
    exact (halike.screen.symm.trans hsame).trans hfirst
  · intro hsame
    exact (halike.screen.trans hsame).trans hfirst.symm

/-! ## An example -/

/-- A world with a porch, whose door is locked. -/
def World.porch : World where
  stages := [
    { id := "porch"
      scenes := [
        { id := "steps"
          interactive := .ofList [("up", [.new (.showText "Locked.")])] }] }]

/-- A world with a cellar and nothing in it. -/
def World.cellar : World where
  stages := [{ id := "cellar" }]

/-- The door of the porch is clicked, and the player goes on to the cellar. -/
theorem exists_reached_porch :
    ∃ s t, Reached ["up"] s ∧ (Play.start 3 (.ofNat 2) .cellar).outcome s = some (.ok (), t) ∧
      s.display.content .message = some (.showMessage "Locked." []) ∧
      t.display.message = some ("Locked.", []) :=
  ⟨_, _, @Reached.call _ _ _ (.handle (.objectClicked "up")) 3 _
    (@Reached.start _ _ _ 3 (.ofNat 1) .porch _ (.fresh (.ofNat 0)) rfl) rfl, rfl, rfl, rfl⟩

/-- In the cellar, the message of the porch is still open: no cue of the start is about it. -/
theorem restarted_cellar :
    ∃ s t u, Reached ["up"] s ∧ (Play.start 3 (.ofNat 2) .cellar).outcome s = some (.ok (), t) ∧
      (Play.start 3 (.ofNat 3) .cellar).outcome (.withArrows (.ofNat 0) ["up"]) =
        some (.ok (), u) ∧ t.core = u.core ∧ ¬t.display.SameScreen u.display := by
  obtain ⟨s, t, hs, ht, hmessage, -⟩ := exists_reached_porch
  obtain ⟨u, hu, hcore, -, hscreen⟩ := hs.restarted ht (.ofNat 3) (.ofNat 0)
  refine ⟨s, t, u, hs, ht, hu, hcore, ?_⟩
  have hcues : u.display.cues.toList = [.createObject "up", .showLoading, .hideLoading] := by
    cases hu
    rfl
  rw [hscreen, hcues]
  intro hall
  obtain hnone | ⟨c, hc, hslot⟩ := hall .message
  · rw [hmessage] at hnone
    cases hnone
  · simp only [List.mem_cons, List.not_mem_nil, or_false] at hc
    rcases hc with rfl | rfl | rfl <;> cases hslot

/-- **Not every restart** leaves the screen of a first start. -/
theorem not_forall_sameScreen :
    ¬∀ (arrows : List String) (s t u : Session) (depth : Nat) (id id' fresh : Uuid)
      (world : World), Reached arrows s →
        (Play.start depth id world).outcome s = some (.ok (), t) →
        (Play.start depth id' world).outcome (.withArrows fresh arrows) = some (.ok (), u) →
          t.display.SameScreen u.display := by
  intro hall
  obtain ⟨s, t, hs, ht, -, hmessage⟩ := exists_reached_porch
  have hsame := hall _ s t _ 3 _ (.ofNat 3) (.ofNat 0) .cellar hs ht rfl
  rw [hsame.message] at hmessage
  cases hmessage

end Adventure
