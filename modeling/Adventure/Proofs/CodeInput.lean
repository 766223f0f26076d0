import Adventure.Proofs.Veil

/-!
# The code input

What the code input shows is determined when it is refreshed: whether the puzzle of the current
scene can be solved, and the answer or how many puzzles must be solved before.  Answers are recorded
while any scene is current, but never without a refresh, so the code input agrees with the answers.

A blocking message hides the code input, and a scene that is entered under the message hides its own
again.  A code that is accepted under the message shows it, without a look at the message.

## Main definitions

* `Session.Honest`: the code input agrees with the answers
* `Session.Lingers`: steps under one message, with the code input on screen
* `World.lift`: a world in which a code is accepted under a blocking message

## Main results

* `Session.Presents.honest`: every step keeps the code input in agreement with the answers
* `Played.codeInput_honest`: what the code input says in every session
* `Played.codeInput_blocked`: when the code input is on screen under a blocking message
-/

namespace Adventure

open Session

/-! ## What is to be shown -/

theorem Player.unsolvedCount_eq_zero_iff {p : Player} {puzzles : List String} :
    p.unsolvedCount puzzles = 0 ↔ ∀ puzzle ∈ puzzles, p.isSolved puzzle = true := by
  simp [unsolvedCount, List.countP_eq_zero]

namespace Session

variable {s t u : Session}

theorem isSome_codeInput? (s : Session) (scene : Scene) :
    (s.codeInput? scene).isSome = scene.showsCodeInput := by
  unfold codeInput?
  split
  · next hp => simp [Scene.showsCodeInput, hp]
  · split
    · next hhidden => simpa using hhidden
    · next hshows =>
      split
      · simpa using hshows
      · dsimp only
        split <;> simpa using hshows

theorem codeInput?_congr (ha : t.player.answers = s.player.answers)
    (hp : t.catalog.parameters = s.catalog.parameters) (scene : Scene) :
    t.codeInput? scene = s.codeInput? scene := by
  unfold codeInput? Player.unsolvedCount Player.isSolved
  rw [ha, hp]

/-- What the code input of a scene shows, in terms of what is solved. -/
theorem codeInput?_eq_some {scene : Scene} {enabled : Bool} {text : String}
    (h : s.codeInput? scene = some (enabled, text)) :
    ∃ puzzle, scene.puzzle = some puzzle ∧
      (enabled = true ↔ s.player.isSolved puzzle = false ∧
        ∀ other ∈ scene.prerequisites, s.player.isSolved other = true) ∧
      (text = "" ∨ s.player.answers.get? puzzle = some text ∨
        s.player.isSolved puzzle = false ∧ s.player.unsolvedCount scene.prerequisites ≠ 0 ∧
          text = s.catalog.parameters.lockedMessage
            (s.player.unsolvedCount scene.prerequisites)) := by
  unfold codeInput? at h
  cases hp : scene.puzzle with
  | none => simp [hp] at h
  | some puzzle =>
    refine ⟨puzzle, rfl, ?_⟩
    rw [hp] at h
    dsimp only at h
    split at h
    · cases h
    · cases hanswer : s.player.answers.get? puzzle with
      | some code =>
        -- A solved puzzle takes no other code.
        have hsolved : s.player.isSolved puzzle = true := Table.contains_of_get? hanswer
        rw [hanswer] at h
        cases h
        exact ⟨by simp [hsolved], .inr (.inl rfl)⟩
      | none =>
        have hsolved : s.player.isSolved puzzle = false := Table.get?_eq_none_iff.1 hanswer
        rw [hanswer] at h
        dsimp only at h
        rw [← Player.unsolvedCount_eq_zero_iff]
        split at h
        · next hzero =>
          cases h
          exact ⟨by simp [hsolved, hzero], .inl rfl⟩
        · next hlocked =>
          cases h
          exact ⟨by simp [hlocked], .inr (.inr ⟨hsolved, hlocked, rfl⟩)⟩

/-! ## What is shown -/

/-- **The code input on screen** is the one that would be shown now, except that its text may have
been cleared. -/
def Honest (s : Session) : Prop :=
  ∀ input, s.display.codeInput = some input →
    ∃ scene text, s.here? = some scene ∧ s.codeInput? scene = some (input.1, text) ∧
      (input.2 = "" ∨ input.2 = text)

theorem honest_of_none (h : s.display.codeInput = none) : s.Honest := by
  intro input hinput
  cases h.symm.trans hinput

theorem Honest.congr (h : s.Honest) (hhere : t.here? = s.here?)
    (ha : t.player.answers = s.player.answers)
    (hp : t.catalog.parameters = s.catalog.parameters)
    (hi : t.display.codeInput = s.display.codeInput) : t.Honest := by
  intro input hinput
  obtain ⟨scene, text, hscene, htext, hprefill⟩ := h input (hi ▸ hinput)
  exact ⟨scene, text, hhere.trans hscene, (codeInput?_congr ha hp scene).trans htext, hprefill⟩

theorem Honest.aside (h : s.Honest) (ha : s.Aside t) : t.Honest :=
  h.congr ha.here ha.answers ha.catalog.parameters ha.codeInput

theorem Honest.cleared (h : s.Honest) : (s.cued [.clearCodeInput]).Honest := by
  intro input hinput
  have hmap : s.display.codeInput.map (fun old => (old.1, "")) = some input := hinput
  obtain ⟨old, hold, rfl⟩ := Option.map_eq_some_iff.1 hmap
  obtain ⟨scene, text, hscene, htext, -⟩ := h old hold
  exact ⟨scene, text, hscene, htext, .inl rfl⟩

/-- **A refresh** makes the code input agree with the answers, whatever it showed before. -/
theorem Contained.honest_input (h : s.Contained) : (s.cued s.inputCues).Honest := by
  cases hinput : s.here?.bind s.codeInput? with
  | none =>
    -- In a scene without a code input none is on screen.
    apply honest_of_none
    have hcues : s.inputCues = [] := by rw [inputCues, hinput]
    rw [hcues, cued_nil, ← Option.not_isSome_iff_eq_none]
    intro hsome
    obtain ⟨scene, hscene, hshows⟩ := h.codeInput hsome
    rw [hscene, Option.bind_some] at hinput
    rw [← isSome_codeInput? s scene, hinput] at hshows
    cases hshows
  | some input =>
    obtain ⟨enabled, text⟩ := input
    obtain ⟨scene, hscene, htext⟩ := Option.bind_eq_some_iff.1 hinput
    have hcues : s.inputCues = [.showCodeInput enabled text] := by rw [inputCues, hinput]
    rw [hcues]
    intro input hshown
    cases hshown
    exact ⟨scene, text, hscene, htext, .inr rfl⟩

theorem Contained.honest_shown (h : s.Contained) {plan : List (String × Bool)}
    (hplan : s.plan? = .ok plan) : (s.shown plan).Honest := by
  have hinput := (h.planned hplan).honest_input
  rwa [inputCues_cued, cued_cued] at hinput

theorem codeInput_hidden_true (s : Session) :
    (s.hidden true).display.codeInput = s.display.codeInput := by
  rw [codeInput_hidden]
  split <;> rfl

theorem Honest.covered (h : s.Honest) (hc : s.Contained) : (s.cued s.coverCues).Honest := by
  unfold coverCues
  split
  · exact honest_of_none hc.codeInput_hidden
  · split
    · exact h.congr rfl rfl rfl (codeInput_hidden_true s)
    · exact h

theorem Enters.honest (h : s.Enters t) (hc : s.Contained) : t.Honest := by
  cases h with
  | shown first hscene hknown hplan =>
    have harrived := hc.left.arrived hscene hknown
    have hcovered := (harrived.honest_shown hplan).covered (harrived.shown hplan)
    exact hcovered.congr rfl rfl rfl rfl

theorem Contained.codeInput_arrived (h : s.Contained) (id : String) :
    (s.left.arrived id).display.codeInput = none := by
  rw [(cues_arrived s.left id).codeInput (by simp)]
  exact h.left.codeInput

/-- The code input of the recorded answer. -/
theorem Contained.honest_solved (h : s.Contained) (puzzle code : String) :
    (s.solved puzzle code).Honest := by
  have hrecorded : Contained { s with player := s.player.recordAnswer puzzle code } :=
    h.congr rfl rfl rfl
  exact hrecorded.honest_input

/-- **Every step** keeps the code input in agreement with the answers. -/
theorem Presents.honest (h : s.Presents t) (hc : s.Contained) (hs : s.Honest) : t.Honest := by
  cases h with
  | aside h => exact hs.aside h
  | accept h =>
    cases h with
    | code hp ht hmem hl h => exact (hc.honest_solved _ _).aside h
  | clear => exact hs.cleared
  | hide => exact honest_of_none hc.codeInput_hidden
  | notice text =>
    rw [noticed_eq_hidden]
    exact hs.congr rfl rfl rfl (codeInput_hidden_true (s.opened text [] none true))
  | block text buttons scripts =>
    rw [blocked_eq_hidden]
    exact honest_of_none (hc.opened text buttons (some scripts) false).codeInput_hidden
  | close ho hplan => exact hc.noticeClosed.honest_shown hplan
  | answer hp hplan => exact hc.answered.honest_shown hplan
  | closed | answered => exact hs.congr rfl rfl rfl rfl
  | enter h => exact h.honest hc
  | @strand id => exact honest_of_none (hc.codeInput_arrived id)

/-! ## Under a blocking message -/

/-- A scene that is entered under a blocking message does not show its code input. -/
theorem Enters.codeInput (h : s.Enters t) (hc : s.Contained) (hb : t.player.isBlocked = true) :
    t.display.codeInput = none := by
  cases h with
  | @shown id scene plan first hscene hknown hplan =>
    have hshown := (hc.left.arrived hscene hknown).shown hplan
    have hcover : (s.left.arrived id).coverCues = (s.left.arrived id).hidingCues false := if_pos hb
    have hdisplay : ((s.left.arrived id).entered id plan first).display =
        (((s.left.arrived id).shown plan).hidden false).display := by
      rw [entered, hcover]
      rfl
    rw [hdisplay]
    exact hshown.codeInput_hidden

/-- **What brings the code input on screen** under a blocking message is a code that is accepted. -/
theorem Presents.accepts (h : s.Presents t) (hc : s.Contained) (ho : s.OneMessage)
    (hb : t.player.isBlocked = true) (hi : t.display.codeInput.isSome = true) :
    t.player.pending = s.player.pending ∧ (s.display.codeInput.isSome = true ∨ s.Accepts t) := by
  -- A step after which the code input is hidden, or the message is closed, is none of these.
  have hhidden : t.display.codeInput ≠ none := by
    intro hnone
    rw [hnone] at hi
    cases hi
  have hopen : t.player.pending ≠ none := by
    intro hnone
    rw [Player.isBlocked, hnone] at hb
    cases hb
  cases h with
  | aside h => exact ⟨h.pending, .inl (h.codeInput ▸ hi)⟩
  | accept h =>
    refine ⟨?_, .inr h⟩
    cases h with
    | code hp ht hmem hl h => exact h.pending
  | clear =>
    have hmap : (s.display.codeInput.map fun old => (old.1, "")).isSome = true := hi
    exact ⟨rfl, .inl (by rwa [Option.isSome_map] at hmap)⟩
  | hide => exact absurd hc.codeInput_hidden hhidden
  | notice text => exact absurd rfl hopen
  | block text buttons scripts =>
    exact absurd (hc.opened text buttons (some scripts) false).codeInput_hidden hhidden
  | close hnotice | closed hnotice => exact absurd (ho.exclusive hnotice) hopen
  | answer | answered => exact absurd rfl hopen
  | enter h => exact absurd (h.codeInput hc hb) hhidden
  | @strand id => exact absurd (hc.codeInput_arrived id) hhidden

theorem isSome_codeInput_cued {scene : Scene} (hscene : s.here? = some scene)
    (hshows : scene.showsCodeInput = true) :
    (s.cued s.inputCues).display.codeInput.isSome = true := by
  have hsome := (isSome_codeInput? s scene).trans hshows
  obtain ⟨input, hinput⟩ := Option.isSome_iff_exists.1 hsome
  rw [inputCues, hscene, Option.bind_some, hinput]
  rfl

/-- A code that is accepted brings the code input of the current scene on screen and leaves the
message open. -/
theorem Accepts.shows (h : s.Accepts t) {scene : Scene} (hscene : s.here? = some scene)
    (hshows : scene.showsCodeInput = true) :
    t.player.pending = s.player.pending ∧ t.display.codeInput.isSome = true := by
  cases h with
  | @code puzzle code stage declared targets t hp ht hmem hl h =>
    refine ⟨h.pending, ?_⟩
    rw [h.codeInput]
    exact isSome_codeInput_cued
      (s := { s with player := s.player.recordAnswer puzzle (Text.trim code) }) hscene hshows

/-- The current scene is the same when a code is accepted. -/
theorem Accepts.here (h : s.Accepts t) : t.here? = s.here? := by
  cases h with
  | code hp ht hmem hl h => exact h.here

/-- Steps under one message, with the code input on screen. -/
def Lingers : Session → Session → Prop :=
  Relation.ReflTransGen fun s t =>
    s.Step t ∧ t.player.pending = s.player.pending ∧ t.display.codeInput.isSome = true

theorem Lasts.lingers {pending : Option (List Script)}
    (h : s.Lasts (fun t => t.player.pending = pending ∧ t.display.codeInput.isSome = true) t) :
    s.Lingers t := by
  induction h with
  | refl => exact .refl
  | tail _ h ih => exact ih.tail ⟨h.1, h.2.2.1.trans h.2.1.1.symm, h.2.2.2⟩

end Session

/-! ## Sessions -/

section

variable {arrows : List String} {world : World} {s t : Session}

theorem Underway.honest (hw : world.DistinctScenes) (h : Underway arrows world s) : s.Honest := by
  refine h.invariant (I := Honest) (fun id => honest_of_none rfl) ?_ ?_
  · intro id id'
    exact honest_of_none ((cues_begun (withArrows id arrows) id' world).codeInput (by simp))
  · intro s t hunder hs hstep
    exact (hunder.presents hw hstep).honest (hunder.contained hw) hs

/-- **The code input never lies about the lock**, in any session of a world that declares no scene
twice: it is there only if the current scene has a puzzle; it is enabled exactly if that puzzle is
not solved and all that must be solved before are; and it is empty, or holds the answer of the
puzzle, or says how many others must be solved before. -/
theorem Played.codeInput_honest (hw : world.DistinctScenes)
    (h : Played (fun _ _ => True) arrows world s) {enabled : Bool} {prefill : String}
    (hinput : s.display.codeInput = some (enabled, prefill)) :
    ∃ scene puzzle, s.here? = some scene ∧ scene.puzzle = some puzzle ∧
      (enabled = true ↔ s.player.isSolved puzzle = false ∧
        ∀ other ∈ scene.prerequisites, s.player.isSolved other = true) ∧
      (prefill = "" ∨ s.player.answers.get? puzzle = some prefill ∨
        s.player.isSolved puzzle = false ∧ s.player.unsolvedCount scene.prerequisites ≠ 0 ∧
          prefill = s.catalog.parameters.lockedMessage
            (s.player.unsolvedCount scene.prerequisites)) := by
  obtain ⟨scene, text, hscene, htext, hprefill⟩ := h.underway.honest hw _ hinput
  obtain ⟨puzzle, hpuzzle, henabled, hcases⟩ := codeInput?_eq_some htext
  refine ⟨scene, puzzle, hscene, hpuzzle, henabled, ?_⟩
  rcases hprefill with rfl | rfl
  · exact .inl rfl
  · exact hcases

/-- The lock of the gate can be tried after the start. -/
theorem codeInput_honest_gate :
    ∃ s, Played (fun _ _ => True) ["left"] .gate s ∧ s.display.codeInput = some (true, "") ∧
      ∃ scene puzzle, s.here? = some scene ∧ scene.puzzle = some puzzle ∧
        s.player.isSolved puzzle = false := by
  have h := @Played.start (fun _ _ => True) ["left"] .gate 3 (.ofNat 0) (.ofNat 1) _ _ rfl
  obtain ⟨scene, puzzle, hscene, hpuzzle, henabled, -⟩ :=
    h.codeInput_honest World.distinctScenes_gate rfl
  exact ⟨_, h, rfl, scene, puzzle, hscene, hpuzzle, (henabled.1 rfl).1⟩

/-- Where the code input under a blocking message comes from. -/
theorem Underway.exists_accepts (hw : world.DistinctScenes) (h : Underway arrows world s)
    (hb : s.player.isBlocked = true) (hi : s.display.codeInput.isSome = true) :
    ∃ t u, Underway arrows world t ∧ t.player.pending = s.player.pending ∧ t.Step u ∧
      t.Accepts u ∧ u.display.codeInput.isSome = true ∧ u.Lingers s := by
  have hclosed : s.player.pending ≠ none := by
    intro hnone
    rw [Player.isBlocked, hnone] at hb
    cases hb
  -- The code input came on screen under this message, and has been there since.
  obtain ⟨t, u, ht, hnot, hstep, ⟨hopen, hu⟩, hlasts⟩ := h.exists_onset
    (I := fun t => t.player.pending = s.player.pending ∧ t.display.codeInput.isSome = true)
    (fun _ hI => hclosed hI.1.symm) (fun _ _ hI => hclosed hI.1.symm) ⟨rfl, hi⟩
  have hblocked : u.player.isBlocked = true := by
    rw [Player.isBlocked, hopen]
    exact hb
  obtain ⟨hpending, hshown | haccepts⟩ :=
    (ht.presents hw hstep).accepts (ht.contained hw) ht.oneMessage hblocked hu
  · exact absurd ⟨hpending.symm.trans hopen, hshown⟩ hnot
  · exact ⟨t, u, ht, hpending.symm.trans hopen, hstep, haccepts, hu, hlasts.lingers⟩

/-- **The code input is on screen under a blocking message** exactly if a code was accepted, in a
scene with a code input, while the message was open, and the code input has been there since.
Nothing else shows it: not the scenes that are entered under the message, nor what becomes known. -/
theorem Played.codeInput_blocked (hw : world.DistinctScenes)
    (h : Played (fun _ _ => True) arrows world s) (hb : s.player.isBlocked = true) :
    s.display.codeInput.isSome = true ↔
      ∃ t u scene, Underway arrows world t ∧ t.player.pending = s.player.pending ∧
        t.here? = some scene ∧ scene.showsCodeInput = true ∧ t.Step u ∧ t.Accepts u ∧
        u.Lingers s := by
  constructor
  · intro hi
    obtain ⟨t, u, ht, hopen, hstep, haccepts, hu, hlingers⟩ := h.underway.exists_accepts hw hb hi
    obtain ⟨scene, hscene, hshows⟩ := ((ht.step hstep).contained hw).codeInput hu
    exact ⟨t, u, scene, ht, hopen, haccepts.here.symm.trans hscene, hshows, hstep, haccepts,
      hlingers⟩
  · rintro ⟨t, u, scene, ht, hopen, hscene, hshows, hstep, haccepts, hlingers⟩
    rcases hlingers.cases_tail with rfl | ⟨_, _, _, _, hi⟩
    · exact (haccepts.shows hscene hshows).2
    · exact hi

/-- A world with a lift, whose panel takes a code when the doors close. -/
def World.lift : World where
  stages := [
    { id := "ground"
      scenes := [
        { id := "cabin"
          interactive := .ofList [
            ("up", [.new (.blockingText "The doors close." none []),
              .new (.enterCode (some "panel") "7")])]
          puzzle := some "panel" }] },
    { id := "roof" }]
  puzzles := .ofList [("panel", { code := some "7", stage := some "roof" })]

theorem World.distinctScenes_lift : World.lift.DistinctScenes := by
  unfold World.DistinctScenes
  decide

/-- The panel lights up while the doors still close. -/
theorem exists_played_lift :
    ∃ s, Played (fun _ _ => True) ["up"] .lift s ∧ s.player.isBlocked = true ∧
      s.display.codeInput = some (false, "7") :=
  ⟨_, @Played.call _ _ _ _ _ (.handle (.objectClicked "up")) 3 _
    (@Played.start _ _ _ 3 (.ofNat 0) (.ofNat 1) _ _ rfl) trivial rfl, rfl, rfl⟩

/-- A code was accepted in the lift while the doors close. -/
theorem codeInput_blocked_lift :
    ∃ s, Played (fun _ _ => True) ["up"] .lift s ∧ s.player.isBlocked = true ∧
      ∃ t u, Underway ["up"] .lift t ∧ t.player.pending = s.player.pending ∧ t.Accepts u ∧
        u.Lingers s := by
  obtain ⟨s, h, hb, hi⟩ := exists_played_lift
  have hsome : s.display.codeInput.isSome = true := by
    rw [hi]
    rfl
  obtain ⟨t, u, -, ht, hopen, -, -, -, haccepts, hlingers⟩ :=
    (h.codeInput_blocked World.distinctScenes_lift hb).1 hsome
  exact ⟨s, h, hb, t, u, ht, hopen, haccepts, hlingers⟩

/-- A blocking message does not always hide the code input. -/
theorem not_forall_codeInput_hidden :
    ¬∀ (arrows : List String) (world : World) (s : Session), world.DistinctScenes →
      Played (fun _ _ => True) arrows world s → s.player.isBlocked = true →
        s.display.codeInput = none := by
  intro hall
  obtain ⟨s, h, hb, hi⟩ := exists_played_lift
  cases hi.symm.trans (hall _ _ s World.distinctScenes_lift h hb)

end

end Adventure
