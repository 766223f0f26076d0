import Adventure.Proofs.CueLog
import Adventure.Proofs.Oblivion

/-!
# The texts of answers

The code with which a puzzle was solved is kept as it was typed, to be shown in the code input of
its scene.  Nothing else is done with it: what a session does depends on which puzzles are solved,
and not on the codes that have solved them.

## Main definitions

* `Cue.SameBut T`: two cues are the same, but for the text of a disabled code input
* `Session.SameBut T s u`: two sessions are the same, but for the texts of answers
* `Entry`, `Session.driven`: entry points one after the other, and what they have ended with

## Main results

* `Session.seamless_sameBut`: nothing that is done with the two sessions tells them apart
* `answer_texts_unread`: whole runs do not, and neither do two ways to write a code
-/

namespace Adventure

open Session

/-! ## The same but for answers -/

variable {T : String → String → String → Prop}

/-- Two cues are the same, or show a disabled code input with the two answers to a puzzle. -/
inductive Cue.SameBut (T : String → String → String → Prop) : Cue → Cue → Prop where
  | same (c : Cue) : SameBut T c c
  | answer {puzzle x y : String} (h : T puzzle x y) :
      SameBut T (.showCodeInput false x) (.showCodeInput false y)

/-- The display without the code input and the cues. -/
def Display.textless (d : Display) : Display := { d with cues := #[], codeInput := none }

namespace Session

/-- The session without the answers, the code input and the cues. -/
def textless (s : Session) : Session :=
  { s with player := { s.player with answers := ∅ }, display := s.display.textless }

/-- **Two sessions are the same but for the texts of answers**: the same puzzles are solved, and
where their answers differ, or what a disabled code input shows or has shown, `T` tells the puzzle
and the two texts. -/
structure SameBut (T : String → String → String → Prop) (s u : Session) : Prop where
  answers : ∀ puzzle, Option.Rel (fun x y => x = y ∨ T puzzle x y) (s.player.answers.get? puzzle)
    (u.player.answers.get? puzzle)
  input : s.display.codeInput = u.display.codeInput ∨ ∃ puzzle x y, T puzzle x y ∧
    s.display.codeInput = some (false, x) ∧ u.display.codeInput = some (false, y)
  log : s.log.Forall₂ (Cue.SameBut T) u.log
  rest : s.textless = u.textless

variable {s u : Session} {c c' : Cue}

theorem SameBut.refl (T : String → String → String → Prop) (s : Session) : s.SameBut T s where
  answers puzzle := by
    cases s.player.answers.get? puzzle with
    | none => exact .none
    | some x => exact .some (.inl rfl)
  input := .inl rfl
  log := List.forall₂_same.2 fun c _ => .same c
  rest := rfl

theorem SameBut.isSolved (h : s.SameBut T u) (puzzle : String) :
    s.player.isSolved puzzle = u.player.isSolved puzzle := by
  have hanswers := h.answers puzzle
  unfold Player.isSolved Table.contains
  generalize s.player.answers.get? puzzle = x at hanswers
  generalize u.player.answers.get? puzzle = y at hanswers
  cases hanswers <;> rfl

/-- The same puzzles are solved. -/
theorem SameBut.masked (h : s.SameBut T u) :
    (s.player.answers.map fun _ => "") = u.player.answers.map fun _ => "" := by
  apply Table.ext_get?
  intro puzzle
  have hanswers := h.answers puzzle
  rw [Table.get?_map, Table.get?_map]
  generalize s.player.answers.get? puzzle = x at hanswers
  generalize u.player.answers.get? puzzle = y at hanswers
  cases hanswers <;> rfl

theorem SameBut.view (h : s.SameBut T u) : s.view = u.view := by
  have hview : ∀ s : Session, s.view = { s.textless.view with
      player := { s.textless.view.player with answers := s.player.answers.map fun _ => "" } } :=
    fun _ => rfl
  rw [hview s, hview u, h.rest, h.masked]

/-- Sessions stay the same but for answers if the same is done to both, and nothing is shown. -/
theorem SameBut.update (h : s.SameBut T u) {f : Session → Session}
    (hrest : ∀ s : Session, (f s.textless).textless = (f s).textless)
    (hinput : ∀ s, (f s).display.codeInput = s.display.codeInput) (hlog : ∀ s, (f s).log = s.log)
    (hanswers : ∀ puzzle, Option.Rel (fun x y => x = y ∨ T puzzle x y)
      ((f s).player.answers.get? puzzle) ((f u).player.answers.get? puzzle)) :
    (f s).SameBut T (f u) where
  answers := hanswers
  input := by rw [hinput, hinput]; exact h.input
  log := by rw [hlog, hlog]; exact h.log
  rest := by rw [← hrest s, h.rest, hrest u]

/-- What the code input holds has no effect on the rest of the display. -/
theorem textless_perform (d : Display) (hc : c.SameBut T c') :
    (d.perform c).textless = (d.textless.perform c').textless := by
  cases hc with
  | answer => rfl
  | same =>
    cases c with
    | play key looped => cases looped <;> rfl
    | _ => rfl

theorem textless_withPlayer {f : Player → Player} (hf : Player.Aside f) (s : Session) :
    (s.textless.withPlayer (f s.textless.player)).textless =
      (s.withPlayer (f s.player)).textless := by
  have haside := congrArg (fun p => (s.withPlayer p).textless) (hf.withAnswers s.player ∅)
  exact haside

/-- Cues that are the same but for answers leave sessions that are. -/
theorem SameBut.cued (h : s.SameBut T u) (hc : c.SameBut T c') :
    (s.cued [c]).SameBut T (u.cued [c']) where
  answers := h.answers
  input := by
    show (s.display.perform c).codeInput = (u.display.perform c').codeInput ∨ _
    cases hc with
    | answer hT => exact .inr ⟨_, _, _, hT, rfl, rfl⟩
    | same =>
      cases c with
      | showCodeInput | hideCodeInput => exact .inl rfl
      | clearCodeInput =>
        -- An input that is cleared is empty, whatever it has held.
        have hcleared : ∀ d : Display, (d.perform .clearCodeInput).codeInput =
            d.codeInput.map fun input => (input.1, "") := fun _ => rfl
        left
        rw [hcleared, hcleared]
        rcases h.input with heq | ⟨puzzle, x, y, -, hx, hy⟩
        · rw [heq]
        · rw [hx, hy]
          rfl
      | play key looped => cases looped <;> exact h.input
      | _ => exact h.input
  log := by
    rw [log_cued, log_cued]
    exact List.rel_append h.log (.cons hc .nil)
  rest := by
    have hcued : ∀ {c c' : Cue}, c.SameBut T c' → ∀ s : Session, (s.cued [c]).textless =
        s.textless.withDisplay (s.textless.display.perform c').textless :=
      fun hc s => congrArg s.textless.withDisplay (textless_perform s.display hc)
    rw [hcued hc, hcued (.same c'), h.rest]

/-- The same for several cues. -/
theorem SameBut.cues (h : s.SameBut T u) (cues : List Cue) :
    (s.cued cues).SameBut T (u.cued cues) := by
  induction cues generalizing s u with
  | nil => exact h
  | cons c cues ih => exact ih (h.cued (.same c))

/-- What is recorded as the answer to a puzzle may differ. -/
theorem SameBut.recorded (h : s.SameBut T u) {puzzle x y : String} (hT : x = y ∨ T puzzle x y) :
    (s.withPlayer (s.player.recordAnswer puzzle x)).SameBut T
      (u.withPlayer (u.player.recordAnswer puzzle y)) where
  answers other := by
    show Option.Rel _ ((s.player.answers.insert puzzle x).get? other)
      ((u.player.answers.insert puzzle y).get? other)
    rw [Table.get?_insert, Table.get?_insert]
    split
    · next heq => exact .some (heq ▸ hT)
    · exact h.answers other
  input := h.input
  log := h.log
  rest := h.rest

/-- **The code input of a scene** shows the same, or the two answers to its puzzle. -/
theorem SameBut.shown (h : s.SameBut T u) (scene : Scene) :
    Option.Rel (fun i j =>
        (s.cued [.showCodeInput i.1 i.2]).SameBut T (u.cued [.showCodeInput j.1 j.2]))
      (s.codeInput? scene) (u.codeInput? scene) := by
  unfold codeInput?
  cases scene.puzzle with
  | none => exact .none
  | some puzzle =>
    dsimp only
    cases scene.showsCodeInput with
    | false => exact .none
    | true =>
      have hanswers := h.answers puzzle
      simp only [Bool.not_true, Bool.false_eq_true, ↓reduceIte]
      generalize s.player.answers.get? puzzle = x at hanswers
      generalize u.player.answers.get? puzzle = y at hanswers
      cases hanswers with
      | some hT =>
        refine .some ?_
        rcases hT with rfl | hT
        · exact h.cued (.same _)
        · exact h.cued (.answer hT)
      | none =>
        -- A puzzle that is not solved shows how many others are not.
        have hcount : s.player.unsolvedCount scene.prerequisites =
            u.player.unsolvedCount scene.prerequisites := by
          unfold Player.unsolvedCount
          simp only [h.isSolved]
        have hcatalog : s.catalog = u.catalog := congrArg (·.catalog) h.rest
        dsimp only
        rw [hcount, hcatalog]
        split <;> exact .some (h.cued (.same _))

/-- **No operation can tell the texts of answers apart.** -/
theorem seamless_sameBut (T : String → String → String → Prop) : Seamless (SameBut T) where
  view h := h.view
  cued h _ := h.cued (.same _)
  noted n h := h.update (f := fun s => s.noted n) (fun _ => rfl) (fun _ => rfl) (fun _ => rfl)
    h.answers
  changed {s u} f h hf := h.update (f := fun s => s.withPlayer (f s.player))
    (textless_withPlayer hf) (fun _ => rfl) (fun _ => rfl)
    (by simpa [withPlayer, hf.answers] using h.answers)
  opened scripts h := h.update (f := fun s => s.withPlayer { s.player with pending := scripts })
    (fun _ => rfl) (fun _ => rfl) (fun _ => rfl) h.answers
  recorded puzzle code h := h.recorded (.inl rfl)
  shown scene h := h.shown scene
  learned f h := h.update (f := fun s => s.withCatalog (f s.catalog)) (fun _ => rfl)
    (fun _ => rfl) (fun _ => rfl) h.answers
  noticed isOpen h := h.update (f := fun s => s.withNotice isOpen) (fun _ => rfl)
    (fun _ => rfl) (fun _ => rfl) h.answers
  batched {s u} stage h := by
    have hwaits := h.update (f := fun s => { s with
        batchCount := s.batchCount + 1
        pendingLoads := s.pendingLoads ++ [(s.batchCount, stage)] }.noted
          (.stagePreloading stage s.batchCount))
      (fun _ => rfl) (fun _ => rfl) (fun _ => rfl) h.answers
    have hcount : s.batchCount = u.batchCount := congrArg (·.batchCount) h.rest
    have hcued := hwaits.cued (.same (.startBatch s.batchCount))
    rw [batched, batched, ← hcount] at *
    exact hcued
  scheduled {s u} duration script h := by
    have hwaits := h.update (f := fun s => { s with
        timerCount := s.timerCount + 1
        pendingTimers := s.pendingTimers ++ [(s.timerCount, script)] })
      (fun _ => rfl) (fun _ => rfl) (fun _ => rfl) h.answers
    have hcount : s.timerCount = u.timerCount := congrArg (·.timerCount) h.rest
    have hcued := hwaits.cued (.same (.after duration s.timerCount))
    rw [scheduled, scheduled, ← hcount] at *
    exact hcued
  pending h := congrArg (·.player.pending) h.rest
  loads h := congrArg (·.pendingLoads) h.rest
  reported batch h := h.update (f := fun s => s.reported batch) (fun _ => rfl)
    (fun _ => rfl) (fun _ => rfl) h.answers
  timers h := congrArg (·.pendingTimers) h.rest
  fired timer h := h.update (f := fun s => s.fired timer) (fun _ => rfl)
    (fun _ => rfl) (fun _ => rfl) h.answers
  queue h := congrArg (·.queue) h.rest
  requeued q h := h.update (f := fun s => s.withQueue q) (fun _ => rfl)
    (fun _ => rfl) (fun _ => rfl) h.answers
  batchesTaken h := h.update (f := fun s => s.withDisplay { s.display with batches := [] })
    (fun _ => rfl) (fun _ => rfl) (fun _ => rfl) h.answers
  timersTaken h := h.update (f := fun s => s.withDisplay { s.display with timers := [] })
    (fun _ => rfl) (fun _ => rfl) (fun _ => rfl) h.answers
  begun {s u} id world h := by
    have hreset := h.update (f := fun s => { s with
        world := some world
        catalog := ({ parameters := world.parameters } : Catalog).addArrows s.arrows
        player := { sessionId := id }
        queue := []
        pendingLoads := []
        pendingTimers := []
        noticeOpen := false }) (fun _ => rfl) (fun _ => rfl) (fun _ => rfl) fun _ => .none
    have harrows : s.arrows = u.arrows := congrArg (·.arrows) h.rest
    have hcued := hreset.cues (s.arrows.map .createObject)
    rw [begun, begun, ← harrows] at *
    exact hcued

end Session

/-! ## Entry points -/

/-- An entry point of a session: the start of a world, or a call. -/
inductive Entry where
  | start (id : Uuid) (world : World)
  | call (c : Call)

/-- The operation of an entry point. -/
def Entry.play (depth : Nat) : Entry → Play Unit
  | start id world => Play.start depth id world
  | call c => c.play depth

/-- Entry points one after the other, whatever each of them ends with, and with scripts nested up to
a depth of its own: what they have ended with, and the session that is left.  There is no answer if
one of them has none. -/
def Session.driven : List (Nat × Entry) → Session → Option (List (Except Error Unit) × Session)
  | [], s => some ([], s)
  | (depth, entry) :: rest, s =>
    match (entry.play depth).outcome s with
    | none => none
    | some (r, t) => (driven rest t).map fun o => (r :: o.1, o.2)

/-- **Whole runs** do the same in related sessions. -/
theorem Seamless.driven {A : Session → Session → Prop} (k : Seamless A)
    (entries : List (Nat × Entry)) {s u : Session} (h : A s u) :
    Option.Rel (fun o o' => o.1 = o'.1 ∧ A o.2 o'.2) (driven entries s) (driven entries u) := by
  induction entries generalizing s u with
  | nil => exact .some ⟨rfl, h⟩
  | cons e rest ih =>
    obtain ⟨depth, entry⟩ := e
    have hentry : (entry.play depth).Oblivious A := by
      cases entry with
      | start id world => exact k.start depth id world
      | call c => exact k.call depth c
    have hends := hentry s u h
    unfold Session.driven
    generalize (entry.play depth).outcome s = o at hends
    generalize (entry.play depth).outcome u = o' at hends
    cases hends with
    | none => exact .none
    | @some x x' hend =>
      obtain ⟨r, t⟩ := x
      obtain ⟨r', v⟩ := x'
      obtain ⟨rfl, hrelated⟩ := hend
      -- The entry points behind this one find sessions that are related again.
      have hrest := ih hrelated
      dsimp only at hrest ⊢
      generalize Session.driven rest t = o at hrest
      generalize Session.driven rest v = o' at hrest
      cases hrest with
      | none => exact .none
      | some hend => exact .some ⟨congrArg (r :: ·) hend.1, hend.2⟩

/-! ## Answers that are not read -/

/-- **The texts of answers are not read.**  From two sessions that are the same but for them, entry
points end with the same, one by one, and leave sessions that are the same but for them; so do
pumping and hints, which return something.  And from one session, two codes that are the same in
lower case, blanks around them aside, are submitted with the same result, and the sessions that are
left differ only in that answer and in what shows it. -/
theorem answer_texts_unread :
    (∀ T s u entries, Session.SameBut T s u →
      Option.Rel (fun o o' => o.1 = o'.1 ∧ o.2.SameBut T o'.2) (driven entries s)
        (driven entries u)) ∧
    (∀ T depth, (Play.pump depth).Oblivious (Session.SameBut T)) ∧
    (∀ T puzzle index, (Play.requestHint puzzle index).Oblivious (Session.SameBut T)) ∧
    ∀ depth (s : Session) puzzle code code',
      Text.lower (Text.trim code) = Text.lower (Text.trim code') →
      Option.Rel
        (fun o o' => o.1 = o'.1 ∧ o.2.SameBut (fun solved x y => s.puzzleFor puzzle = .ok solved ∧
          x = Text.trim code ∧ y = Text.trim code') o'.2)
        ((Play.submitCode (Play.execute depth) puzzle code).outcome s)
        ((Play.submitCode (Play.execute depth) puzzle code').outcome s) := by
  refine ⟨fun T s u entries h => (seamless_sameBut T).driven entries h,
    fun T depth => (seamless_sameBut T).pump depth,
    fun T puzzle index => (seamless_sameBut T).requestHint puzzle index, ?_⟩
  intro depth s puzzle code code' hlower
  have k := (seamless_sameBut fun solved x y => s.puzzleFor puzzle = .ok solved ∧
    x = Text.trim code ∧ y = Text.trim code').toBlind
  exact k.submitCodes (k.execute depth) hlower (.refl _ s) fun solved hsolved _ _ h =>
    h.recorded (.inr ⟨hsolved, rfl, rfl⟩)

/-- A world with a gem box, whose lid is locked. -/
def World.box : World where
  stages := [
    { id := "table"
      scenes := [
        { id := "lid"
          interactive := .ofList [("up", [.new (.enterCode (some "lock") "opal")])]
          puzzle := some "lock" }] },
    { id := "tray"
      loadActions := [.new (.showText "Gems!")] }]
  puzzles := .ofList [("lock", { code := some "opal", stage := some "tray", hints := ["White."] })]

/-- The box is opened with a code in two ways, and the code input shows which it was. -/
theorem exists_played_box :
    ∃ s t u, Played (fun _ _ => True) ["up"] .box s ∧
      (Play.submitCode (Play.execute 3) none " OPAL ").outcome s = some (.ok (), t) ∧
      (Play.submitCode (Play.execute 3) none "opal").outcome s = some (.ok (), u) ∧
      t.display.codeInput = some (false, "OPAL") ∧ u.display.codeInput = some (false, "opal") :=
  ⟨_, _, _, @Played.start (fun _ _ => True) ["up"] .box 3 (.ofNat 0) (.ofNat 1) _ _ rfl,
    rfl, rfl, rfl, rfl⟩

/-- Nothing that is done with the box afterwards tells in which way it was opened. -/
theorem answer_texts_unread_box :
    ∃ t u, t.display.codeInput = some (false, "OPAL") ∧ u.display.codeInput = some (false, "opal") ∧
      ∀ entries, Option.Rel (fun o o' => o.1 = o'.1) (driven entries t) (driven entries u) := by
  obtain ⟨s, t, u, -, ht, hu, hinput, hinput'⟩ := exists_played_box
  have hsubmit := answer_texts_unread.2.2.2 3 s none " OPAL " "opal" (by decide)
  rw [ht, hu] at hsubmit
  obtain ⟨-, hsame⟩ | _ := hsubmit
  refine ⟨t, u, hinput, hinput', fun entries => ?_⟩
  have hends := answer_texts_unread.1 _ t u entries hsame
  generalize driven entries t = o at hends
  generalize driven entries u = o' at hends
  cases hends with
  | none => exact .none
  | some hend => exact .some hend.1

end Adventure
