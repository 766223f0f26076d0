import Adventure.Proofs.Reachability

/-!
# What a session knows only grows

Calls make more of the world known and take the player further, whether they succeed or fail.
Nothing of either is lost until the session is started again.  So a guard that asks only for what
was reached, and never for what was not, holds from then on.

## Main definitions

* `Guard.isPositive`: the guard asks for solved puzzles, visited scenes and loaded stages only

## Main results

* `Call.extends`: no call takes anything away
* `Guard.lasts`: positive guards keep to hold
* `Reached.world_only_grows`: both for all later sessions
-/

namespace Adventure

open Session

/-! ## Guards that ask for what was reached -/

mutual

/-- Whether a guard asks for solved puzzles, visited scenes and loaded stages only, and nothing in
it is negated. -/
def Guard.isPositive : Guard → Bool
  | ⟨condition, negate⟩ => !negate && condition.isPositive

/-- Whether a condition asks for what was reached only. -/
def Condition.isPositive : Condition → Bool
  | .all guards => Condition.allPositive guards
  | .puzzleSolved _ | .sceneVisited _ | .stageLoaded _ => true
  | .variableIs .. | .unrecognized _ => false

/-- Whether all guards of a list ask for what was reached only. -/
def Condition.allPositive : List Guard → Bool
  | [] => true
  | guard :: guards => guard.isPositive && Condition.allPositive guards

end

/-- A guard that is not negated holds if its condition does. -/
theorem Guard.evaluate_of_not_negate (p : Player) (condition : Condition) :
    Guard.evaluate p ⟨condition, false⟩ = condition.evaluate p := by
  rw [Guard.evaluate]
  cases condition.evaluate p with
  | error e => rfl
  | ok holds => cases holds <;> rfl

/-- A conjunction holds if its first guard and the others do. -/
theorem Condition.evaluateAll_cons_eq_true {p : Player} {guard : Guard} {guards : List Guard} :
    Condition.evaluateAll p (guard :: guards) = .ok true ↔
      guard.evaluate p = .ok true ∧ Condition.evaluateAll p guards = .ok true := by
  rw [Condition.evaluateAll]
  cases guard.evaluate p with
  | error e => simp [bind, Except.bind]
  | ok holds => cases holds <;> simp [bind, Except.bind]

section

variable {s t : Session}

mutual

/-- **A positive guard that holds keeps to hold**, where nothing is lost. -/
theorem Guard.lasts (h : s.Extends t) : ∀ g : Guard, g.isPositive = true →
    g.evaluate s.player = .ok true → g.evaluate t.player = .ok true
  | ⟨condition, true⟩, hg, _ => by
    rw [Guard.isPositive] at hg
    cases hg
  | ⟨condition, false⟩, hg, hs => by
    rw [Guard.evaluate_of_not_negate] at hs ⊢
    rw [Guard.isPositive] at hg
    exact Condition.lasts h condition hg hs

theorem Condition.lasts (h : s.Extends t) : ∀ c : Condition, c.isPositive = true →
    c.evaluate s.player = .ok true → c.evaluate t.player = .ok true
  | .all guards, hg, hs => Condition.lastAll h guards hg hs
  | .puzzleSolved _, _, hs => congrArg Except.ok (h.answers (Except.ok.inj hs))
  | .sceneVisited _, _, hs => congrArg Except.ok (h.visited (Except.ok.inj hs))
  | .stageLoaded _, _, hs => congrArg Except.ok (h.loaded (Except.ok.inj hs))

theorem Condition.lastAll (h : s.Extends t) : ∀ guards : List Guard,
    Condition.allPositive guards = true → Condition.evaluateAll s.player guards = .ok true →
      Condition.evaluateAll t.player guards = .ok true
  | [], _, _ => rfl
  | guard :: guards, hg, hs => by
    rw [Condition.allPositive, Bool.and_eq_true] at hg
    rw [Condition.evaluateAll_cons_eq_true] at hs ⊢
    exact ⟨Guard.lasts h guard hg.1 hs.1, Condition.lastAll h guards hg.2 hs.2⟩

end

end

/-! ## Calls -/

section

variable {arrows : List String} {s t u : Session} {r : Except Error Unit} {depth : Nat}

/-- Each step extends what the steps before it have left. -/
theorem keeps_extends (s : Session) :
    Keeps (.free fun _ _ => True) (fun t => s.Extends t) fun _ t => s.Extends t :=
  .free (fun _ h hm => h.trans hm.extends) fun _ h hh => h.trans hh.extends

/-- **No call takes anything away**, whether it succeeds or fails. -/
theorem Call.extends (hs : s.Grounded) {c : Call} (h : (c.play depth).outcome s = some (r, t)) :
    s.Extends t :=
  ((keeps_extends s).call_inv hs (.refl s) h).2

theorem Session.Later.extends (h : s.Later t) (hs : Reached arrows s) : s.Extends t := by
  induction h with
  | refl => exact .refl s
  | call ht h ih => exact ih.trans (Call.extends (ht.reached hs).grounded h)

/-- **The world only grows.**  In every session, whatever is called and however it ends, the
objects, tracks and procedures that are known stay as they are; scenes and backgrounds stay known,
variables stay set and puzzles solved; stages stay loaded and scenes visited; and the parameters,
the world and the id of the session stay the same.  So a guard that asks for solved puzzles, visited
scenes and loaded stages only, and that holds once, holds in every later session until the next
start. -/
theorem Reached.world_only_grows (hs : Reached arrows s) :
    (∀ (c : Call) (depth : Nat) (r : Except Error Unit) (t : Session),
      (c.play depth).outcome s = some (r, t) → s.Extends t) ∧
    ∀ g : Guard, g.isPositive = true → g.evaluate s.player = .ok true →
      ∀ t, s.Later t → g.evaluate t.player = .ok true := by
  constructor
  · intro c depth r t h
    exact Call.extends hs.grounded h
  · intro g hg hholds t ht
    exact Guard.lasts (ht.extends hs) g hg hholds

/-- The gate is loaded and its road visited, also while the keep behind it is loaded. -/
theorem world_only_grows_gate :
    ∃ s t, Reached ["left"] s ∧
      (Call.play 3 (.handle (.codeSubmitted "sesame"))).outcome s = some (.ok (), t) ∧
      s.Extends t ∧
      (Guard.all [.new (.stageLoaded "gate"), .new (.sceneVisited "road")]).evaluate t.player =
        .ok true := by
  have hs := @Reached.start ["left"] _ _ 3 (.ofNat 1) .gate _ (.fresh (.ofNat 0)) rfl
  obtain ⟨hgrows, hlasts⟩ := hs.world_only_grows
  refine ⟨_, _, hs, rfl, hgrows (.handle (.codeSubmitted "sesame")) 3 _ _ rfl, ?_⟩
  exact hlasts _ rfl rfl _ (@Later.call _ _ _ (.handle (.codeSubmitted "sesame")) 3 _ .refl rfl)

end

end Adventure
