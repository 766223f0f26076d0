import Adventure.Proofs.Growth
import Mathlib.Logic.Relation

/-!
# Guards are read from left to right

A guard holds, does not hold, or cannot be evaluated.  A conjunction is decided by its first guard
that does not simply hold, so the order of its guards matters: an unknown guard is an error only if
all guards before it hold.  What does not change the order can still be rewritten, at any depth,
without a change of the result.

## Main definitions

* `DecidedByFirst f neutral result`: the first element that is not neutral decides a list
* `Guard.Rewrites`: one step of rewriting, anywhere in a guard
* `Guard.simplify`: the guard in which nothing is left to rewrite

## Main results

* `Condition.decidedByFirst`: the guard that decides a conjunction
* `Guard.Rewrites.evaluate_eq`: a step of rewriting keeps the result
* `Guard.rewrites_simplify`, `Guard.isNormal_simplify`: guards can be simplified by rewriting, and
  then there is nothing left to rewrite
* `Guard.left_to_right`: conjunction, negation and rewriting in one statement
-/

namespace Adventure

open Relation

/-! ## Lists that are decided from left to right -/

/-- The result of a list is that of its first element that is not neutral, and neutral if there is
none. -/
structure DecidedByFirst {α β : Type} (f : α → β) (neutral : β) (result : List α → β) : Prop where
  nil : result [] = neutral
  skip : ∀ a l, f a = neutral → result (a :: l) = result l
  stop : ∀ a l, f a ≠ neutral → result (a :: l) = f a

namespace DecidedByFirst

variable {α β : Type} {f : α → β} {neutral : β} {result : List α → β} {l before : List α} {r : β}

/-- Neutral elements in front are passed over. -/
theorem append (h : DecidedByFirst f neutral result) (l : List α)
    (hb : ∀ b ∈ before, f b = neutral) : result (before ++ l) = result l := by
  induction before with
  | nil => rfl
  | cons b before ih =>
    rw [List.forall_mem_cons] at hb
    rw [List.cons_append, h.skip b _ hb.1, ih hb.2]

theorem eq_neutral_iff (h : DecidedByFirst f neutral result) :
    result l = neutral ↔ ∀ a ∈ l, f a = neutral := by
  constructor
  · intro hl
    induction l with
    | nil => exact fun _ ha => absurd ha List.not_mem_nil
    | cons a l ih =>
      by_cases ha : f a = neutral
      · rw [h.skip a l ha] at hl
        exact List.forall_mem_cons.2 ⟨ha, ih hl⟩
      · rw [h.stop a l ha] at hl
        exact absurd hl ha
  · intro hl
    rw [← List.append_nil l, h.append [] hl, h.nil]

/-- **The first element that is not neutral decides.** -/
theorem eq_iff (h : DecidedByFirst f neutral result) (hr : r ≠ neutral) :
    result l = r ↔ ∃ before a after, l = before ++ a :: after ∧
      (∀ b ∈ before, f b = neutral) ∧ f a = r := by
  constructor
  · intro hl
    induction l with
    | nil => exact absurd (hl.symm.trans h.nil) hr
    | cons a l ih =>
      by_cases ha : f a = neutral
      · -- A neutral element joins those in front of the one that decides.
        rw [h.skip a l ha] at hl
        obtain ⟨before, d, after, rfl, hb, hd⟩ := ih hl
        exact ⟨a :: before, d, after, rfl, List.forall_mem_cons.2 ⟨ha, hb⟩, hd⟩
      · rw [h.stop a l ha] at hl
        exact ⟨[], a, l, rfl, fun _ hb => absurd hb List.not_mem_nil, hl⟩
  · rintro ⟨before, a, after, rfl, hb, rfl⟩
    rw [h.append _ hb, h.stop a after hr]

/-- The result of one element is its own. -/
theorem singleton (h : DecidedByFirst f neutral result) (a : α) : result [a] = f a := by
  by_cases ha : f a = neutral
  · rw [h.skip a [] ha, h.nil, ha]
  · exact h.stop a [] ha

end DecidedByFirst

section

variable {p : Player} {g h : Guard} {guards : List Guard}

/-! ## The guard that decides -/

theorem Guard.evaluate_all (p : Player) (guards : List Guard) :
    (Guard.all guards).evaluate p = Condition.evaluateAll p guards :=
  Guard.evaluate_of_not_negate p (.all guards)

/-- **The negation of a guard has the opposite result**, and the same errors. -/
theorem Guard.evaluate_negated (p : Player) (g : Guard) :
    g.negated.evaluate p = (g.evaluate p).map (!·) := by
  obtain ⟨condition, negate⟩ := g
  rw [Guard.negated, Guard.evaluate, Guard.evaluate]
  cases condition.evaluate p with
  | error e => rfl
  | ok holds => cases holds <;> cases negate <;> rfl

/-- **A conjunction is decided** by its first guard that does not simply hold, by its result or by
its error. -/
theorem Condition.decidedByFirst (p : Player) :
    DecidedByFirst (Guard.evaluate p) (.ok true) (Condition.evaluateAll p) where
  nil := rfl
  skip g guards hg := by
    rw [Condition.evaluateAll, hg]
    rfl
  stop g guards hg := by
    rw [Condition.evaluateAll]
    rcases hr : g.evaluate p with e | holds
    · rfl
    · cases holds with
      | true => exact absurd hr hg
      | false => rfl

/-- A conjunction goes on behind some of its guards if they all hold. -/
theorem Condition.evaluateAll_append (p : Player) (before after : List Guard) :
    Condition.evaluateAll p (before ++ after) =
      (do if ← Condition.evaluateAll p before then Condition.evaluateAll p after
          else .ok false) := by
  induction before with
  | nil => rfl
  | cons b before ih =>
    rw [List.cons_append, Condition.evaluateAll, Condition.evaluateAll, ih]
    rcases b.evaluate p with e | holds
    · rfl
    · cases holds <;> rfl

/-! ## Rewriting -/

/-- One step of rewriting, at the guard itself or at one within. -/
inductive Guard.Rewrites : Guard → Guard → Prop
  /-- A conjunction that is not negated gives way to its guards in the conjunction around it. -/
  | splice (before inner after : List Guard) (negate : Bool) :
    Rewrites ⟨.all (before ++ Guard.all inner :: after), negate⟩
      ⟨.all (before ++ inner ++ after), negate⟩
  /-- A conjunction of one guard is that guard. -/
  | single (g : Guard) : Rewrites (.all [g]) g
  /-- The negation of a conjunction of one guard is that of the guard. -/
  | turned (g : Guard) : Rewrites (Guard.all [g]).negated g.negated
  /-- A guard of a conjunction is rewritten. -/
  | inside (before after : List Guard) (negate : Bool) {g h : Guard} (hgh : Rewrites g h) :
    Rewrites ⟨.all (before ++ g :: after), negate⟩ ⟨.all (before ++ h :: after), negate⟩

/-- Two negations drop each other through a conjunction of one guard. -/
theorem Guard.Rewrites.doubled (g : Guard) : Rewrites (Guard.all [g.negated]).negated g := by
  simpa using turned g.negated

theorem Condition.evaluateAll_splice (p : Player) (before inner after : List Guard) :
    Condition.evaluateAll p (before ++ inner ++ after) =
      Condition.evaluateAll p (before ++ Guard.all inner :: after) := by
  rw [List.append_assoc, evaluateAll_append p before, evaluateAll_append p before,
    evaluateAll_append p inner, Condition.evaluateAll, Guard.evaluate_all]

theorem Condition.evaluateAll_congr (before after : List Guard)
    (hgh : h.evaluate p = g.evaluate p) :
    Condition.evaluateAll p (before ++ h :: after) =
      Condition.evaluateAll p (before ++ g :: after) := by
  rw [evaluateAll_append, evaluateAll_append p before, Condition.evaluateAll,
    Condition.evaluateAll.eq_def p (g :: after), hgh]

/-- A negation can be looked through: it only depends on what its condition gives. -/
theorem Guard.evaluate_congr {guards others : List Guard} (negate : Bool)
    (hall : Condition.evaluateAll p guards = Condition.evaluateAll p others) :
    Guard.evaluate p ⟨.all guards, negate⟩ = Guard.evaluate p ⟨.all others, negate⟩ := by
  rw [Guard.evaluate, Guard.evaluate, Condition.evaluate, Condition.evaluate, hall]

/-- **A step of rewriting keeps the result**, be it a value or an error, whatever the player has
reached. -/
theorem Guard.Rewrites.evaluate_eq (hgh : g.Rewrites h) (p : Player) :
    h.evaluate p = g.evaluate p := by
  induction hgh with
  | splice before inner after negate =>
    exact evaluate_congr negate (Condition.evaluateAll_splice p before inner after)
  | single g => rw [evaluate_all, (Condition.decidedByFirst p).singleton]
  | turned g =>
    rw [evaluate_negated, evaluate_negated, evaluate_all, (Condition.decidedByFirst p).singleton]
  | inside before after negate _ ih =>
    exact evaluate_congr negate (Condition.evaluateAll_congr before after ih)

theorem Guard.evaluate_eq_of_rewrites (hgh : ReflTransGen Rewrites g h) (p : Player) :
    h.evaluate p = g.evaluate p := by
  induction hgh with
  | refl => rfl
  | tail _ hstep ih => rw [hstep.evaluate_eq, ih]

/-! ## Simplified guards -/

/-- The guards that stand for a guard in a conjunction. -/
def Guard.parts : Guard → List Guard
  | ⟨.all inner, false⟩ => inner
  | g => [g]

/-- The conjunction of guards, negated if the flag is set; that of one guard is the guard itself. -/
def Guard.ofParts (negate : Bool) : List Guard → Guard
  | [g] => if negate then g.negated else g
  | guards => ⟨.all guards, negate⟩

mutual

/-- The guard with all conjunctions within it spliced, and those of one guard dropped, from the
inside out. -/
def Guard.simplify : Guard → Guard
  | ⟨condition, negate⟩ => condition.simplify negate

/-- The simplified guard of a condition. -/
def Condition.simplify (negate : Bool) : Condition → Guard
  | .all guards => Guard.ofParts negate (Condition.simplifyAll guards)
  | condition => ⟨condition, negate⟩

/-- What stands for the guards of a conjunction when they are simplified. -/
def Condition.simplifyAll : List Guard → List Guard
  | [] => []
  | guard :: guards => guard.simplify.parts ++ Condition.simplifyAll guards

end

/-- Nothing in a guard can be rewritten. -/
def Guard.IsNormal (g : Guard) : Prop := ∀ h, ¬ g.Rewrites h

theorem Guard.rewrites_parts (before after : List Guard) (negate : Bool) (g : Guard) :
    ReflTransGen Rewrites ⟨.all (before ++ g :: after), negate⟩
      ⟨.all (before ++ g.parts ++ after), negate⟩ := by
  unfold Guard.parts
  split
  · exact .single (.splice before _ after negate)
  · rw [List.append_assoc]
    exact .refl

theorem Guard.rewrites_ofParts (negate : Bool) (guards : List Guard) :
    ReflTransGen Rewrites ⟨.all guards, negate⟩ (ofParts negate guards) := by
  unfold Guard.ofParts
  split
  · rename_i g
    cases negate with
    | true => exact .single (.turned g)
    | false => exact .single (.single g)
  · exact .refl

theorem Guard.rewrites_inside (before after : List Guard) (negate : Bool)
    (hgh : ReflTransGen Rewrites g h) :
    ReflTransGen Rewrites ⟨.all (before ++ g :: after), negate⟩
      ⟨.all (before ++ h :: after), negate⟩ := by
  induction hgh with
  | refl => exact .refl
  | tail _ hstep ih => exact ih.tail (.inside before after negate hstep)

mutual

/-- **A guard is simplified by rewriting.** -/
theorem Guard.rewrites_simplify : ∀ g : Guard, ReflTransGen Guard.Rewrites g g.simplify
  | ⟨condition, negate⟩ => by
    rw [Guard.simplify]
    exact Condition.rewrites_simplify negate condition

theorem Condition.rewrites_simplify (negate : Bool) :
    ∀ c : Condition, ReflTransGen Guard.Rewrites ⟨c, negate⟩ (c.simplify negate)
  | .all guards => by
    rw [Condition.simplify]
    exact (Condition.rewrites_simplifyAll negate guards []).trans
      (Guard.rewrites_ofParts negate _)
  | .variableIs .. | .puzzleSolved _ | .sceneVisited _ | .stageLoaded _ | .unrecognized _ => .refl

/-- The guards behind those that are done are simplified one after the other. -/
theorem Condition.rewrites_simplifyAll (negate : Bool) : ∀ guards before : List Guard,
    ReflTransGen Guard.Rewrites ⟨.all (before ++ guards), negate⟩
      ⟨.all (before ++ Condition.simplifyAll guards), negate⟩
  | [], _ => .refl
  | guard :: guards, before => by
    rw [Condition.simplifyAll, ← List.append_assoc]
    -- The guard is simplified where it stands, and what stands for it joins those that are done.
    have hfirst := Guard.rewrites_inside before guards negate (Guard.rewrites_simplify guard)
    have hparts := Guard.rewrites_parts before guards negate guard.simplify
    exact (hfirst.trans hparts).trans (Condition.rewrites_simplifyAll negate guards _)

end

/-- A conjunction is normal if it has not just one guard, and its guards are normal and, unless they
are negated, no conjunctions. -/
theorem Guard.isNormal_all_iff {negate : Bool} :
    Guard.IsNormal ⟨.all guards, negate⟩ ↔
      guards.length ≠ 1 ∧ ∀ g ∈ guards, g.IsNormal ∧ ∀ inner, g ≠ .all inner := by
  constructor
  · intro hn
    refine ⟨?_, ?_⟩
    · intro hlen
      obtain ⟨g, rfl⟩ := List.length_eq_one_iff.1 hlen
      cases negate with
      | true => exact hn _ (.turned g)
      | false => exact hn _ (.single g)
    · intro g hg
      obtain ⟨before, after, rfl⟩ := List.append_of_mem hg
      refine ⟨fun h hstep => hn _ (.inside before after negate hstep), ?_⟩
      rintro inner rfl
      exact hn _ (.splice before inner after negate)
  · rintro ⟨hlen, hall⟩ h hstep
    -- Each rule says what the guards of the conjunction look like.
    generalize hd : (⟨.all guards, negate⟩ : Guard) = d at hstep
    cases hstep with
    | splice before inner after =>
      injection hd with hd
      injection hd with hd
      exact (hall (.all inner) (by simp [hd])).2 inner rfl
    | single g | turned g =>
      injection hd with hd
      injection hd with hd
      exact hlen (by simp [hd])
    | @inside before after _ g h hstep =>
      injection hd with hd
      injection hd with hd
      exact (hall g (by simp [hd])).1 h hstep

/-- Conditions other than conjunctions have nothing to rewrite. -/
theorem Guard.isNormal_of_ne_all {c : Condition} {negate : Bool}
    (hc : ∀ guards, c ≠ .all guards) : Guard.IsNormal ⟨c, negate⟩ := by
  intro h hstep
  generalize hd : (⟨c, negate⟩ : Guard) = d at hstep
  cases hstep <;> exact hc _ (Guard.mk.inj hd).1

/-- Whether a guard is negated makes no difference for what can be rewritten in it. -/
theorem Guard.isNormal_negated (hg : g.IsNormal) : g.negated.IsNormal := by
  obtain ⟨condition, negate⟩ := g
  by_cases hc : ∃ guards, condition = .all guards
  · obtain ⟨guards, rfl⟩ := hc
    exact isNormal_all_iff.2 (isNormal_all_iff.1 hg)
  · exact isNormal_of_ne_all fun guards h => hc ⟨guards, h⟩

theorem Guard.isNormal_of_mem_parts (hg : g.IsNormal) :
    ∀ h ∈ g.parts, h.IsNormal ∧ ∀ inner, h ≠ .all inner := by
  unfold Guard.parts
  split
  · exact (isNormal_all_iff.1 hg).2
  · rename_i hne
    rintro h hh
    obtain rfl := List.mem_singleton.1 hh
    exact ⟨hg, fun inner => hne inner⟩

theorem Guard.isNormal_ofParts (negate : Bool)
    (hall : ∀ g ∈ guards, g.IsNormal ∧ ∀ inner, g ≠ .all inner) :
    (ofParts negate guards).IsNormal := by
  unfold Guard.ofParts
  split
  · rename_i g
    have hg := (hall g List.mem_cons_self).1
    cases negate with
    | true => exact isNormal_negated hg
    | false => exact hg
  · rename_i hne
    refine isNormal_all_iff.2 ⟨?_, hall⟩
    intro hlen
    obtain ⟨g, rfl⟩ := List.length_eq_one_iff.1 hlen
    exact hne g rfl

mutual

/-- **A simplified guard has nothing left to rewrite.** -/
theorem Guard.isNormal_simplify : ∀ g : Guard, g.simplify.IsNormal
  | ⟨condition, negate⟩ => by
    rw [Guard.simplify]
    exact Condition.isNormal_simplify negate condition

theorem Condition.isNormal_simplify (negate : Bool) :
    ∀ c : Condition, (c.simplify negate).IsNormal
  | .all guards => by
    rw [Condition.simplify]
    exact Guard.isNormal_ofParts negate (Condition.isNormal_simplifyAll guards)
  | .variableIs .. | .puzzleSolved _ | .sceneVisited _ | .stageLoaded _ | .unrecognized _ =>
    Guard.isNormal_of_ne_all nofun

theorem Condition.isNormal_simplifyAll : ∀ guards : List Guard,
    ∀ g ∈ Condition.simplifyAll guards, g.IsNormal ∧ ∀ inner, g ≠ .all inner
  | [], _, hg => absurd hg List.not_mem_nil
  | guard :: guards, g, hg => by
    rw [Condition.simplifyAll, List.mem_append] at hg
    rcases hg with hg | hg
    · exact Guard.isNormal_of_mem_parts (Guard.isNormal_simplify guard) g hg
    · exact Condition.isNormal_simplifyAll guards g hg

end

/-! ## The order of rewriting -/

theorem Condition.simplifyAll_append (before after : List Guard) :
    Condition.simplifyAll (before ++ after) =
      Condition.simplifyAll before ++ Condition.simplifyAll after := by
  induction before with
  | nil => rfl
  | cons b before ih =>
    rw [List.cons_append, Condition.simplifyAll, Condition.simplifyAll, ih, List.append_assoc]

theorem Guard.simplify_all (negate : Bool) (guards : List Guard) :
    Guard.simplify ⟨.all guards, negate⟩ = ofParts negate (Condition.simplifyAll guards) := by
  rw [Guard.simplify, Condition.simplify]

theorem Guard.negated_ofParts (negate : Bool) (guards : List Guard) :
    (ofParts negate guards).negated = ofParts (!negate) guards := by
  unfold Guard.ofParts
  split
  · cases negate <;> simp
  · rfl

theorem Guard.ofParts_parts (hg : g.IsNormal) : ofParts false g.parts = g := by
  unfold Guard.parts
  split
  · unfold Guard.ofParts
    split
    · exact absurd rfl (isNormal_all_iff.1 hg).1
    · rfl
  · rfl

theorem Guard.parts_ofParts (hall : ∀ g ∈ guards, ∀ inner, g ≠ .all inner) :
    (ofParts false guards).parts = guards := by
  unfold Guard.ofParts
  split
  · rename_i g
    have hne := hall g List.mem_cons_self
    obtain ⟨condition, negate⟩ := g
    cases condition with
    | all inner =>
      cases negate with
      | true => rfl
      | false => exact absurd rfl (hne inner)
    | _ => rfl
  · rfl

theorem Guard.simplify_negated (g : Guard) : g.negated.simplify = g.simplify.negated := by
  obtain ⟨condition, negate⟩ := g
  cases condition with
  | all guards =>
    rw [simplify_all, negated_ofParts]
    exact simplify_all _ guards
  | _ => rfl

/-- A step of rewriting makes no difference for the simplified guard. -/
theorem Guard.Rewrites.simplify_eq (hgh : g.Rewrites h) : h.simplify = g.simplify := by
  have hpart (g : Guard) (negate : Bool) :
      Guard.simplify ⟨.all [g], negate⟩ = ofParts negate g.simplify.parts := by
    rw [simplify_all, Condition.simplifyAll, Condition.simplifyAll, List.append_nil]
  induction hgh with
  | splice before inner after negate =>
    -- No part of a simplified conjunction is a conjunction, so its parts are spliced unchanged.
    have hinner := parts_ofParts fun g hg => (Condition.isNormal_simplifyAll inner g hg).2
    rw [simplify_all, simplify_all, Condition.simplifyAll_append, Condition.simplifyAll_append,
      Condition.simplifyAll_append, Condition.simplifyAll, Guard.all, Guard.new, simplify_all,
      hinner, List.append_assoc]
  | single g => rw [Guard.all, Guard.new, hpart, ofParts_parts (isNormal_simplify g)]
  | turned g =>
    rw [simplify_negated, simplify_negated, Guard.all, Guard.new, hpart,
      ofParts_parts (isNormal_simplify g)]
  | inside before after negate _ ih =>
    rw [simplify_all, simplify_all, Condition.simplifyAll_append, Condition.simplifyAll_append,
      Condition.simplifyAll, Condition.simplifyAll, ih]

theorem Guard.simplify_of_isNormal (hg : g.IsNormal) : g.simplify = g := by
  rcases ReflTransGen.cases_head (rewrites_simplify g) with hg' | ⟨h, hstep, -⟩
  · exact hg'.symm
  · exact absurd hstep (hg h)

/-- **The order of rewriting does not matter**: where nothing is left to rewrite, the guard is the
simplified one. -/
theorem Guard.eq_simplify (hgh : ReflTransGen Rewrites g h) (hn : h.IsNormal) :
    h = g.simplify := by
  -- The guard at the end is its own simplified guard, which no step on the way has changed.
  rw [← simplify_of_isNormal hn]
  clear hn
  induction hgh with
  | refl => rfl
  | tail _ hstep ih => rw [hstep.simplify_eq, ih]

/-! ## In one statement -/

/-- **Guards are read from left to right.**  Whatever the player has reached, a conjunction holds if
and only if all its guards do; it does not hold, or is an error, if and only if one of its guards
does not hold, or is that error, and all guards before that one hold.  A negation swaps the two
results and leaves errors alone.  So guards can be rewritten at any depth, in any order and as far
as possible, without a change of their results and errors. -/
theorem Guard.left_to_right (p : Player) :
    (∀ guards, (Guard.all guards).evaluate p = .ok true ↔
      ∀ g ∈ guards, g.evaluate p = .ok true) ∧
    (∀ guards, (Guard.all guards).evaluate p = .ok false ↔
      ∃ before g after, guards = before ++ g :: after ∧
        (∀ b ∈ before, b.evaluate p = .ok true) ∧ g.evaluate p = .ok false) ∧
    (∀ guards e, (Guard.all guards).evaluate p = .error e ↔
      ∃ before g after, guards = before ++ g :: after ∧
        (∀ b ∈ before, b.evaluate p = .ok true) ∧ g.evaluate p = .error e) ∧
    (∀ g : Guard, g.negated.evaluate p = (g.evaluate p).map (!·)) ∧
    (∀ g h : Guard, ReflTransGen Guard.Rewrites g h → h.evaluate p = g.evaluate p) ∧
    ∀ g : Guard, ReflTransGen Guard.Rewrites g g.simplify ∧ g.simplify.IsNormal ∧
      g.simplify.evaluate p = g.evaluate p := by
  refine ⟨fun guards => ?_, fun guards => ?_, fun guards e => ?_, evaluate_negated p,
    fun g h hgh => evaluate_eq_of_rewrites hgh p, fun g => ?_⟩
  · rw [evaluate_all]
    exact (Condition.decidedByFirst p).eq_neutral_iff
  · rw [evaluate_all]
    exact (Condition.decidedByFirst p).eq_iff nofun
  · rw [evaluate_all]
    exact (Condition.decidedByFirst p).eq_iff nofun
  · have hs := rewrites_simplify g
    exact ⟨hs, isNormal_simplify g, evaluate_eq_of_rewrites hs p⟩

/-- A puzzle that is not solved hides an unknown guard behind it, but none in front of it, and it
makes no difference whether the two are a conjunction within another one. -/
theorem left_to_right_moon :
    let p : Player := { sessionId := .ofNat 0 }
    let key := Guard.new (.puzzleSolved "key")
    let moon := Guard.new (.unrecognized "moon")
    (Guard.all [.all [key, moon]]).evaluate p = .ok false ∧
      (Guard.all [.all [moon, key]]).evaluate p = .error (.unknownGuard "moon") := by
  intro p key moon
  obtain ⟨-, hfalse, herror, -, hrewrites, -⟩ := Guard.left_to_right p
  have hkey := (hfalse [key, moon]).2 ⟨[], key, [moon], rfl, nofun, rfl⟩
  have hmoon := (herror [moon, key] (.unknownGuard "moon")).2 ⟨[], moon, [key], rfl, nofun, rfl⟩
  exact ⟨(hrewrites _ _ (.single (.single _))).symm.trans hkey,
    (hrewrites _ _ (.single (.single _))).symm.trans hmoon⟩

end

end Adventure
