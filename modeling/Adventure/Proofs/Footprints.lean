import Adventure.Proofs.Arming
import Adventure.Proofs.Independence
import Adventure.Proofs.Scopes

/-!
# The variables that a script reads and writes

Some scripts do nothing but set variables and add to them, possibly in groups and behind guards.
What such a script ends with and what it writes, up to the place where it fails, depends only on the
variables that it reads, and only those that it writes change.  So two timers that wait for such
scripts can fire in any order, unless one of the scripts writes what the other one reads or writes.

## Main definitions

* `Script.reads`, `Script.writes`: the variables that are read by guards and increments, and those
  that are written
* `Script.Assigns`: a script does nothing but set variables and add to them
* `Script.Apart`: neither of two scripts writes what the other one reads or writes
* `Player.AgreesOn`: players differ in other variables only
* `Play.Confined reads writes p`: what an operation ends with and writes depends on what it reads

## Main results

* `Guard.evaluate_agrees`: a guard looks at no other variables than it reads
* `Script.confined`: scripts that assign are confined to what they read and write
* `Session.disjoint_timers_commute`: timers of scripts that are apart can fire in any order
-/

namespace Adventure

open Session

/-! ## What is read and written -/

mutual

/-- The variables that a guard looks at. -/
def Guard.reads : Guard → List String
  | ⟨condition, _⟩ => condition.reads

/-- The variables that a condition looks at. -/
def Condition.reads : Condition → List String
  | .all guards => Condition.allReads guards
  | .variableIs name _ => [name]
  | .puzzleSolved _ | .sceneVisited _ | .stageLoaded _ | .unrecognized _ => []

/-- The variables that some guards look at. -/
def Condition.allReads : List Guard → List String
  | [] => []
  | guard :: guards => guard.reads ++ Condition.allReads guards

end

/-- The variables that an effect adds to. -/
def Effect.reads : Effect → List String
  | .incrementVariable name _ => [name]
  | _ => []

/-- The variables that an effect sets or adds to. -/
def Effect.writes : Effect → List String
  | .setVariable name _ | .incrementVariable name _ => [name]
  | _ => []

/-- Whether an effect sets a variable, adds to one, or runs a group. -/
def Effect.isAssignment : Effect → Bool
  | .setVariable .. | .incrementVariable .. | .group _ => true
  | _ => false

/-- The variables that an action looks at, with its guard and to add to them. -/
def Action.reads (a : Action) : List String :=
  (a.guard.map Guard.reads).getD [] ++ a.effect.reads

namespace Script

/-- The variables that a script looks at, at any depth. -/
def reads (script : Script) : List String := (actions script).flatMap Action.reads

/-- The variables that a script writes, at any depth. -/
def writes (script : Script) : List String := (actions script).flatMap fun a => a.effect.writes

/-- A script does nothing but set variables and add to them, in groups or not. -/
def Assigns (script : Script) : Prop := ∀ a ∈ actions script, a.effect.isAssignment = true

instance (script : Script) : Decidable script.Assigns :=
  inferInstanceAs (Decidable (∀ a ∈ actions script, a.effect.isAssignment = true))

/-- Neither of two scripts writes a variable that the other one reads or writes. -/
structure Apart (a b : Script) : Prop where
  writes : ∀ name ∈ a.writes, name ∉ b.writes
  left : ∀ name ∈ a.writes, name ∉ b.reads
  right : ∀ name ∈ b.writes, name ∉ a.reads

end Script

/-! ## Players that agree on variables -/

/-- Two players have the same values of some variables, and differ in other variables only. -/
structure Player.AgreesOn (names : List String) (p q : Player) : Prop where
  values : ∀ name ∈ names, p.valueOf? name = q.valueOf? name
  rest : { p with values := ∅ } = { q with values := ∅ }

namespace Player

variable {names : List String} {p q : Player} {name : String} {value : Value}

theorem AgreesOn.refl (names : List String) (p : Player) : p.AgreesOn names p :=
  ⟨fun _ _ => rfl, rfl⟩

theorem AgreesOn.mono (h : p.AgreesOn names q) {fewer : List String} (hsub : fewer ⊆ names) :
    p.AgreesOn fewer q :=
  ⟨fun name hname => h.values name (hsub hname), h.rest⟩

theorem valueOf?_setVariable (p : Player) (name other : String) (value : Value) :
    (p.setVariable name value).valueOf? other =
      if other = name then some value else p.valueOf? other := by
  unfold setVariable valueOf?
  rw [Table.get?_insert]

/-- Players agree if the same is written to both. -/
theorem AgreesOn.setVariable (h : p.AgreesOn names q) (name : String) (value : Value) :
    (p.setVariable name value).AgreesOn names (q.setVariable name value) where
  values other hother := by
    rw [valueOf?_setVariable, valueOf?_setVariable, h.values other hother]
  rest := h.rest

/-- The player after some assignments. -/
def setAll (p : Player) (changes : List (String × Value)) : Player :=
  changes.foldl (fun p e => p.setVariable e.1 e.2) p

theorem AgreesOn.setAll (h : p.AgreesOn names q) (changes : List (String × Value)) :
    (p.setAll changes).AgreesOn names (q.setAll changes) := by
  induction changes generalizing p q with
  | nil => exact h
  | cons e changes ih => exact ih (h.setVariable e.1 e.2)

/-- Assignments to other variables make no difference. -/
theorem agreesOn_setAll (p : Player) {changes : List (String × Value)}
    (h : ∀ e ∈ changes, e.1 ∉ names) : p.AgreesOn names (p.setAll changes) := by
  induction changes generalizing p with
  | nil => exact .refl names p
  | cons e changes ih =>
    rw [List.forall_mem_cons] at h
    have hrest := ih (p.setVariable e.1 e.2) h.2
    refine ⟨fun name hname => ?_, hrest.rest⟩
    have hne : name ≠ e.1 := fun heq => h.1 (heq ▸ hname)
    rw [← show _ = (p.setAll (e :: changes)).valueOf? name from hrest.values name hname,
      valueOf?_setVariable, if_neg hne]

/-- Assignments to different variables can be done in any order. -/
theorem setAll_comm (p : Player) {changes changes' : List (String × Value)}
    (h : ∀ e ∈ changes, ∀ e' ∈ changes', e.1 ≠ e'.1) :
    (p.setAll changes).setAll changes' = (p.setAll changes').setAll changes := by
  refine foldl_foldl_comm (fun e he e' he' q => ?_) p
  unfold setVariable
  rw [Table.insert_comm _ (h e he e' he')]

end Player

section Guards

variable {p q : Player}

/-- A condition that looks at no variables. -/
theorem Player.AgreesOn.evaluate_eq {names : List String} (h : p.AgreesOn names q) (c : Condition)
    (hc : ∀ p : Player, c.evaluate { p with values := ∅ } = c.evaluate p) :
    c.evaluate p = c.evaluate q := by
  rw [← hc p, h.rest, hc q]

mutual

/-- **A guard looks at no other variables** than those that it reads. -/
theorem Guard.evaluate_agrees : ∀ g : Guard, p.AgreesOn g.reads q → g.evaluate p = g.evaluate q
  | ⟨condition, _⟩, h => by
    rw [Guard.reads] at h
    rw [Guard.evaluate, Guard.evaluate, Condition.evaluate_agrees condition h]

theorem Condition.evaluate_agrees :
    ∀ c : Condition, p.AgreesOn c.reads q → c.evaluate p = c.evaluate q
  | .all guards, h => by
    rw [Condition.reads] at h
    rw [Condition.evaluate, Condition.evaluate, Condition.evaluateAll_agrees guards h]
  | .variableIs name _, h => by
    rw [Condition.evaluate, Condition.evaluate, h.values name (.head _)]
  | .puzzleSolved puzzle, h => h.evaluate_eq (.puzzleSolved puzzle) fun _ => rfl
  | .sceneVisited scene, h => h.evaluate_eq (.sceneVisited scene) fun _ => rfl
  | .stageLoaded stage, h => h.evaluate_eq (.stageLoaded stage) fun _ => rfl
  | .unrecognized _, _ => rfl

theorem Condition.evaluateAll_agrees :
    ∀ guards : List Guard, p.AgreesOn (Condition.allReads guards) q →
      Condition.evaluateAll p guards = Condition.evaluateAll q guards
  | [], _ => rfl
  | guard :: guards, h => by
    rw [Condition.allReads] at h
    rw [Condition.evaluateAll, Condition.evaluateAll,
      Guard.evaluate_agrees guard (h.mono (List.subset_append_left _ _)),
      Condition.evaluateAll_agrees guards (h.mono (List.subset_append_right _ _))]

end

theorem Action.passes_agrees (a : Action) (h : p.AgreesOn a.reads q) :
    a.passes p = a.passes q := by
  unfold Action.passes
  cases hguard : a.guard with
  | none => rfl
  | some guard =>
    apply guard.evaluate_agrees
    apply h.mono
    intro name hname
    exact List.mem_append_left _ (by rwa [hguard])

end Guards

/-! ## Operations that are confined to variables -/

/-- The session after some assignments. -/
def Session.assignedAll (s : Session) (changes : List (String × Value)) : Session :=
  { s with player := s.player.setAll changes }

namespace Play

variable {reads writes : List String} {p q : Nat → Play Unit}

/-- What an operation ends with and the assignments that it does depend only on the variables that
it reads, and it assigns only to those that it writes; there is an answer wherever scripts may be
nested deep enough. -/
def Confined (reads writes : List String) (p : Nat → Play Unit) : Prop :=
  ∀ base : Player, ∃ enough r changes, (∀ e ∈ changes, e.1 ∈ writes) ∧
    ∀ depth, enough ≤ depth → ∀ t : Session, base.AgreesOn reads t.player →
      (p depth).outcome t = some (r, t.assignedAll changes)

/-- An operation that does one assignment, or none and possibly fails. -/
theorem Confined.of_single (h : ∀ base : Player, ∃ r changes, (∀ e ∈ changes, e.1 ∈ writes) ∧
    ∀ depth, ∀ t : Session, base.AgreesOn reads t.player →
      (p depth).outcome t = some (r, t.assignedAll changes)) : Confined reads writes p := by
  intro base
  obtain ⟨r, changes, hwrites, hends⟩ := h base
  exact ⟨0, r, changes, hwrites, fun depth _ => hends depth⟩

theorem Confined.pure : Confined reads writes fun _ => (Pure.pure () : Play Unit) :=
  .of_single fun _ => ⟨.ok (), [], nofun, fun _ _ _ => rfl⟩

/-- **Operations one after the other**; the second one reads what the first one has left. -/
theorem Confined.andThen (hp : Confined reads writes p) (hq : Confined reads writes q) :
    Confined reads writes fun depth => p depth >>= fun _ => q depth := by
  intro base
  obtain ⟨enough, r, changes, hchanges, hends⟩ := hp base
  cases r with
  | error e =>
    refine ⟨enough, .error e, changes, hchanges, fun depth hdepth t ht => ?_⟩
    rw [outcome_bind, hends depth hdepth t ht, andThen_error]
  | ok =>
    -- The second one starts from what the first one has assigned, also elsewhere.
    obtain ⟨enough', r', changes', hchanges', hends'⟩ := hq (base.setAll changes)
    refine ⟨max enough enough', r', changes ++ changes', ?_, fun depth hdepth t ht => ?_⟩
    · intro e he
      exact (List.mem_append.1 he).elim (hchanges e) (hchanges' e)
    · rw [outcome_bind, hends depth (by omega) t ht, andThen_ok,
        hends' depth (by omega) _ (ht.setAll changes)]
      simp only [assignedAll, Player.setAll, List.foldl_append]

/-- **An action with its guard**, if its effect is confined. -/
theorem Confined.step {a : Action} (ha : a.reads ⊆ reads)
    (h : Confined reads writes fun depth => perform (execute depth) a) :
    Confined reads writes fun depth => Play.step (execute depth) a := by
  intro base
  obtain ⟨enough, r, changes, hchanges, hends⟩ := h base
  have hpasses : ∀ t : Session, base.AgreesOn reads t.player →
      a.passes t.player = a.passes base :=
    fun t ht => (a.passes_agrees (ht.mono ha)).symm
  cases hguard : a.passes base with
  | error e =>
    refine ⟨0, .error e, [], nofun, fun depth _ t ht => ?_⟩
    rw [outcome_step, hpasses t ht, hguard]
    rfl
  | ok passes =>
    cases passes with
    | false =>
      refine ⟨0, .ok (), [], nofun, fun depth _ t ht => ?_⟩
      rw [outcome_step, hpasses t ht, hguard]
      rfl
    | true =>
      refine ⟨enough, r, changes, hchanges, fun depth hdepth t ht => ?_⟩
      rw [outcome_step, hpasses t ht, hguard]
      exact hends depth hdepth t ht

/-- A script, which may be nested one less deep than the actions around it. -/
theorem Confined.script {script : Script}
    (h : Confined reads writes fun depth => script.forM (Play.step (execute depth))) :
    Confined reads writes fun depth => execute depth script := by
  intro base
  obtain ⟨enough, r, changes, hchanges, hends⟩ := h base
  refine ⟨enough + 1, r, changes, hchanges, fun depth hdepth t ht => ?_⟩
  obtain ⟨depth, rfl⟩ : ∃ less, depth = less + 1 := ⟨depth - 1, by omega⟩
  exact hends depth (by omega) t ht

/-- A variable is set. -/
theorem confined_setVariable {name : String} (value : Value) (hname : name ∈ writes) :
    Confined reads writes fun _ => Play.player (·.setVariable name value) :=
  .of_single fun _ => ⟨.ok (), [(name, value)], by simpa, fun _ _ _ => rfl⟩

/-- **An increment** reads its variable; if it fails, then nothing is written. -/
theorem confined_increment {name : String} (value : Value) (hread : name ∈ reads)
    (hname : name ∈ writes) : Confined reads writes fun _ => increment name value := by
  refine .of_single fun base => ?_
  have hsum : ∀ t : Session, base.AgreesOn reads t.player →
      t.sum? name value = ({ player := base } : Session).sum? name value := by
    intro t ht
    unfold Session.sum?
    rw [← ht.values name hread]
  cases hbase : ({ player := base } : Session).sum? name value with
  | error e =>
    refine ⟨.error e, [], nofun, fun _ t ht => ?_⟩
    rw [outcome_increment, hsum t ht, hbase]
    rfl
  | ok sum =>
    refine ⟨.ok (), [(name, sum)], by simpa, fun _ t ht => ?_⟩
    rw [outcome_increment, hsum t ht, hbase]
    rfl

end Play

/-! ## Scripts that assign -/

open Play

section Scripts

variable {reads writes : List String}

mutual

/-- An action that assigns is confined to what it reads and writes, with the actions within it. -/
theorem Effect.confined : ∀ effect : Effect, effect.isAssignment = true →
    (∀ b ∈ effect.actions, b.effect.isAssignment = true) →
    effect.reads ⊆ reads → effect.writes ⊆ writes →
    (∀ b ∈ effect.actions, b.reads ⊆ reads ∧ b.effect.writes ⊆ writes) →
    ∀ a : Action, a.effect = effect →
      Confined reads writes fun depth => perform (execute depth) a
  | .setVariable name value, _, _, _, hwrites, _, a, he => by
    simp only [perform, he]
    exact confined_setVariable value (hwrites (.head _))
  | .incrementVariable name value, _, _, hreads, hwrites, _, a, he => by
    simp only [perform, he]
    exact confined_increment value (hreads (.head _)) (hwrites (.head _))
  | .group next, _, hassigns, _, _, hinner, a, he => by
    simp only [perform, he]
    exact .script (Script.confined_actions next hassigns hinner)

/-- The actions of a script that assigns are confined, one after the other. -/
theorem Script.confined_actions : ∀ script : List Action,
    (∀ b ∈ Script.actions script, b.effect.isAssignment = true) →
    (∀ b ∈ Script.actions script, b.reads ⊆ reads ∧ b.effect.writes ⊆ writes) →
      Confined reads writes fun depth => script.forM (step (execute depth))
  | [], _, _ => .pure
  | ⟨tag, guard, effect⟩ :: rest, hassigns, hall => by
    rw [Script.actions, List.forall_mem_cons] at hassigns hall
    simp only [List.forall_mem_append] at hassigns hall
    have hfirst := Effect.confined effect hassigns.1 hassigns.2.1
      (fun name hname => hall.1.1 (List.mem_append_right _ hname)) hall.1.2 hall.2.1
      ⟨tag, guard, effect⟩ rfl
    exact (Confined.step hall.1.1 hfirst).andThen
      (Script.confined_actions rest hassigns.2.2 hall.2.2)

end

/-- **A script that assigns** is confined to the variables that it reads and writes. -/
theorem Script.confined {script : Script} (h : script.Assigns) :
    Confined script.reads script.writes fun depth => execute depth script := by
  refine .script (Script.confined_actions script h fun b hb => ⟨?_, ?_⟩)
  · exact fun name hname => List.mem_flatMap.2 ⟨b, hb, hname⟩
  · exact fun name hname => List.mem_flatMap.2 ⟨b, hb, hname⟩

end Scripts

/-! ## Two timers -/

/-- **Timers of scripts that are apart can fire in any order.**  Let two timers wait, in any
session, for scripts that do nothing but set variables and add to them, in groups and behind guards
of any kind, and let neither write a variable that the other one reads or writes.  Then, with
scripts nested deep enough, each timer ends in both orders with the same value or error, and both
orders leave the same session, also if one script fails or both do. -/
theorem Session.disjoint_timers_commute {s : Session} {a b : Ticket} {left right : Script}
    (hne : a ≠ b) (ha : waiting? a s.pendingTimers = some left)
    (hb : waiting? b s.pendingTimers = some right) (hleft : left.Assigns)
    (hright : right.Assigns) (hapart : left.Apart right) :
    ∃ enough, ∀ depth, enough ≤ depth → ∃ r r' t t' u,
      (handle depth (.timerFired a)).outcome s = some (r, t) ∧
      (handle depth (.timerFired b)).outcome t = some (r', u) ∧
      (handle depth (.timerFired b)).outcome s = some (r', t') ∧
      (handle depth (.timerFired a)).outcome t' = some (r, u) := by
  obtain ⟨enough, r, changes, hchanges, hends⟩ := Script.confined hleft s.player
  obtain ⟨enough', r', changes', hchanges', hends'⟩ := Script.confined hright s.player
  refine ⟨max enough enough', fun depth hdepth => ?_⟩
  -- Firing the other timer first changes only variables that are not read.
  have hother : s.player.AgreesOn left.reads (s.player.setAll changes') :=
    s.player.agreesOn_setAll fun e he => hapart.right _ (hchanges' e he)
  have hother' : s.player.AgreesOn right.reads (s.player.setAll changes) :=
    s.player.agreesOn_setAll fun e he => hapart.left _ (hchanges e he)
  have hwaits : waiting? b (dropWaiting a s.pendingTimers) = some right := by
    rw [waiting?_dropWaiting hne, hb]
  have hwaits' : waiting? a (dropWaiting b s.pendingTimers) = some left := by
    rw [waiting?_dropWaiting hne.symm, ha]
  have hcomm : (((s.fired a).assignedAll changes).fired b).assignedAll changes' =
      (((s.fired b).assignedAll changes').fired a).assignedAll changes := by
    have hplayer := s.player.setAll_comm fun e he e' he' heq =>
      hapart.writes _ (hchanges e he) (heq ▸ hchanges' e' he')
    simp only [Session.fired, assignedAll, hplayer, dropWaiting_comm a b]
  refine ⟨r, r', (s.fired a).assignedAll changes, (s.fired b).assignedAll changes',
    (((s.fired a).assignedAll changes).fired b).assignedAll changes', ?_, ?_, ?_, ?_⟩
  · rw [handle, outcome_timerFired_of_waiting ha]
    exact hends depth (by omega) _ (.refl _ _)
  · rw [handle, outcome_timerFired_of_waiting hwaits]
    exact hends' depth (by omega) _ hother'
  · rw [handle, outcome_timerFired_of_waiting hb]
    exact hends' depth (by omega) _ (.refl _ _)
  · rw [handle, outcome_timerFired_of_waiting hwaits', hcomm]
    exact hends depth (by omega) _ hother

/-- A clock strikes, but its strokes are not counted yet. -/
def Script.striking : Script := [
  .new (.setVariable "struck" (.bool true)),
  { Action.new (.group [.new (.incrementVariable "strokes" (.int 1))]) with
    guard := some (.new (.variableIs "struck" (.bool true))) },
  .new (.setVariable "counted" (.bool true))]

/-- A lamp burns lower, unless it is out. -/
def Script.burning : Script := [
  .new (.setVariable "oil" (.int 9)),
  { Action.new (.incrementVariable "oil" (.int (-1))) with
    guard := some (Guard.new (.variableIs "oil" (.int 0))).negated }]

set_option maxRecDepth 4096 in
/-- The clock, which fails at its strokes, and the lamp can come in any order. -/
theorem disjoint_timers_commute_clock :
    ∃ s, Reached ["left"] s ∧
      waiting? (.issued 0) s.pendingTimers = some .striking ∧
      waiting? (.issued 1) s.pendingTimers = some .burning ∧
      Script.striking.Assigns ∧ Script.burning.Assigns ∧ Script.striking.Apart .burning ∧
      (∃ t, (handle 3 (.timerFired (.issued 0))).outcome s =
        some (.error (.typeMismatch "strokes" "nothing"), t)) ∧
      ∃ enough, ∀ depth, enough ≤ depth → ∃ r r' t t' u,
        (handle depth (.timerFired (.issued 0))).outcome s = some (r, t) ∧
        (handle depth (.timerFired (.issued 1))).outcome t = some (r', u) ∧
        (handle depth (.timerFired (.issued 1))).outcome s = some (r', t') ∧
        (handle depth (.timerFired (.issued 0))).outcome t' = some (r, u) := by
  have hs := @Reached.start ["left"] _ _ 3 (.ofNat 1) .gate _ (.fresh (.ofNat 0)) rfl
  have hwaits := @Reached.call _ _ _ (.execute [.new (.delayed (.ofInt 1000) Script.striking),
    .new (.delayed (.ofInt 500) Script.burning)]) 3 _ hs rfl
  have hapart : Script.striking.Apart .burning := ⟨by decide, by decide, by decide⟩
  exact ⟨_, hwaits, rfl, rfl, by decide, by decide, hapart, ⟨_, rfl⟩,
    disjoint_timers_commute nofun rfl rfl (by decide) (by decide) hapart⟩

end Adventure
