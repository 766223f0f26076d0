import Adventure.Proofs.Actions

/-!
# Invariants

A property that every move keeps is kept by every script, however deep its calls are nested, and by
every event.  What is shown of the halts is shown of the errors.

## Main definitions

* `Keeps`: the obligations of an invariant, for single steps
* `After`: what is known of the session that an operation leaves
* `Safe`: the invariant is kept by an operation

## Main results

* `Keeps.execute`: scripts keep the invariant
* `Keeps.handle`: events keep the invariant, unless they are refused
-/

namespace Adventure

open Session

/-- A stage has just become known, and its load actions are due. -/
inductive Session.Opens (stage : Stage) : Session → Prop where
  | finished {s : Session} {id : String} {scenes : List Scene} (hstage : s.stage id = .ok stage)
      (hscenes : s.resolve [] stage.scenes = .ok scenes) : Opens stage (s.finished stage scenes)

/-- **The obligations of an invariant.**  Every move keeps it, and every halt leads from it to what
is claimed of errors.  The actions that may be performed are never fewer, and all the scripts that
can come to run consist of such actions. -/
structure Keeps (P : Policy) (I : Session → Prop) (E : Error → Session → Prop) : Prop where
  move : ∀ {s t}, s.Grounded → I s → Move P s t → Prompts P s t → I t
  halt : ∀ {s e t}, s.Grounded → I s → Halt P s e t → E e t
  lasting : ∀ {s t a}, s.Grounded → I s → Move P s t → P.performs s a → P.performs t a
  stored : ∀ {s script}, I s → s.Stored script → ∀ a ∈ script, P.performs s a
  inner : ∀ {s a script}, P.performs s a → script ∈ a.effect.inner → ∀ b ∈ script, P.performs s b
  loading : ∀ {s stage}, I s → Opens stage s → ∀ a ∈ stage.loadActions, P.performs s a
  opening : ∀ {s stage scene}, I s → Opens stage s → stage.scenes.head? = some scene →
    P.performs s (.new (.goToScene scene.id))

/-- What is known of the session `t` that an operation leaves, which was started in `s`. -/
structure After (P : Policy) (I : Session → Prop) (s t : Session) : Prop where
  grounded : t.Grounded
  inv : I t
  growth : s.Extends t
  performs : ∀ {a}, P.performs s a → P.performs t a

variable {P : Policy} {I : Session → Prop} {E E' : Error → Session → Prop} {α β : Type}
  {s t u : Session}

theorem After.refl (hs : s.Grounded) (hI : I s) : After P I s s := ⟨hs, hI, .refl s, id⟩

theorem After.trans (h : After P I s t) (h' : After P I t u) : After P I s u :=
  ⟨h'.grounded, h'.inv, h.growth.trans h'.growth, fun ha => h'.performs (h.performs ha)⟩

/-- An operation keeps the invariant. -/
def Safe (P : Policy) (I : Session → Prop) (E : Error → Session → Prop) (p : Play α)
    (s : Session) : Prop :=
  p.ensures (fun _ t => After P I s t) (fun e t => t.Grounded ∧ E e t) s

/-- An operation that runs scripts keeps the invariant. -/
def Running (P : Policy) (I : Session → Prop) (E : Error → Session → Prop)
    (run : Script → Play Unit) : Prop :=
  ∀ {s script}, s.Grounded → I s → (∀ a ∈ script, P.performs s a) → Safe P I E (run script) s

/-! ## One step after the other -/

section Steps

variable {p : Play α} {f : α → Play β}

theorem Safe.of_ok {a : α} (hs : s.Grounded) (hI : I s) (h : p.outcome s = some (.ok a, s)) :
    Safe P I E p s :=
  Play.ensures_of_ok h (.refl hs hI)

theorem Safe.of_error {e : Error} (hs : t.Grounded) (he : E e t)
    (h : p.outcome s = some (.error e, t)) : Safe P I E p s :=
  Play.ensures_of_error h ⟨hs, he⟩

theorem Safe.of_eq {q : Play α} (h : p.outcome s = q.outcome s) (hq : Safe P I E q s) :
    Safe P I E p s :=
  Play.ensures_of_eq h hq

/-- An operation goes on from a later session. -/
theorem Safe.later {q : Play α} (ha : After P I s t) (h : p.outcome s = q.outcome t)
    (hq : Safe P I E q t) : Safe P I E p s :=
  Play.ensures_of_eq h (Play.ensures_imp hq (fun _ _ hu => ha.trans hu) fun _ _ => id)

theorem Safe.bind (hp : Safe P I E p s) (hf : ∀ a t, After P I s t → Safe P I E (f a) t) :
    Safe P I E (p >>= f) s :=
  Play.ensures_bind (Play.ensures_imp hp
    (fun a t ht => Play.ensures_imp (hf a t ht) (fun _ _ hu => ht.trans hu) fun _ _ => id)
    fun _ _ => id)

theorem Safe.forM {g : β → Play Unit} {l : List β} (hs : s.Grounded) (hI : I s)
    (hg : ∀ b ∈ l, ∀ t, After P I s t → Safe P I E (g b) t) : Safe P I E (l.forM g) s :=
  Play.ensures_forM (fun b hb t ht =>
    Play.ensures_imp (hg b hb t ht) (fun _ _ hu => ht.trans hu) fun _ _ => id) (.refl hs hI)

theorem Safe.imp (hp : Safe P I E p s) (hE : ∀ e t, E e t → E' e t) : Safe P I E' p s :=
  Play.ensures_imp hp (fun _ _ => id) fun e t h => ⟨h.1, hE e t h.2⟩

variable (k : Keeps P I E)
include k

theorem Keeps.after (hs : s.Grounded) (hI : I s) (hm : Move P s t) (hb : Prompts P s t) :
    After P I s t :=
  ⟨hm.grounded hs, k.move hs hI hm hb, hm.extends, k.lasting hs hI hm⟩

theorem Keeps.of_move {a : α} (hs : s.Grounded) (hI : I s) (hm : Move P s t)
    (hb : Prompts P s t) (h : p.outcome s = some (.ok a, t)) : Safe P I E p s :=
  Play.ensures_of_ok h (k.after hs hI hm hb)

theorem Keeps.of_halt {e : Error} (hs : s.Grounded) (hI : I s) (hh : Halt P s e t)
    (h : p.outcome s = some (.error e, t)) : Safe P I E p s :=
  Safe.of_error (hh.grounded hs) (k.halt hs hI hh) h

/-- An action that is refused. -/
theorem Keeps.of_reject {a : Action} {e : Error} (hs : s.Grounded) (hI : I s)
    (ha : P.performs s a) (hr : s.Rejects a e) (h : p.outcome s = some (.error e, s)) :
    Safe P I E p s :=
  k.of_halt hs hI (.reject ha hr) h

theorem Keeps.weaken (hE : ∀ e t, E e t → E' e t) : Keeps P I E' :=
  { k with halt := fun hs hI hh => hE _ _ (k.halt hs hI hh) }

end Steps

/-- Where scripts may do everything, only the steps are left to be looked at. -/
theorem Keeps.free {loads : Session → String → Prop}
    (move : ∀ {s t}, s.Grounded → I s → Move (.free loads) s t → I t)
    (halt : ∀ {s e t}, s.Grounded → I s → Halt (.free loads) s e t → E e t) :
    Keeps (.free loads) I E where
  move hs hI hm _ := move hs hI hm
  halt := halt
  lasting _ _ _ _ := trivial
  stored _ _ _ _ := trivial
  inner _ _ _ _ := trivial
  loading _ _ _ _ := trivial
  opening _ _ _ := trivial

/-! ## Look-ups -/

namespace Session

theorem worldOf_ok {world : World} (h : s.worldOf = .ok world) : s.world = some world := by
  unfold worldOf at h
  split at h
  · next hworld =>
    cases h
    exact hworld
  · cases h

/-- A stage is looked up in the world. -/
theorem stage?_of_ok {id : String} {stage : Stage} (h : s.stage id = .ok stage) :
    ∃ world, s.world = some world ∧ world.stage? id = some stage := by
  obtain ⟨world, hworld, h⟩ := bind_eq_ok_iff.1 h
  split at h
  · next hfound =>
    cases h
    exact ⟨world, worldOf_ok hworld, hfound⟩
  · cases h

theorem stage_ok {id : String} {stage : Stage} (h : s.stage id = .ok stage) :
    stage.id = id ∧ ∃ world, s.world = some world ∧ stage ∈ world.stages := by
  obtain ⟨world, hworld, hfound⟩ := stage?_of_ok h
  exact ⟨by simpa using List.find?_some hfound, world, hworld, List.mem_of_find?_eq_some hfound⟩

theorem stage_id {id : String} {stage : Stage} (h : s.stage id = .ok stage) : stage.id = id :=
  (stage_ok h).1

theorem Extends.puzzle (h : s.Extends t) (id : String) : t.puzzle id = s.puzzle id := by
  unfold Session.puzzle worldOf
  rw [h.world]

theorem Extends.stage (h : s.Extends t) (id : String) : t.stage id = s.stage id := by
  unfold Session.stage worldOf
  rw [h.world]

/-- A code is submitted to the puzzle of the current scene if none is given. -/
theorem puzzleFor_none {scene : Scene} {puzzle : String} (hscene : s.here? = some scene)
    (hpuzzle : scene.puzzle = some puzzle) : s.puzzleFor none = .ok puzzle := by
  unfold puzzleFor
  rw [currentScene_of_here? hscene]
  simp [bind, Except.bind, hpuzzle]

theorem targetsOf_ok {puzzle : Option String} {code id : String} {targets : List String}
    (h : s.targetsOf puzzle code = .ok (id, targets)) :
    s.puzzleFor puzzle = .ok id ∧ ∃ declared, s.puzzle id = .ok declared ∧
      declared.targets (Text.trim code) = .ok targets := by
  obtain ⟨found, hfor, h⟩ := bind_eq_ok_iff.1 h
  obtain ⟨declared, hp, h⟩ := bind_eq_ok_iff.1 h
  obtain ⟨stages, hs, h⟩ := bind_eq_ok_iff.1 h
  cases h
  exact ⟨hfor, declared, hp, mapError_eq_ok_iff.1 hs⟩

end Session

/-- The script for a wrong code is a stored one. -/
theorem wrongScript_performs (k : Keeps P I E) (hI : I s) :
    ∀ a ∈ s.wrongScript, P.performs s a := by
  unfold wrongScript
  cases hhere : s.here? with
  | none => exact k.stored hI .wrongCodeDefault
  | some scene =>
    obtain ⟨id, -, hscene⟩ := here?_eq_some hhere
    cases hwrong : scene.wrongCodeActions with
    | none => simpa [hwrong] using k.stored hI .wrongCodeDefault
    | some script => simpa [hwrong] using k.stored hI (.wrongCode hscene hwrong)

/-! ## Operations that run scripts -/

section Operations

variable {run : Script → Play Unit} {a : Action} (k : Keeps P I E) (hrun : Running P I E run)
include k hrun

theorem Keeps.goToScene (hs : s.Grounded) (hI : I s) {id : String} (ha : P.performs s a)
    (he : a.effect = .goToScene id) : Safe P I E (Play.goToScene run id) s := by
  have h := Play.outcome_goToScene hs run id
  cases hscene : s.catalog.scenes.get? id with
  | none =>
    rw [hscene] at h
    exact k.of_reject hs hI ha (.scene he hscene) h
  | some scene =>
    simp only [hscene] at h
    cases hobject : Play.unknown? s scene.interactive.keys with
    | some object =>
      rw [hobject] at h
      exact k.of_reject hs hI ha (.object he hscene hobject) h
    | none =>
      simp only [hobject] at h
      cases hplan : (s.left.arrived id).plan? with
      | error e =>
        rw [hplan] at h
        exact k.of_halt hs hI (.strand ha he hscene hobject hplan) h
      | ok plan =>
        simp only [hplan] at h
        have hafter := k.after hs hI (.enter ha he hscene hobject hplan) (.same rfl)
        refine Safe.later hafter h (Safe.bind ?_ ?_)
        · -- Both scripts are those of the scene that was known at the start.
          refine hrun hafter.grounded hafter.inv fun b hb => hafter.performs ?_
          split at hb
          · exact absurd hb List.not_mem_nil
          · exact k.stored hI (.firstEntry hscene) b hb
        · intro _ t ht
          refine hrun ht.grounded ht.inv fun b hb => ht.performs (hafter.performs ?_)
          exact k.stored hI (.entry hscene) b hb

/-- The load actions of a stage that has become known, and the way to its first scene. -/
theorem Keeps.openStage {stage : Stage} (hs : s.Grounded) (hI : I s) (ho : Opens stage s) :
    Safe P I E (Play.openStage run stage) s := by
  apply Safe.bind (hrun hs hI (k.loading hI ho))
  intro _ t ht
  apply Safe.bind (Safe.of_ok ht.grounded ht.inv rfl)
  intro _ u hu
  split
  · cases hscenes : stage.scenes with
    | nil => exact Safe.of_ok hu.grounded hu.inv rfl
    | cons scene scenes =>
      have hfirst : stage.scenes.head? = some scene := by rw [hscenes]; rfl
      have hperforms := hu.performs (ht.performs (k.opening hI ho hfirst))
      exact k.goToScene hrun hu.grounded hu.inv hperforms rfl
  · exact Safe.of_ok hu.grounded hu.inv rfl

/-- **Loading a stage**, from the session in which it was asked for. -/
theorem Keeps.loadStage {p : Play Unit} {id : String} (hs : s.Grounded) (hI : I s)
    (hasked : Asked P s id t) (hp : p.outcome s = (Play.loadStage run id).outcome t) :
    Safe P I E p s := by
  rw [Play.outcome_loadStage] at hp
  cases hstage : t.stage id with
  | error e =>
    rw [hstage] at hp
    exact k.of_halt hs hI (.unstaged hasked hstage) hp
  | ok stage =>
    simp only [hstage, stage_id hstage] at hp
    cases hneeds : stage.needsPreload with
    | true =>
      simp only [hneeds, if_true] at hp
      exact k.of_move hs hI (.preload hasked hstage hneeds) (.same hasked.pending) hp
    | false =>
      simp only [hneeds, Bool.false_eq_true, if_false, Play.outcome_finishLoad] at hp
      cases hscenes : (t.requested id).resolve [] stage.scenes with
      | error e =>
        rw [hscenes] at hp
        exact k.of_halt hs hI (.unresolved hasked hstage hneeds hscenes) hp
      | ok scenes =>
        simp only [hscenes] at hp
        -- The stage is known before its load actions run.
        have hafter := k.after hs hI (.load hasked hstage hneeds hscenes)
          (.same hasked.pending)
        exact Safe.later hafter hp
          (k.openStage hrun hafter.grounded hafter.inv (.finished hstage hscenes))

/-- **A stage that a code leads to** is loaded, or the script for a rediscovered one runs. -/
theorem Keeps.acceptCode (hs : s.Grounded) (hI : I s) {puzzle code stage : String}
    {declared : Puzzle} {targets : List String} (hp : s.puzzle puzzle = .ok declared)
    (ht : declared.targets (Text.trim code) = .ok targets) (hmem : stage ∈ targets) :
    Safe P I E (Play.acceptCode run puzzle (Text.trim code) stage) s := by
  have h := Play.outcome_acceptCode hs run puzzle (Text.trim code) stage
  cases hloaded : s.player.hasLoaded stage with
  | true =>
    rw [hloaded, if_pos rfl] at h
    exact Safe.of_eq h (hrun hs hI (k.stored hI .rediscovered))
  | false =>
    rw [hloaded] at h
    exact k.loadStage hrun hs hI (.code hp ht hmem hloaded) h

/-- **The stages of a code**, one after the other. -/
theorem Keeps.acceptCodes (hs : s.Grounded) (hI : I s) {puzzle code : String} {declared : Puzzle}
    {targets stages : List String} (hp : s.puzzle puzzle = .ok declared)
    (ht : declared.targets (Text.trim code) = .ok targets) (hsub : stages ⊆ targets) :
    Safe P I E (stages.forM (Play.acceptCode run puzzle (Text.trim code))) s := by
  -- Each stage is taken in the session that the stages before it have left.
  apply Safe.forM hs hI
  intro stage hstage t hafter
  -- The puzzles of the world are the ones in which the code was looked up.
  have hp' : t.puzzle puzzle = .ok declared := (hafter.growth.puzzle puzzle).trans hp
  exact k.acceptCode hrun hafter.grounded hafter.inv hp' ht (hsub hstage)

/-- **Submitting a code**, for which the look-ups may fail. -/
theorem Keeps.submitCode (hs : s.Grounded) (hI : I s) {puzzle : Option String} {code : String}
    (hE : ∀ e, s.targetsOf puzzle code = .error e → E e s) :
    Safe P I E (Play.submitCode run puzzle code) s := by
  have h := Play.outcome_submitCode hs run puzzle code
  cases htargets : s.targetsOf puzzle code with
  | error e =>
    rw [htargets] at h
    exact Safe.of_error hs (hE e htargets) h
  | ok found =>
    obtain ⟨puzzle, targets⟩ := found
    rw [htargets] at h
    cases targets with
    | nil =>
      have hafter := k.after hs hI .clear (.same rfl)
      exact Safe.later hafter h (hrun hafter.grounded hafter.inv fun b hb =>
        hafter.performs (wrongScript_performs k hI b hb))
    | cons stage stages =>
      obtain ⟨-, declared, hp, ht⟩ := targetsOf_ok htargets
      exact Safe.of_eq h (k.acceptCodes hrun hs hI hp ht (List.Subset.refl _))

/-! ## Actions and scripts -/

theorem Keeps.perform (hs : s.Grounded) (hI : I s) (ha : P.performs s a) :
    Safe P I E (Play.perform run a) s := by
  cases Play.performs hs ha run with
  | enter he h =>
    rw [h]
    exact k.goToScene hrun hs hI ha he
  | submit he h =>
    rw [h]
    exact k.submitCode hrun hs hI fun e htargets => k.halt hs hI (.reject ha (.code he htargets))
  | script hscript h =>
    refine Safe.of_eq h (hrun hs hI ?_)
    rcases hscript with hinner | hstored
    · exact k.inner ha hinner
    · exact k.stored hI hstored
  | step hm hb _ h => exact k.of_move hs hI hm hb h
  | pass h => exact Safe.of_ok hs hI h
  | refuse hr h => exact k.of_reject hs hI ha hr h

theorem Keeps.step (hs : s.Grounded) (hI : I s) (ha : P.performs s a) :
    Safe P I E (Play.step run a) s := by
  have h := Play.outcome_step s run a
  cases hpasses : a.passes s.player with
  | error e =>
    rw [hpasses] at h
    exact k.of_reject hs hI ha (.guard hpasses) h
  | ok passes =>
    rw [hpasses] at h
    cases passes with
    | false => exact Safe.of_ok hs hI h
    | true => exact Safe.of_eq h (k.perform hrun hs hI ha)

omit hrun

/-- **Scripts keep the invariant**, by induction on the depth of their calls. -/
theorem Keeps.execute (depth : Nat) : Running P I E (Play.execute depth) := by
  induction depth with
  | zero => exact fun _ _ _ => Play.ensures_of_none rfl
  | succ depth ih =>
    intro s script hs hI hscript
    apply Safe.forM hs hI
    intro b hb t ht
    exact k.step ih ht.grounded ht.inv (ht.performs (hscript b hb))

end Operations

end Adventure
