import Adventure.Proofs.Moves

/-!
# Scripts that cannot be refused

A script can only be refused for what it names and is not known, for a guard or an action that is
not known, or for a number that does not fit.  So whether it can be refused is seen from the names
that are known, its scope, without running it.

## Main definitions

* `Guard.isKnown`: the guards that can be evaluated
* `Script.actions`: the actions of a script, with those of the scripts within
* `Scope`, `Action.fits`: names that are known, and the actions that use no others
* `Action.Sound`: the actions that are valid and fit, with all actions within them

## Main results

* `Guard.exists_evaluate`: a guard that is known can be evaluated
* `Action.Sound.inner`: what is sound is sound within
-/

namespace Adventure

/-! ## Guards -/

mutual

/-- Whether a guard and all guards within it are known. -/
def Guard.isKnown : Guard → Bool
  | ⟨condition, _⟩ => condition.isKnown

/-- Whether a condition and all guards within it are known. -/
def Condition.isKnown : Condition → Bool
  | .all guards => Condition.allKnown guards
  | .unrecognized _ => false
  | .variableIs .. | .puzzleSolved _ | .sceneVisited _ | .stageLoaded _ => true

/-- Whether all guards of a list are known. -/
def Condition.allKnown : List Guard → Bool
  | [] => true
  | guard :: guards => guard.isKnown && Condition.allKnown guards

end

mutual

/-- **A guard that is known can be evaluated**, whatever the player has reached. -/
theorem Guard.exists_evaluate (p : Player) :
    ∀ g : Guard, g.isKnown = true → ∃ holds, g.evaluate p = .ok holds
  | ⟨condition, negate⟩, h => by
    obtain ⟨holds, hholds⟩ := Condition.exists_evaluate p condition h
    exact ⟨holds != negate, by rw [Guard.evaluate, hholds]; rfl⟩

theorem Condition.exists_evaluate (p : Player) :
    ∀ c : Condition, c.isKnown = true → ∃ holds, c.evaluate p = .ok holds
  | .all guards, h => Condition.exists_evaluateAll p guards h
  | .variableIs name value, _ => by
    rw [Condition.evaluate]
    cases p.valueOf? name with
    | some stored => exact ⟨_, rfl⟩
    | none => exact ⟨_, rfl⟩
  | .puzzleSolved _, _ | .sceneVisited _, _ | .stageLoaded _, _ => ⟨_, rfl⟩

theorem Condition.exists_evaluateAll (p : Player) :
    ∀ guards : List Guard, Condition.allKnown guards = true →
      ∃ holds, Condition.evaluateAll p guards = .ok holds
  | [], _ => ⟨true, rfl⟩
  | guard :: guards, h => by
    rw [Condition.allKnown, Bool.and_eq_true] at h
    -- The guards behind one that does not hold are not reached, but they could be evaluated, too.
    obtain ⟨holds, hfirst⟩ := Guard.exists_evaluate p guard h.1
    obtain ⟨rest, hrest⟩ := Condition.exists_evaluateAll p guards h.2
    cases holds with
    | true => exact ⟨rest, by rw [Condition.evaluateAll, hfirst]; exact hrest⟩
    | false => exact ⟨false, by rw [Condition.evaluateAll, hfirst]; rfl⟩

end

/-! ## The actions within a script -/

mutual

/-- The actions of the scripts that an effect runs or puts by. -/
def Effect.actions : Effect → List Action
  | .blockingText _ _ next | .group next | .delayed _ next => Script.actions next
  | .alternative _ scripts _ => Script.allActions scripts
  | _ => []

/-- The actions of a script, each followed by those of the scripts within it. -/
def Script.actions : List Action → List Action
  | [] => []
  | ⟨tag, guard, effect⟩ :: rest => ⟨tag, guard, effect⟩ :: (effect.actions ++ Script.actions rest)

/-- The actions of some scripts. -/
def Script.allActions : List (List Action) → List Action
  | [] => []
  | script :: rest => Script.actions script ++ Script.allActions rest

end

theorem Script.actions_cons (a : Action) (rest : Script) :
    Script.actions (a :: rest) = a :: (a.effect.actions ++ Script.actions rest) := by
  obtain ⟨tag, guard, effect⟩ := a
  rw [Script.actions]

theorem Script.mem_actions_of_mem {a b : Action} {script : Script} (ha : a ∈ script)
    (hb : b = a ∨ b ∈ a.effect.actions) : b ∈ Script.actions script := by
  induction script with
  | nil => cases ha
  | cons c rest ih =>
    rw [Script.actions_cons, List.mem_cons, List.mem_append]
    rcases List.mem_cons.1 ha with rfl | ha
    · exact hb.imp id .inl
    · exact .inr (.inr (ih ha))

theorem Script.mem_allActions_iff {b : Action} {scripts : List Script} :
    b ∈ Script.allActions scripts ↔ ∃ script ∈ scripts, b ∈ Script.actions script := by
  induction scripts with
  | nil => simp [Script.allActions]
  | cons script rest ih => simp [Script.allActions, ih]

/-- The actions within an effect are those of its inner scripts. -/
theorem Effect.mem_actions_of_mem_inner {b : Action} {effect : Effect} {script : Script}
    (hs : script ∈ effect.inner) (hb : b ∈ Script.actions script) : b ∈ effect.actions := by
  cases effect with
  | alternative text scripts buttons => exact Script.mem_allActions_iff.2 ⟨script, hs, hb⟩
  | blockingText text button next =>
    obtain rfl := List.mem_singleton.1 hs
    exact hb
  | group next =>
    obtain rfl := List.mem_singleton.1 hs
    exact hb
  | delayed delay next =>
    obtain rfl := List.mem_singleton.1 hs
    exact hb
  | _ => cases hs

/-! ## Valid scripts -/

theorem validateScript_cons (a : Action) (rest : Script) :
    validateScript (a :: rest) = (do a.validate; validateScript rest) := by
  obtain ⟨tag, guard, effect⟩ := a
  rw [validateScript]
  rfl

theorem validate_of_validateScript {script : Script} (h : validateScript script = .ok ()) :
    ∀ a ∈ script, a.validate = .ok () := by
  induction script with
  | nil =>
    intro a ha
    cases ha
  | cons b rest ih =>
    rw [validateScript_cons] at h
    obtain ⟨⟨⟩, hb, hrest⟩ := bind_eq_ok_iff.1 h
    intro a ha
    rcases List.mem_cons.1 ha with rfl | ha
    · exact hb
    · exact ih hrest a ha

theorem validateScript_of_validateScripts {scripts : List Script}
    (h : validateScripts scripts = .ok ()) : ∀ script ∈ scripts, validateScript script = .ok () := by
  induction scripts with
  | nil =>
    intro script hs
    cases hs
  | cons first rest ih =>
    rw [validateScripts] at h
    obtain ⟨⟨⟩, hfirst, hrest⟩ := bind_eq_ok_iff.1 h
    intro script hs
    rcases List.mem_cons.1 hs with rfl | hs
    · exact hfirst
    · exact ih hrest script hs

/-- A valid alternative has as many scripts as buttons. -/
theorem length_eq_of_validate {text : String} {scripts : List Script} {buttons : List String}
    (h : (Effect.alternative text scripts buttons).validate = .ok ()) :
    scripts.length = buttons.length := by
  rw [Effect.validate] at h
  split at h
  · cases h
  · next heven => exact Decidable.not_not.1 heven

/-- What is valid is valid within. -/
theorem Action.validate_inner {a : Action} {script : Script} (h : a.validate = .ok ())
    (hs : script ∈ a.effect.inner) : ∀ b ∈ script, b.validate = .ok () := by
  apply validate_of_validateScript
  unfold Action.validate at h
  -- Four effects hold scripts; the check of each one goes on to them.
  cases heffect : a.effect with
  | alternative text scripts buttons =>
    rw [heffect] at h hs
    have heven := length_eq_of_validate h
    rw [Effect.validate, if_neg (by simpa using heven)] at h
    exact validateScript_of_validateScripts h script hs
  | delayed delay next =>
    rw [heffect] at h hs
    obtain rfl := List.mem_singleton.1 hs
    rw [Effect.validate] at h
    split at h
    · cases h
    · exact h
  | blockingText text button next =>
    rw [heffect] at h hs
    obtain rfl := List.mem_singleton.1 hs
    rwa [Effect.validate] at h
  | group next =>
    rw [heffect] at h hs
    obtain rfl := List.mem_singleton.1 hs
    rwa [Effect.validate] at h
  | _ =>
    rw [heffect] at hs
    cases hs

/-! ## Scopes -/

/-- The names that scripts can use. -/
structure Scope where
  scenes : String → Bool
  objects : String → Bool
  procedures : String → Bool
  tracks : String → Bool
  puzzles : String → Bool

/-- Everything that one scope has, another one has, too. -/
structure Scope.Within (k l : Scope) : Prop where
  scenes : ∀ {id}, k.scenes id = true → l.scenes id = true
  objects : ∀ {id}, k.objects id = true → l.objects id = true
  procedures : ∀ {name}, k.procedures name = true → l.procedures name = true
  tracks : ∀ {key}, k.tracks key = true → l.tracks key = true
  puzzles : ∀ {id}, k.puzzles id = true → l.puzzles id = true

theorem Scope.Within.trans {k l m : Scope} (h : k.Within l) (h' : l.Within m) : k.Within m where
  scenes hid := h'.scenes (h.scenes hid)
  objects hid := h'.objects (h.objects hid)
  procedures hname := h'.procedures (h.procedures hname)
  tracks hkey := h'.tracks (h.tracks hkey)
  puzzles hid := h'.puzzles (h.puzzles hid)

/-- Whether an effect uses the names of a scope only, and is one that cannot be refused then. -/
def Effect.fits (k : Scope) : Effect → Bool
  | .goToScene id => k.scenes id
  | .enterCode puzzle _ => puzzle.any k.puzzles
  | .setMusic audio _ => audio.all k.tracks
  | .playAudio key _ | .stopAudio key => k.tracks key
  | .runProcedure name => k.procedures name
  | .delayed delay _ => (Duration.ofMilliseconds? delay).isSome
  -- Whether a variable holds a number is not known before the increment.
  | .incrementVariable .. | .unrecognized => false
  | _ => true

/-- Whether an action fits into a scope, the scripts within it aside. -/
def Action.fits (k : Scope) (a : Action) : Bool := a.guard.all Guard.isKnown && a.effect.fits k

/-- **Sound actions** are valid and fit into a scope, with all actions within them. -/
structure Action.Sound (k : Scope) (a : Action) : Prop where
  valid : a.validate = .ok ()
  fits : a.fits k = true
  within : ∀ b ∈ a.effect.actions, b.fits k = true

section Sound

variable {k l : Scope} {a : Action} {script : Script}

/-- The track of an effect that fits is one of the scope. -/
theorem Effect.tracks_of_fits {effect : Effect} (h : effect.fits k = true) {key : String}
    (ht : effect.track? = some key) : k.tracks key = true := by
  cases effect with
  | setMusic audio config => exact (Option.all_eq_true _ _).1 h key ht
  | playAudio other config =>
    cases ht
    exact h
  | stopAudio other =>
    cases ht
    exact h
  | _ => cases ht

theorem Effect.fits_mono (h : k.Within l) {effect : Effect} (he : effect.fits k = true) :
    effect.fits l = true := by
  cases effect with
  | goToScene id => exact h.scenes he
  | enterCode puzzle code =>
    obtain ⟨id, hid, hp⟩ := (Option.any_eq_true _ _).1 he
    exact (Option.any_eq_true _ _).2 ⟨id, hid, h.puzzles hp⟩
  | setMusic audio config =>
    exact (Option.all_eq_true _ _).2 fun key hkey => h.tracks ((Option.all_eq_true _ _).1 he key hkey)
  | playAudio key config => exact h.tracks he
  | stopAudio key => exact h.tracks he
  | runProcedure name => exact h.procedures he
  | incrementVariable name value => cases he
  | unrecognized => cases he
  | _ => exact he

theorem Action.fits_mono (h : k.Within l) (ha : a.fits k = true) : a.fits l = true := by
  unfold Action.fits at ha ⊢
  rw [Bool.and_eq_true] at ha ⊢
  exact ⟨ha.1, Effect.fits_mono h ha.2⟩

theorem Action.Sound.mono (h : k.Within l) (ha : a.Sound k) : a.Sound l :=
  ⟨ha.valid, fits_mono h ha.fits, fun b hb => fits_mono h (ha.within b hb)⟩

theorem Action.sound_of_script (hv : validateScript script = .ok ())
    (hf : ∀ b ∈ Script.actions script, b.fits k = true) : ∀ a ∈ script, a.Sound k :=
  fun a ha => ⟨validate_of_validateScript hv a ha,
    hf a (Script.mem_actions_of_mem ha (.inl rfl)),
    fun b hb => hf b (Script.mem_actions_of_mem ha (.inr hb))⟩

/-- What is sound is sound within. -/
theorem Action.Sound.inner (ha : a.Sound k) (hs : script ∈ a.effect.inner) :
    ∀ b ∈ script, b.Sound k := by
  intro b hb
  -- The actions within an inner script are among those within the action.
  have hwithin : ∀ c ∈ Script.actions script, c.fits k = true := by
    intro c hc
    exact ha.within c (Effect.mem_actions_of_mem_inner hs hc)
  exact ⟨Action.validate_inner ha.valid hs b hb,
    hwithin b (Script.mem_actions_of_mem hb (.inl rfl)),
    fun c hc => hwithin c (Script.mem_actions_of_mem hb (.inr hc))⟩

/-- The guard of a sound action can be evaluated. -/
theorem Action.Sound.exists_passes (ha : a.Sound k) (p : Player) :
    ∃ passes, a.passes p = .ok passes := by
  have hknown := (Bool.and_eq_true_iff.1 ha.fits).1
  unfold Action.passes
  cases hg : a.guard with
  | none => exact ⟨true, rfl⟩
  | some guard => exact Guard.exists_evaluate p guard ((Option.all_eq_true _ _).1 hknown guard hg)

theorem exists_anyActive (p : Player) (h : ∀ a ∈ script, a.Sound k) :
    ∃ active, Script.anyActive p script = .ok active := by
  induction script with
  | nil => exact ⟨false, rfl⟩
  | cons a rest ih =>
    obtain ⟨passes, hpasses⟩ := (h a (.head _)).exists_passes p
    obtain ⟨active, hactive⟩ := ih fun b hb => h b (.tail _ hb)
    cases passes with
    | true => exact ⟨true, by rw [Script.anyActive, hpasses]; rfl⟩
    | false => exact ⟨active, by rw [Script.anyActive, hpasses]; exact hactive⟩

end Sound

end Adventure
