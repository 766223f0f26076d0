import Adventure.Proofs.WellFormed

/-!
# Where scripts come from

A script that a session runs is one of the world's, was given to the session from outside, or stands
in an action of such a script.  So what holds of all the actions of a world and of its surroundings,
and of what stands within them, holds of all actions that are ever performed.

## Main definitions

* `World.scripts`: the scripts of a world
* `Hereditary`: a property of actions that is handed on to the scripts within them
* `Session.Bred`: all scripts that a session holds have a property

## Main results

* `Move.stored`, `Halt.stored`: each step adds scripts of these kinds only
* `Keeps.bred`: scripts and events keep a hereditary property of all that is held
-/

namespace Adventure

open Session

/-! ## The scripts of a world -/

/-- What a declared scene is registered as holds its own scripts and those that it inherits. -/
theorem Scene.Becomes.scripts {bases : Scene → Prop} {d r : Scene} (h : d.Becomes bases r)
    {script : Script} (hs : script ∈ r.scripts) :
    script ∈ d.scripts ∨ ∃ base, bases base ∧ script ∈ base.scripts := by
  cases h with
  | alone => exact .inl hs
  | @inherit base hi hb =>
    rcases Scene.mem_scripts_inherit hs with hs | hs
    · exact .inl hs
    · exact .inr ⟨base, hb, Scene.mem_scripts_of_interaction hs⟩

namespace World

variable {w : World} {script : Script}

/-- The scripts of a world: those of its stages, and those of its parameters. -/
def scripts (w : World) : List Script := w.defaultScripts ++ w.stages.flatMap Stage.scripts

theorem mem_scripts_of_stage {stage : Stage} (hstage : stage ∈ w.stages)
    (hs : script ∈ stage.scripts) : script ∈ w.scripts :=
  List.mem_append_right _ (List.mem_flatMap.2 ⟨stage, hstage, hs⟩)

theorem mem_scripts_of_scene {scene : Scene} (hscene : scene ∈ w.scenes)
    (hs : script ∈ scene.scripts) : script ∈ w.scripts := by
  obtain ⟨stage, hstage, hmem⟩ := List.mem_flatMap.1 hscene
  exact mem_scripts_of_stage hstage (.tail _ (List.mem_flatMap.2 ⟨scene, hmem, hs⟩))

theorem Registers.mem_scripts {scene : Scene} (h : w.Registers scene)
    (hs : script ∈ scene.scripts) : script ∈ w.scripts := by
  obtain ⟨d, hd, hbecomes⟩ := h
  rcases hbecomes.scripts hs with hs | ⟨base, hbase, hs⟩
  · exact mem_scripts_of_scene hd hs
  · exact mem_scripts_of_scene hbase hs

end World

/-! ## Scripts that are held -/

namespace Session

variable {s t : Session} {script : Script}

/-- What is held beside the catalog are the scripts of a message and those of the timers. -/
theorem Stored.cases_of_catalog (h : t.Stored script) (hc : t.catalog = s.catalog) :
    s.Stored script ∨ (∃ scripts, t.player.pending = some scripts ∧ script ∈ scripts) ∨
      ∃ timer, (timer, script) ∈ t.pendingTimers := by
  cases h with
  | procedure h => exact .inl (.procedure (hc ▸ h))
  | interaction h ho => exact .inl (.interaction (hc ▸ h) ho)
  | entry h => exact .inl (.entry (hc ▸ h))
  | firstEntry h => exact .inl (.firstEntry (hc ▸ h))
  | wrongCode h hw => exact .inl (.wrongCode (hc ▸ h) hw)
  | wrongCodeDefault =>
    rw [hc]
    exact .inl .wrongCodeDefault
  | rediscovered =>
    rw [hc]
    exact .inl .rediscovered
  | button h hs => exact .inr (.inl ⟨_, h, hs⟩)
  | timer h => exact .inr (.inr ⟨_, h⟩)

theorem Stored.of_catalog (h : t.Stored script) (hc : t.catalog = s.catalog)
    (hp : ∀ {scripts}, t.player.pending = some scripts → s.player.pending = some scripts)
    (ht : ∀ {e}, e ∈ t.pendingTimers → e ∈ s.pendingTimers) : s.Stored script := by
  rcases h.cases_of_catalog hc with h | ⟨scripts, h, hs⟩ | ⟨timer, h⟩
  · exact h
  · exact .button (hp h) hs
  · exact .timer (ht h)

/-- A stage that becomes known brings the scripts of its scenes. -/
theorem stored_finished {stage : Stage} {scenes : List Scene}
    (h : (s.finished stage scenes).Stored script) :
    s.Stored script ∨ ∃ scene ∈ scenes, script ∈ scene.scripts := by
  have hscene : ∀ {id scene}, (s.finished stage scenes).catalog.scenes.get? id = some scene →
      script ∈ scene.scripts → (s.catalog.scenes.get? id = some scene → s.Stored script) →
        s.Stored script ∨ ∃ scene ∈ scenes, script ∈ scene.scripts := by
    intro id scene hget hmem hold
    rcases Catalog.scenes_learnAll_cases hget with hget | ⟨hnew, -⟩
    · exact .inl (hold hget)
    · exact .inr ⟨scene, hnew, hmem⟩
  have hparameters : (s.finished stage scenes).catalog.parameters = s.catalog.parameters :=
    (Catalog.within_learnAll s.catalog scenes stage.audio).parameters
  cases h with
  | procedure h =>
    rcases Catalog.procedures_learnAll_cases h with h | ⟨scene, hmem, hget⟩
    · exact .inl (.procedure h)
    · have hvalue : script ∈ scene.procedures.values := Table.mem_values_iff.2 ⟨_, hget⟩
      exact .inr ⟨scene, hmem, by simp [Scene.scripts, hvalue]⟩
  | interaction h ho =>
    have hvalue := Scene.mem_scripts_of_interaction (Table.mem_values_iff.2 ⟨_, ho⟩)
    exact hscene h hvalue fun h => .interaction h ho
  | entry h => exact hscene h (by simp [Scene.scripts]) .entry
  | firstEntry h => exact hscene h (by simp [Scene.scripts]) .firstEntry
  | wrongCode h hw => exact hscene h (by simp [Scene.scripts, hw]) fun h => .wrongCode h hw
  | wrongCodeDefault =>
    rw [hparameters]
    exact .inl .wrongCodeDefault
  | rediscovered =>
    rw [hparameters]
    exact .inl .rediscovered
  | button h hs => exact .inl (.button h hs)
  | timer h => exact .inl (.timer h)

/-- A session that knows no scenes holds the scripts of the parameters only. -/
theorem Stored.of_bare (h : s.Stored script) (hscenes : s.catalog.scenes = ∅)
    (hprocedures : s.catalog.procedures = ∅) (hp : s.player.pending = none)
    (ht : s.pendingTimers = []) :
    script = s.catalog.parameters.wrongCodeActions ∨
      script = s.catalog.parameters.rediscoveredActions := by
  cases h with
  | wrongCodeDefault => exact .inl rfl
  | rediscovered => exact .inr rfl
  | procedure h =>
    rw [hprocedures] at h
    cases h
  | interaction h | entry h | firstEntry h | wrongCode h =>
    rw [hscenes] at h
    cases h
  | button h => cases h.symm.trans hp
  | timer h =>
    rw [ht] at h
    cases h

end Session

section Steps

variable {P : Policy} {s t : Session} {e : Error} {w : World} {script : Script}

theorem Asked.stored {stage : String} (h : Asked P s stage t) (hs : t.Stored script) :
    s.Stored script := by
  cases h with
  | direct => exact hs
  | code => exact hs.of_catalog rfl id id

/-- The scripts of the scenes of a stage are those of the world. -/
theorem Session.Registered.stored_finished (hr : s.Registered w) {id : String} {stage : Stage}
    {scenes : List Scene} (hstage : s.stage id = .ok stage)
    (hscenes : s.resolve [] stage.scenes = .ok scenes)
    (hs : (s.finished stage scenes).Stored script) : s.Stored script ∨ script ∈ w.scripts := by
  rcases Session.stored_finished hs with hs | ⟨scene, hmem, hs⟩
  · exact .inl hs
  · exact .inr ((hr.resolve hstage hscenes scene hmem).mem_scripts hs)

/-- **What a step makes a session hold** is a script of the world, or one within an action that was
performed. -/
theorem Move.stored (h : Move P s t) (hr : s.Registered w) (hs : t.Stored script) :
    s.Stored script ∨ script ∈ w.scripts ∨ ∃ a, P.performs s a ∧ script ∈ a.effect.inner := by
  cases h with
  | @load stageId stage scenes u hasked hstage hneeds hscenes =>
    have hu : (u.requested stageId).Registered w := (hasked.registered hr).congr rfl rfl
    rcases hu.stored_finished hstage hscenes hs with hs | hs
    · exact .inl (hasked.stored (hs.of_catalog rfl id id))
    · exact .inr (.inl hs)
  | @complete batch stageId stage scenes hwaits hstage hscenes =>
    have hreported : (s.reported batch).Registered w := hr.congr rfl rfl
    rcases hreported.stored_finished hstage hscenes hs with hs | hs
    · exact .inl (hs.of_catalog rfl id id)
    · exact .inr (.inl hs)
  | preload hasked => exact .inl (hasked.stored (hs.of_catalog rfl id id))
  | @block a text buttons scripts ha hinner hl =>
    rcases hs.cases_of_catalog (s := s) rfl with hs | ⟨_, ⟨⟩, hs⟩ | ⟨timer, hs⟩
    · exact .inl hs
    · exact .inr (.inr ⟨a, ha, hinner script hs⟩)
    · exact .inl (.timer hs)
  | @schedule a delay duration next ha he hd =>
    rcases hs.cases_of_catalog (s := s) rfl with hs | ⟨_, hp, hs⟩ | ⟨timer, hs⟩
    · exact .inl hs
    · exact .inl (.button hp hs)
    · rcases List.mem_append.1 hs with hs | hs
      · exact .inl (.timer hs)
      · cases List.mem_singleton.1 hs
        exact .inr (.inr ⟨a, ha, by simp [he, Effect.inner]⟩)
  | fire => exact .inl (hs.of_catalog rfl id mem_of_mem_dropWaiting)
  | notice | answer => exact .inl (hs.of_catalog rfl (fun h => by cases h) id)
  | enter | hide | close | assign | increment | fade | swell | play | stop | redirect | tune
  | clear | queue | reportBatches | reportTimers =>
    exact .inl (hs.of_catalog rfl id id)

theorem Halt.stored (h : Halt P s e t) (hs : t.Stored script) : s.Stored script := by
  cases h with
  | reject => exact hs
  | unstaged h => exact h.stored hs
  | unresolved h => exact h.stored (hs.of_catalog rfl id id)
  | strand | close | incomplete => exact hs.of_catalog rfl id id
  | answer => exact hs.of_catalog rfl (fun h => by cases h) id

end Steps

/-! ## Hereditary properties -/

/-- A property of actions that is handed on to the scripts within them, and that the way to the
first scene has. -/
structure Hereditary (Q : Action → Prop) : Prop where
  inner : ∀ {a script}, Q a → script ∈ a.effect.inner → ∀ b ∈ script, Q b
  enter : ∀ id, Q (.new (.goToScene id))

/-- The policy under which scripts may perform the actions that have a property. -/
def Policy.only (Q : Action → Prop) : Policy := ⟨fun _ => Q, fun _ _ => True⟩

/-- All scripts that a session can come to run have a property, and a message that blocks was opened
by an action that has it. -/
structure Session.Bred (Q : Action → Prop) (w : World) (s : Session) : Prop where
  registered : s.Registered w
  stored : ∀ {script}, s.Stored script → ∀ a ∈ script, Q a
  choices : ∀ {scripts}, s.player.pending = some scripts →
    ∃ a, Q a ∧ a.effect.choices? = some scripts

section

variable {Q : Action → Prop} {w : World} {s t : Session} {e : Error} {arrows : List String}

theorem Move.bred (hQ : Hereditary Q) (hw : ∀ script ∈ w.scripts, ∀ a ∈ script, Q a)
    (h : Move (.only Q) s t) (hb : Prompts (.only Q) s t) (hs : s.Bred Q w) : t.Bred Q w where
  registered := h.registered hs.registered
  stored ht := by
    rcases h.stored hs.registered ht with ht | ht | ⟨a, ha, ht⟩
    · exact hs.stored ht
    · exact hw _ ht
    · exact hQ.inner ha ht
  choices ht := by
    cases hb with
    | same h => exact hs.choices (h.symm.trans ht)
    | closed h => cases h.symm.trans ht
    | opened ha h => exact ⟨_, ha, h.symm.trans ht⟩

theorem Halt.bred (h : Halt (.only Q) s e t) (hs : s.Bred Q w) : t.Bred Q w where
  registered := h.registered hs.registered
  stored ht := hs.stored (h.stored ht)
  choices ht := by
    have hpending : t.player.pending = s.player.pending ∨ t.player.pending = none := by
      cases h with
      | answer => exact .inr rfl
      | unstaged h => exact .inl h.pending
      | unresolved h => exact .inl h.pending
      | reject | strand | close | incomplete => exact .inl rfl
    rcases hpending with hp | hp
    · exact hs.choices (hp.symm.trans ht)
    · cases hp.symm.trans ht

/-- **Scripts and events keep a hereditary property** of all that a session holds, if the scripts of
the world have it. -/
theorem Keeps.bred (hQ : Hereditary Q) (hw : ∀ script ∈ w.scripts, ∀ a ∈ script, Q a) :
    Keeps (.only Q) (Bred Q w) fun _ => Bred Q w where
  move _ hI hm hb := hm.bred hQ hw hb hI
  halt _ hI hh := hh.bred hI
  lasting _ _ _ ha := ha
  stored hI hs := hI.stored hs
  inner ha hs := hQ.inner ha hs
  loading {s stage} hI ho := by
    cases ho with
    | finished hstage =>
      obtain ⟨-, v, hv, hmem⟩ := stage_ok hstage
      obtain rfl := hI.registered.world hv
      exact hw _ (World.mem_scripts_of_stage hmem (.head _))
  opening _ _ _ := hQ.enter _

/-- A session that knows no scenes yet runs no scripts but those of the parameters. -/
theorem Session.bred_withArrows (id : Uuid) (arrows : List String) (w : World) :
    (withArrows id arrows).Bred Q w := by
  refine ⟨registered_withArrows id arrows w, fun hs a ha => ?_, nofun⟩
  -- The parameters that stand in before a world is started hold no actions.
  rcases hs.of_bare rfl rfl rfl rfl with rfl | rfl <;> cases ha

theorem Session.bred_begun (hw : ∀ script ∈ w.scripts, ∀ a ∈ script, Q a) (s : Session) (id : Uuid) :
    (s.begun id w).Bred Q w := by
  refine ⟨registered_begun s id w, fun {script} hs => hw script ?_, nofun⟩
  have hparameters : (s.begun id w).catalog.parameters = w.parameters := by
    simp [begun, Catalog.addArrows_eq]
  apply List.mem_append_left
  have hbare := hs.of_bare (by simp [begun, Catalog.addArrows_eq])
    (by simp [begun, Catalog.addArrows_eq]) rfl rfl
  rcases hbare with rfl | rfl <;> simp [World.defaultScripts, hparameters]

/-- **What the scripts of a world and of its surroundings have**, all scripts of a session have. -/
theorem Played.bred (hQ : Hereditary Q) (hw : ∀ script ∈ w.scripts, ∀ a ∈ script, Q a)
    (h : Played (fun s c => c.Permitted (.only Q) s) arrows w s) : s.Bred Q w :=
  ((Keeps.bred hQ hw).played (fun _ _ h => h) (fun id => bred_withArrows id arrows w)
    (fun id id' => bred_begun hw (.withArrows id arrows) id') (fun _ => trivial) h).2

end

end Adventure
