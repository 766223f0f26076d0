import Adventure.Proofs.Moves

/-!
# What an action does

An action enters a scene, submits a code, runs a script that is stored or that it holds itself,
takes a single step, does nothing, or is refused.

## Main definitions

* `Play.Performs`: these cases, each with the outcome of the action
* `Effect.isSingle`: the effects that take at most one step

## Main results

* `Play.performs`: every action falls under one of them
* `Play.outcome_perform_of_isSingle`: a single step succeeds, or is refused and leaves no trace
-/

namespace Adventure

namespace Play

open Session

/-- **What an action does** in a session.  A step that an action takes by itself records no
answer. -/
inductive Performs (P : Policy) (run : Script → Play Unit) (s : Session) (a : Action) : Prop where
  | enter {id : String} (he : a.effect = .goToScene id) (h : perform run a = goToScene run id)
  | submit {puzzle : Option String} {code : String} (he : a.effect = .enterCode puzzle code)
      (h : perform run a = submitCode run puzzle code)
  | script {script : Script} (hs : script ∈ a.effect.inner ∨ s.Stored script)
      (h : (perform run a).outcome s = (run script).outcome s)
  | step {t : Session} (hm : Move P s t) (hb : Prompts P s t)
      (ha : t.player.answers = s.player.answers)
      (h : (perform run a).outcome s = some (.ok (), t))
  | pass (h : (perform run a).outcome s = some (.ok (), s))
  | refuse {e : Error} (hr : s.Rejects a e) (h : (perform run a).outcome s = some (.error e, s))

variable {P : Policy} {s : Session} {a : Action}

/-- An action that needs a track is refused where the track is not known. -/
theorem performs_track (run : Script → Play Unit) {key : String} {c : Cue}
    (htrack : a.effect.track? = some key)
    (hm : s.catalog.audio.contains key = true → Move P s (s.cued [c]))
    (h : perform run a = do
      let _ ← ask fun s => s.catalog.audioFiles key
      cue c) : Performs P run s a := by
  cases hkey : s.catalog.audio.get? key with
  | none =>
    apply Performs.refuse (.track htrack (Table.get?_eq_none_iff.1 hkey))
    simp only [h, outcome_bind, outcome_audioFiles, hkey, andThen_error]
  | some urls =>
    apply Performs.step (hm (Table.contains_of_get? hkey)) (.same rfl) rfl
    simp only [h, outcome_bind, outcome_audioFiles, hkey, andThen_ok, outcome_cue]

/-- Changing the ambience: the same track plays on, and one that is not known is refused. -/
theorem performs_setMusic (run : Script → Play Unit) {audio : Option String} {config : Option Json}
    (he : a.effect = .setMusic audio config) : Performs P run s a := by
  have h : (perform run a).outcome s = (setMusic audio).outcome s := by
    unfold perform
    rw [he]
  rw [outcome_setMusic] at h
  by_cases hsame : s.player.music = audio
  · rw [if_pos hsame] at h
    exact .pass h
  · rw [if_neg hsame] at h
    cases hfilter : audio.filter fun key => !s.catalog.audio.contains key with
    | some key =>
      rw [hfilter] at h
      obtain ⟨haudio, hunknown⟩ := Option.filter_eq_some_iff.1 hfilter
      have htrack : a.effect.track? = some key := by rw [he, Effect.track?, haudio]
      exact .refuse (.track htrack (by simpa using hunknown)) h
    | none =>
      rw [hfilter] at h
      refine .step (.tune hsame ?_) (.same rfl) rfl h
      intro key hkey
      simpa using Option.filter_eq_none_iff.1 hfilter key hkey

/-- **Every action** does one of these things, whatever the scripts do that it runs. -/
theorem performs (hs : s.Grounded) (ha : P.performs s a) (run : Script → Play Unit) :
    Performs P run s a := by
  cases he : a.effect with
  | goToScene id => exact .enter he (by rw [perform, he])
  | enterCode puzzle code => exact .submit he (by rw [perform, he])
  | showText text =>
    apply Performs.step (.notice text) (.closed rfl) rfl
    rw [perform, he]
    exact outcome_showNotice hs text
  | blockingText text button next =>
    have hinner : ∀ script ∈ [next], script ∈ a.effect.inner := by simp [he, Effect.inner]
    have hblocking := outcome_showBlocking hs text
      [button.getD s.catalog.parameters.buttonText] [next]
    have hopened : some [next] = a.effect.choices? := by rw [he]; rfl
    refine .step (.block text ha hinner rfl) (.opened ha hopened) rfl (Eq.trans ?_ hblocking)
    simp only [perform, he, outcome_bind, outcome_get, andThen_ok]
  | alternative text scripts buttons =>
    by_cases hl : scripts.length = buttons.length
    · have hinner : ∀ script ∈ scripts, script ∈ a.effect.inner := by simp [he, Effect.inner]
      have hopened : some scripts = a.effect.choices? := by rw [he]; rfl
      refine .step (.block text ha hinner hl) (.opened ha hopened) rfl ?_
      rw [← outcome_showBlocking hs text buttons scripts]
      simp [perform, he, hl]
    · apply Performs.refuse (.uneven he hl)
      simp [perform, he, hl]
  | setVariable name value =>
    apply Performs.step (.assign ha he) (.same rfl) rfl
    rw [perform, he]
    rfl
  | incrementVariable name value =>
    have h : (perform run a).outcome s = (increment name value).outcome s := by rw [perform, he]
    rw [outcome_increment] at h
    cases hsum : s.sum? name value with
    | error e =>
      rw [hsum] at h
      exact .refuse (.increment he hsum) h
    | ok sum =>
      rw [hsum] at h
      exact .step (.increment ha he hsum) (.same rfl) rfl h
  | fadeTween tween =>
    apply Performs.step (.fade tween) (.same rfl) rfl
    rw [perform, he]
    rfl
  | setMusic audio config => exact performs_setMusic run he
  | musicTween tween =>
    cases hmusic : s.player.music with
    | none =>
      apply Performs.pass
      simp only [perform, he, outcome_bind, outcome_get, andThen_ok, hmusic, outcome_pure]
    | some key =>
      apply Performs.step (.swell tween hmusic) (.same rfl) rfl
      simp only [perform, he, outcome_bind, outcome_get, andThen_ok, hmusic, outcome_cue]
  | playAudio key config =>
    have htrack : a.effect.track? = some key := by rw [he]; rfl
    exact performs_track run htrack .play (by rw [perform, he])
  | stopAudio key =>
    have htrack : a.effect.track? = some key := by rw [he]; rfl
    exact performs_track run htrack .stop (by rw [perform, he])
  | group next =>
    have hinner : next ∈ a.effect.inner := by simp [he, Effect.inner]
    exact .script (.inl hinner) (by rw [perform, he])
  | runProcedure name =>
    cases hname : s.catalog.procedures.get? name with
    | none =>
      apply Performs.refuse (.procedure he hname)
      simp only [perform, he, outcome_bind, outcome_ask, Catalog.procedure, Catalog.look, hname,
        andThen_error]
    | some script =>
      apply Performs.script (.inr (.procedure hname))
      simp only [perform, he, outcome_bind, outcome_ask, Catalog.procedure, Catalog.look, hname,
        andThen_ok]
  | delayed delay next =>
    have h : (perform run a).outcome s = (schedule delay next).outcome s := by rw [perform, he]
    rw [outcome_schedule] at h
    cases hdelay : Duration.ofMilliseconds? delay with
    | none =>
      rw [hdelay] at h
      exact .refuse (.delay he hdelay) h
    | some duration =>
      rw [hdelay] at h
      exact .step (.schedule ha he hdelay) (.same rfl) rfl h
  | hideInteractive =>
    apply Performs.step .hide (.same rfl) rfl
    rw [perform, he]
    exact outcome_hideInteractive hs
  | redirect url =>
    apply Performs.step (.redirect url) (.same rfl) rfl
    rw [perform, he]
    rfl
  | unrecognized =>
    apply Performs.refuse (.unrecognized he)
    rw [perform, he]
    rfl

end Play

/-! ## Single steps -/

/-- Whether an effect takes at most one step: it enters no scene, submits no code and runs no
script. -/
def Effect.isSingle : Effect → Bool
  | goToScene _ | enterCode .. | group _ | runProcedure _ => false
  | showText _ | blockingText .. | alternative .. | setVariable .. | incrementVariable ..
  | fadeTween _ | setMusic .. | musicTween _ | playAudio .. | stopAudio _ | delayed ..
  | hideInteractive | redirect _ | unrecognized => true

namespace Play

open Session

variable {s : Session} {a : Action}

/-- A single step does not depend on how scripts are run. -/
theorem perform_of_isSingle (h : a.effect.isSingle = true) (run run' : Script → Play Unit) :
    perform run a = perform run' a := by
  unfold perform
  cases he : a.effect with
  | goToScene | enterCode | group | runProcedure =>
    rw [he] at h
    cases h
  | _ => rfl

/-- **A single step succeeds, or is refused** and leaves no trace. -/
theorem outcome_perform_of_isSingle (hs : s.Grounded) (h : a.effect.isSingle = true)
    (run : Script → Play Unit) :
    (∃ t, (perform run a).outcome s = some (.ok (), t)) ∨
      ∃ e, s.Rejects a e ∧ (perform run a).outcome s = some (.error e, s) := by
  -- The scripts could as well do nothing, since none is run.
  rw [perform_of_isSingle h run fun _ => pure ()]
  have ha : (Policy.free fun _ _ => True).performs s a := trivial
  cases performs hs ha fun _ => pure () with
  | enter he => simp [he, Effect.isSingle] at h
  | submit he => simp [he, Effect.isSingle] at h
  | script _ h => exact .inl ⟨s, h⟩
  | step _ _ _ h => exact .inl ⟨_, h⟩
  | pass h => exact .inl ⟨s, h⟩
  | refuse hr h => exact .inr ⟨_, hr, h⟩

end Play

end Adventure
