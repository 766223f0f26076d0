import Adventure.Proofs.Containment

/-!
# What steps do to the screen

The objects and the code input on screen change in a few ways only: a message is opened or closed, a
scene is entered or hidden, and a code is wrong or accepted.  All other steps leave aside what is
shown of the current scene and what decides about it.

## Main definitions

* `Session.Aside`: what is shown of the current scene, and what decides about it, stay
* `Session.Accepts`, `Session.Enters`: a step accepts a code, or enters a scene
* `Session.Presents`: the ways in which a step changes what is shown

## Main results

* `Step.presents`, `Underway.presents`: every step is one of these ways
-/

namespace Adventure

open Session

namespace Session

/-- What is shown of the current scene stays as it is, and so does what decides about it. -/
structure Aside (s t : Session) : Prop where
  here : t.here? = s.here?
  pending : t.player.pending = s.player.pending
  notice : t.noticeOpen = s.noticeOpen
  answers : t.player.answers = s.player.answers
  catalog : s.catalog.Within t.catalog
  objects : t.display.objects = s.display.objects
  codeInput : t.display.codeInput = s.display.codeInput

variable {s t u : Session}

theorem Aside.refl (s : Session) : s.Aside s := ⟨rfl, rfl, rfl, rfl, .refl _, rfl, rfl⟩

theorem Aside.trans (h : s.Aside t) (h' : t.Aside u) : s.Aside u where
  here := h'.here.trans h.here
  pending := h'.pending.trans h.pending
  notice := h'.notice.trans h.notice
  answers := h'.answers.trans h.answers
  catalog := h.catalog.trans h'.catalog
  objects := h'.objects.trans h.objects
  codeInput := h'.codeInput.trans h.codeInput

/-- Cues about other parts of the display are aside. -/
theorem Aside.of_cues {parts : List Part} (hcues : s.Cues parts t) (ho : .objects ∉ parts)
    (hi : .codeInput ∉ parts) (hc : t.catalog = s.catalog)
    (hcurrent : t.player.currentScene = s.player.currentScene)
    (hp : t.player.pending = s.player.pending) (hn : t.noticeOpen = s.noticeOpen)
    (ha : t.player.answers = s.player.answers) : s.Aside t where
  here := here?_congr hc hcurrent
  pending := hp
  notice := hn
  answers := ha
  catalog := by
    rw [hc]
    exact .refl _
  objects := hcues.objects ho
  codeInput := hcues.codeInput hi

theorem aside_requested (s : Session) (id : String) : s.Aside (s.requested id) :=
  .of_cues (cues_requested s id) (by simp) (by simp) rfl rfl rfl rfl rfl

theorem aside_preloading (s : Session) (stage : Stage) : s.Aside (s.preloading stage) :=
  .of_cues (cues_preloading s stage) (by simp) (by simp) rfl rfl rfl rfl rfl

theorem aside_reported (s : Session) (batch : Ticket) : s.Aside (s.reported batch) :=
  .of_cues (.of_display rfl) (by simp) (by simp) rfl rfl rfl rfl rfl

/-- A stage becomes known while the current scene stays as it is. -/
theorem aside_finished (stage : Stage) (scenes : List Scene)
    (hhere : (s.finished stage scenes).here? = s.here?) :
    s.Aside (s.finished stage scenes) where
  here := hhere
  pending := rfl
  notice := rfl
  answers := rfl
  catalog := Catalog.within_learnAll s.catalog scenes stage.audio
  objects := (cues_finished s stage scenes).objects (by simp)
  codeInput := (cues_finished s stage scenes).codeInput (by simp)

/-- A step accepts a code: the code leads to a stage that was not loaded before, the answer is
recorded and shown, and what the step does to the stage is aside. -/
inductive Accepts (s : Session) : Session → Prop where
  | code {puzzle code stage : String} {declared : Puzzle} {targets : List String} {t : Session}
      (hp : s.puzzle puzzle = .ok declared) (ht : declared.targets (Text.trim code) = .ok targets)
      (hs : stage ∈ targets) (hl : s.player.hasLoaded stage = false)
      (h : (s.solved puzzle (Text.trim code)).Aside t) : Accepts s t

/-- A scene is entered, all of whose objects are known, and shown as far as an open message lets it
be shown; its scripts follow. -/
inductive Enters (s : Session) : Session → Prop where
  | shown {id : String} {scene : Scene} {plan : List (String × Bool)} (first : Bool)
      (hscene : s.catalog.scenes.get? id = some scene)
      (hknown : Play.unknown? s scene.interactive.keys = none)
      (hplan : (s.left.arrived id).plan? = .ok plan) :
      Enters s ((s.left.arrived id).entered id plan first)

/-- The ways in which a step changes what is shown of the current scene. -/
inductive Presents (s : Session) : Session → Prop where
  | aside {t : Session} (h : s.Aside t) : Presents s t
  | accept {t : Session} (h : s.Accepts t) : Presents s t
  /-- A code was wrong. -/
  | clear : Presents s (s.cued [.clearCodeInput])
  | hide : Presents s (s.hidden false)
  | notice (text : String) : Presents s (s.noticed text)
  | block (text : String) (buttons : List String) (scripts : List Script) :
      Presents s (s.blocked text buttons scripts)
  | close {plan : List (String × Bool)} (ho : s.noticeOpen = true)
      (hplan : s.noticeClosed.plan? = .ok plan) : Presents s (s.noticeClosed.shown plan)
  | answer {scripts : List Script} {plan : List (String × Bool)}
      (hp : s.player.pending = some scripts) (hplan : s.answered.plan? = .ok plan) :
      Presents s (s.answered.shown plan)
  | enter {t : Session} (h : s.Enters t) : Presents s t
  /-- A notice is closed, and the current scene cannot be shown. -/
  | closed (ho : s.noticeOpen = true) : Presents s s.noticeClosed
  /-- A blocking message is answered, and the current scene cannot be shown. -/
  | answered {scripts : List Script} (hp : s.player.pending = some scripts) :
      Presents s s.answered
  /-- A scene is entered but cannot be shown. -/
  | strand {id : String} {scene : Scene} (hscene : s.catalog.scenes.get? id = some scene)
      (hknown : Play.unknown? s scene.interactive.keys = none) : Presents s (s.left.arrived id)

end Session

section Steps

variable {P : Policy} {s t u : Session} {e : Error} {w : World} {stage : String}

/-- Whether a stage is asked for by a code or not, what is done to it is aside. -/
theorem Asked.presents (h : Asked P s stage t) (ht : t.Aside u) : s.Presents u := by
  cases h with
  | direct => exact .aside ht
  | code hp htargets hmem hl => exact .accept (.code hp htargets hmem hl ht)

theorem Move.presents (hw : w.DistinctScenes) (hg : s.Grounded) (hr : s.Registered w)
    (h : Move P s t) : s.Presents t := by
  cases h with
  | enter ha he hscene hknown hplan => exact .enter (.shown _ hscene hknown hplan)
  | hide => exact .hide
  | notice text => exact .notice text
  | block text => exact .block text _ _
  | close ho hplan => exact .close ho hplan
  | answer hp hplan => exact .answer hp hplan
  | clear => exact .clear
  | tune =>
    exact .aside (.of_cues (cues_tuned s _) (by simp) (by simp) rfl rfl rfl rfl rfl)
  | schedule =>
    exact .aside (.of_cues (cues_scheduled s _ _) (by simp) (by simp) rfl rfl rfl rfl rfl)
  | @preload id stage u h =>
    exact h.presents ((aside_requested u id).trans (aside_preloading _ stage))
  | @load id stage scenes u h hstage hneeds hscenes =>
    have hu : (u.requested id).Registered w := (h.registered hr).congr rfl rfl
    have hgu : (u.requested id).Grounded := (h.grounded hg).congr rfl rfl rfl
    have hhere := hu.here?_finished hw hgu hstage hscenes
    exact h.presents ((aside_requested u id).trans (aside_finished stage scenes hhere))
  | @complete batch id stage scenes h hstage hscenes =>
    have hr' : (s.reported batch).Registered w := hr.congr rfl rfl
    have hg' : (s.reported batch).Grounded := hg.congr rfl rfl rfl
    have hhere := hr'.here?_finished hw hg' hstage hscenes
    exact .aside ((aside_reported s batch).trans (aside_finished stage scenes hhere))
  | fade | swell | play | stop | redirect | assign | increment | fire | queue | reportBatches
  | reportTimers => exact .aside ⟨rfl, rfl, rfl, rfl, .refl _, rfl, rfl⟩

theorem Halt.presents (h : Halt P s e t) : s.Presents t := by
  cases h with
  | reject => exact .aside (.refl s)
  | strand ha he hscene hknown => exact .strand hscene hknown
  | close ho => exact .closed ho
  | answer hp => exact .answered hp
  | unstaged h => exact h.presents (.refl t)
  | unresolved h => exact h.presents (aside_requested _ _)
  | incomplete => exact .aside (aside_reported s _)

/-- **Each step** leaves aside what is shown of the current scene, or presents it anew. -/
theorem Session.Step.presents (hw : w.DistinctScenes) (hg : s.Grounded) (hr : s.Registered w)
    (h : s.Step t) : s.Presents t := by
  cases h with
  | move h => exact h.presents hw hg hr
  | halt h => exact h.presents

/-- Between the steps of a session, each step presents what is shown. -/
theorem Underway.presents {arrows : List String} (hw : w.DistinctScenes)
    (hs : Underway arrows w s) (h : s.Step t) : s.Presents t :=
  h.presents hw hs.grounded hs.registered

end Steps

end Adventure
