import Adventure.Proofs.Scripts
import Adventure.Session.Run

/-!
# Moves of a session

Whatever a session does is a sequence of moves: a scene is entered, a message is opened or closed, a
stage is loaded, and so on.  An operation that fails ends with a halt instead, which leaves the
session in one of a few ways.

A policy says which actions the scripts may perform and which stages the surroundings may load.  It
depends on the session, so it can speak of what is known there.

## Main definitions

* `Effect.inner`, `Session.Stored`: the scripts that an effect and a session hold
* `Policy`: what scripts and surroundings may do
* `Move`, `Halt`: the steps that a session can take, and the ends of a step that fails

## Main results

* `Move.extends`, `Halt.extends`: nothing that is known or reached is lost
* `Move.grounded`, `Halt.grounded`: the current scene stays known
-/

namespace Adventure

/-! ## Scripts that are held -/

namespace Effect

/-- The scripts that an effect runs or puts by. -/
def inner : Effect → List Script
  | blockingText _ _ next | group next | delayed _ next => [next]
  | alternative _ scripts _ => scripts
  | _ => []

/-- The scripts that an effect puts by for the buttons of a message. -/
def choices? : Effect → Option (List Script)
  | blockingText _ _ next => some [next]
  | alternative _ scripts _ => some scripts
  | _ => none

/-- The track that an effect needs. -/
def track? : Effect → Option String
  | setMusic audio _ => audio
  | playAudio key _ | stopAudio key => some key
  | _ => none

end Effect

namespace Session

/-- The scripts that a session can come to run without being given them. -/
inductive Stored (s : Session) : Script → Prop where
  | procedure {name : String} {script : Script}
      (h : s.catalog.procedures.get? name = some script) : Stored s script
  | interaction {id object : String} {scene : Scene} {script : Script}
      (h : s.catalog.scenes.get? id = some scene)
      (ho : scene.interactive.get? object = some script) : Stored s script
  | entry {id : String} {scene : Scene} (h : s.catalog.scenes.get? id = some scene) :
      Stored s scene.entryActions
  | firstEntry {id : String} {scene : Scene} (h : s.catalog.scenes.get? id = some scene) :
      Stored s scene.firstEntryActions
  | wrongCode {id : String} {scene : Scene} {script : Script}
      (h : s.catalog.scenes.get? id = some scene) (hw : scene.wrongCodeActions = some script) :
      Stored s script
  | wrongCodeDefault : Stored s s.catalog.parameters.wrongCodeActions
  | rediscovered : Stored s s.catalog.parameters.rediscoveredActions
  | button {scripts : List Script} {script : Script} (h : s.player.pending = some scripts)
      (hs : script ∈ scripts) : Stored s script
  | timer {timer : Nat} {script : Script} (h : (timer, script) ∈ s.pendingTimers) : Stored s script

/-- The session in which nothing waits for a timer. -/
def fired (s : Session) (timer : Ticket) : Session :=
  { s with pendingTimers := dropWaiting timer s.pendingTimers }

/-- The session whose batches or timers on display were reported. -/
def withDisplay (s : Session) (d : Display) : Session := { s with display := d }

/-- The session with another queue. -/
def withQueue (s : Session) (queue : List (Event Ticket)) : Session := { s with queue }

/-- An action is refused, before it changes anything. -/
inductive Rejects (s : Session) (a : Action) : Error → Prop where
  | guard {e : Error} (h : a.passes s.player = .error e) : Rejects s a e
  | scene {id : String} (he : a.effect = .goToScene id) (h : s.catalog.scenes.get? id = none) :
      Rejects s a (.notFound .scene id)
  | object {id object : String} {scene : Scene} (he : a.effect = .goToScene id)
      (h : s.catalog.scenes.get? id = some scene)
      (ho : Play.unknown? s scene.interactive.keys = some object) :
      Rejects s a (.notFound .object object)
  | code {puzzle : Option String} {code : String} {e : Error}
      (he : a.effect = .enterCode puzzle code) (h : s.targetsOf puzzle code = .error e) :
      Rejects s a e
  | uneven {text : String} {scripts : List Script} {buttons : List String}
      (he : a.effect = .alternative text scripts buttons) (h : scripts.length ≠ buttons.length) :
      Rejects s a (.invalidConfig (.unevenAlternative scripts.length buttons.length))
  | increment {name : String} {value : Value} {e : Error}
      (he : a.effect = .incrementVariable name value) (h : s.sum? name value = .error e) :
      Rejects s a e
  | delay {delay : Double} {next : Script} (he : a.effect = .delayed delay next)
      (h : Duration.ofMilliseconds? delay = none) : Rejects s a (.invalidConfig (.badDelay delay))
  | track {key : String} (he : a.effect.track? = some key)
      (h : s.catalog.audio.contains key = false) : Rejects s a (.notFound .audio key)
  | procedure {name : String} (he : a.effect = .runProcedure name)
      (h : s.catalog.procedures.get? name = none) : Rejects s a (.notFound .procedure name)
  | unrecognized (he : a.effect = .unrecognized) : Rejects s a (.unknownAction a.tag)

end Session

/-! ## Policies -/

/-- What scripts and surroundings may do in a session. -/
structure Policy where
  /-- The actions that scripts may perform. -/
  performs : Session → Action → Prop
  /-- The stages that the surroundings may load. -/
  loads : Session → String → Prop

/-- The policy under which scripts may perform every action. -/
def Policy.free (loads : Session → String → Prop) : Policy := ⟨fun _ _ => True, loads⟩

section

open Session

variable (P : Policy)

/-- A stage is asked for, by the surroundings or by a code, which is recorded then. -/
inductive Asked (s : Session) (stage : String) : Session → Prop where
  | direct (h : P.loads s stage) : Asked s stage s
  | code {puzzle code : String} {declared : Puzzle} {targets : List String}
      (hp : s.puzzle puzzle = .ok declared) (ht : declared.targets (Text.trim code) = .ok targets)
      (hs : stage ∈ targets) (h : s.player.hasLoaded stage = false) :
      Asked s stage (s.solved puzzle (Text.trim code))

/-- How the scripts that wait for buttons come to wait: they have waited before, or an action has put
them by. -/
inductive Prompts (s t : Session) : Prop where
  | same (h : t.player.pending = s.player.pending)
  | closed (h : t.player.pending = none)
  | opened {a : Action} (ha : P.performs s a) (h : t.player.pending = a.effect.choices?)

/-- The steps that a session can take. -/
inductive Move (s : Session) : Session → Prop where
  /-- A scene is left, and another one is entered and shown; its scripts follow. -/
  | enter {a : Action} {id : String} {scene : Scene} {plan : List (String × Bool)}
      (ha : P.performs s a) (he : a.effect = .goToScene id)
      (hscene : s.catalog.scenes.get? id = some scene)
      (hknown : Play.unknown? s scene.interactive.keys = none)
      (hplan : (s.left.arrived id).plan? = .ok plan) :
      Move s ((s.left.arrived id).entered id plan !s.player.hasVisited id)
  /-- The current scene is hidden. -/
  | hide : Move s (s.hidden false)
  /-- A notice is opened. -/
  | notice (text : String) : Move s (s.noticed text)
  /-- A blocking message is opened. -/
  | block {a : Action} (text : String) {buttons : List String} {scripts : List Script}
      (ha : P.performs s a) (hs : ∀ script ∈ scripts, script ∈ a.effect.inner)
      (hl : scripts.length = buttons.length) : Move s (s.blocked text buttons scripts)
  /-- A notice is closed, and the current scene is shown again. -/
  | close {plan : List (String × Bool)} (ho : s.noticeOpen = true)
      (hplan : s.noticeClosed.plan? = .ok plan) : Move s (s.noticeClosed.shown plan)
  /-- A blocking message is answered, and the current scene is shown again; a script follows. -/
  | answer {scripts : List Script} (hp : s.player.pending = some scripts)
      {plan : List (String × Bool)} (hplan : s.answered.plan? = .ok plan) :
      Move s (s.answered.shown plan)
  | assign {a : Action} {name : String} {value : Value} (ha : P.performs s a)
      (he : a.effect = .setVariable name value) : Move s (s.assigned name value)
  | increment {a : Action} {name : String} {value sum : Value} (ha : P.performs s a)
      (he : a.effect = .incrementVariable name value) (h : s.sum? name value = .ok sum) :
      Move s (s.assigned name sum)
  | fade (tween : Json) : Move s (s.cued [.cancelAnimation .fade, .animate .fade tween])
  | swell {key : String} (tween : Json) (h : s.player.music = some key) :
      Move s (s.cued [.animate (.ambience key) tween])
  | play {key : String} (h : s.catalog.audio.contains key = true) :
      Move s (s.cued [.play key false])
  | stop {key : String} (h : s.catalog.audio.contains key = true) : Move s (s.cued [.stop key])
  | redirect (url : String) : Move s (s.cued [.redirect url])
  /-- The ambience changes. -/
  | tune {audio : Option String} (hne : s.player.music ≠ audio)
      (h : ∀ key, audio = some key → s.catalog.audio.contains key = true) : Move s (s.tuned audio)
  /-- A timer is armed. -/
  | schedule {a : Action} {delay : Double} {duration : Duration} {next : Script}
      (ha : P.performs s a) (he : a.effect = .delayed delay next)
      (hd : Duration.ofMilliseconds? delay = some duration) : Move s (s.scheduled duration next)
  /-- A timer has expired; its script follows. -/
  | fire {timer : Ticket} {script : Script} (h : waiting? timer s.pendingTimers = some script) :
      Move s (s.fired timer)
  /-- A code was wrong; a script follows. -/
  | clear : Move s (s.cued [.clearCodeInput])
  /-- A stage is asked for and waits for its assets. -/
  | preload {id : String} {stage : Stage} {t : Session} (h : Asked P s id t)
      (hstage : t.stage id = .ok stage) (hneeds : stage.needsPreload = true) :
      Move s ((t.requested id).preloading stage)
  /-- A stage is asked for and becomes known at once; its load actions follow. -/
  | load {id : String} {stage : Stage} {scenes : List Scene} {t : Session} (h : Asked P s id t)
      (hstage : t.stage id = .ok stage) (hneeds : stage.needsPreload = false)
      (hscenes : (t.requested id).resolve [] stage.scenes = .ok scenes) :
      Move s ((t.requested id).finished stage scenes)
  /-- The assets of a stage have arrived, and it becomes known; its load actions follow. -/
  | complete {batch : Ticket} {id : String} {stage : Stage} {scenes : List Scene}
      (h : waiting? batch s.pendingLoads = some id) (hstage : s.stage id = .ok stage)
      (hscenes : (s.reported batch).resolve [] stage.scenes = .ok scenes) :
      Move s ((s.reported batch).finished stage scenes)
  | queue (events : List (Event Ticket)) : Move s (s.withQueue events)
  | reportBatches : Move s (s.withDisplay { s.display with batches := [] })
  | reportTimers : Move s (s.withDisplay { s.display with timers := [] })

/-- The ends of a step that fails: the error, and the session that is left. -/
inductive Halt (s : Session) : Error → Session → Prop where
  /-- An action is refused. -/
  | reject {a : Action} {e : Error} (ha : P.performs s a) (h : s.Rejects a e) : Halt s e s
  /-- A scene is entered but cannot be shown. -/
  | strand {a : Action} {id : String} {scene : Scene} {e : Error} (ha : P.performs s a)
      (he : a.effect = .goToScene id) (hscene : s.catalog.scenes.get? id = some scene)
      (hknown : Play.unknown? s scene.interactive.keys = none)
      (hplan : (s.left.arrived id).plan? = .error e) : Halt s e (s.left.arrived id)
  /-- A notice is closed, and the current scene cannot be shown. -/
  | close {e : Error} (ho : s.noticeOpen = true) (hplan : s.noticeClosed.plan? = .error e) :
      Halt s e s.noticeClosed
  /-- A blocking message is answered, and the current scene cannot be shown. -/
  | answer {scripts : List Script} {e : Error} (hp : s.player.pending = some scripts)
      (hplan : s.answered.plan? = .error e) : Halt s e s.answered
  /-- A stage is asked for that does not exist. -/
  | unstaged {id : String} {t : Session} {e : Error} (h : Asked P s id t)
      (hstage : t.stage id = .error e) : Halt s e t
  /-- A scene of a stage inherits from none. -/
  | unresolved {id : String} {stage : Stage} {t : Session} {e : Error} (h : Asked P s id t)
      (hstage : t.stage id = .ok stage) (hneeds : stage.needsPreload = false)
      (hscenes : (t.requested id).resolve [] stage.scenes = .error e) : Halt s e (t.requested id)
  /-- A scene of a stage whose assets have arrived inherits from none. -/
  | incomplete {batch : Ticket} {id : String} {e : Error}
      (h : waiting? batch s.pendingLoads = some id)
      (hscenes : (do
        let stage ← s.stage id
        (s.reported batch).resolve [] stage.scenes) = .error e) : Halt s e (s.reported batch)

end

/-! ## What every step keeps -/

namespace Session

/-- What one session has, another one has, too. -/
structure Extends (s t : Session) : Prop where
  arrows : t.arrows = s.arrows
  world : t.world = s.world
  sessionId : t.player.sessionId = s.player.sessionId
  catalog : s.catalog.Within t.catalog
  values : ∀ {name}, s.player.values.contains name = true → t.player.values.contains name = true
  answers : ∀ {puzzle},
    s.player.answers.contains puzzle = true → t.player.answers.contains puzzle = true
  loaded : ∀ {stage}, s.player.hasLoaded stage = true → t.player.hasLoaded stage = true
  visited : ∀ {scene}, s.player.hasVisited scene = true → t.player.hasVisited scene = true

variable {s t u : Session}

theorem Extends.refl (s : Session) : s.Extends s :=
  ⟨rfl, rfl, rfl, .refl _, id, id, id, id⟩

theorem Extends.of_eq (harrows : t.arrows = s.arrows) (hworld : t.world = s.world)
    (hc : t.catalog = s.catalog) (hp : t.player = s.player) : s.Extends t := by
  refine ⟨harrows, hworld, by rw [hp], ?_, ?_, ?_, ?_, ?_⟩
  · rw [hc]
    exact .refl _
  all_goals
    rw [hp]
    exact id

theorem Extends.trans (h : s.Extends t) (h' : t.Extends u) : s.Extends u where
  arrows := h'.arrows.trans h.arrows
  world := h'.world.trans h.world
  sessionId := h'.sessionId.trans h.sessionId
  catalog := h.catalog.trans h'.catalog
  values hv := h'.values (h.values hv)
  answers ha := h'.answers (h.answers ha)
  loaded hl := h'.loaded (h.loaded hl)
  visited hv := h'.visited (h.visited hv)

/-- A session with the same scenes, in the same one of them, is grounded, too. -/
theorem Grounded.congr (hs : s.Grounded) (hscenes : t.catalog.scenes = s.catalog.scenes)
    (hcurrent : t.player.currentScene = s.player.currentScene)
    (hvisited : t.player.visitedScenes = s.player.visitedScenes) : t.Grounded where
  keyed := by rw [hscenes]; exact hs.keyed
  known := by rw [hscenes, hcurrent]; exact hs.known
  visited := by
    unfold Player.hasVisited
    rw [hcurrent, hvisited]
    exact hs.visited

theorem Grounded.finished (hs : s.Grounded) (stage : Stage) (scenes : List Scene) :
    (s.finished stage scenes).Grounded where
  keyed h := by
    -- A new scene is registered under its own id.
    rcases Catalog.scenes_learnAll_cases h with h | h
    · exact hs.keyed h
    · exact h.2
  known h := (Catalog.within_learnAll s.catalog scenes stage.audio).scenes (hs.known h)
  visited h := hs.visited h

theorem extends_left (s : Session) : s.Extends s.left := ⟨rfl, rfl, rfl, .refl _, id, id, id, id⟩

theorem extends_arrived (s : Session) (id : String) : s.Extends (s.arrived id) :=
  ⟨rfl, rfl, rfl, .refl _, fun h => h, fun h => h, fun h => h, fun h => by
    simp only [Player.hasVisited] at h
    simp [arrived, Player.hasVisited, Player.markVisited, Names.contains_add, h]⟩

theorem extends_assigned (s : Session) (name : String) (value : Value) :
    s.Extends (s.assigned name value) :=
  ⟨rfl, rfl, rfl, .refl _, fun h => by simp [assigned, Player.setVariable, h], id, id, id⟩

theorem extends_solved (s : Session) (puzzle code : String) : s.Extends (s.solved puzzle code) :=
  ⟨rfl, rfl, rfl, .refl _, id, fun h => by simp [solved, Player.recordAnswer, h], id, id⟩

theorem extends_requested (s : Session) (id : String) : s.Extends (s.requested id) :=
  ⟨rfl, rfl, rfl, .refl _, fun h => h, fun h => h, fun h => by simp [hasLoaded_requested, h],
    fun h => h⟩

theorem extends_preloading (s : Session) (stage : Stage) : s.Extends (s.preloading stage) :=
  .of_eq rfl rfl rfl rfl

theorem extends_reported (s : Session) (batch : Ticket) : s.Extends (s.reported batch) :=
  .of_eq rfl rfl rfl rfl

theorem extends_noticed (s : Session) (text : String) : s.Extends (s.noticed text) :=
  ⟨rfl, rfl, rfl, .refl _, id, id, id, id⟩

theorem extends_noticeClosed (s : Session) : s.Extends s.noticeClosed :=
  .of_eq rfl rfl rfl rfl

theorem extends_answered (s : Session) : s.Extends s.answered :=
  ⟨rfl, rfl, rfl, .refl _, id, id, id, id⟩

theorem extends_finished (s : Session) (stage : Stage) (scenes : List Scene) :
    s.Extends (s.finished stage scenes) :=
  ⟨rfl, rfl, rfl, Catalog.within_learnAll s.catalog scenes stage.audio, id, id, id, id⟩

end Session

section

open Session

variable {P : Policy} {s t : Session} {stage : String} {e : Error}

theorem Asked.grounded (h : Asked P s stage t) (hs : s.Grounded) : t.Grounded := by
  cases h with
  | direct h => exact hs
  | code hp ht hmem h => exact hs.congr rfl rfl rfl

theorem Asked.extends (h : Asked P s stage t) : s.Extends t := by
  cases h with
  | direct h => exact .refl s
  | code hp ht hmem h => exact extends_solved s _ _

theorem Asked.pending (h : Asked P s stage t) : t.player.pending = s.player.pending := by
  cases h with
  | direct | code => rfl

theorem Asked.cues {stage : String} (h : Asked P s stage t) : s.Cues [.codeInput] t := by
  cases h with
  | direct => exact ⟨[], rfl, .nil⟩
  | code => exact cues_solved s _ _

/-- **A step takes nothing away.** -/
theorem Move.extends (h : Move P s t) : s.Extends t := by
  -- Most steps change nothing that is compared; the others add to one part of it.
  cases h with
  | @enter a scene =>
    have harrived : s.Extends (s.left.arrived scene) :=
      (extends_left s).trans (extends_arrived _ scene)
    exact harrived.trans ⟨rfl, rfl, rfl, .refl _, id, id, id, id⟩
  | assign => exact extends_assigned s _ _
  | increment => exact extends_assigned s _ _
  | @preload stage _ u h =>
    have hrequested : s.Extends (u.requested stage) := h.extends.trans (extends_requested u stage)
    exact hrequested.trans (extends_preloading _ _)
  | load h => exact (h.extends.trans (extends_requested _ _)).trans (extends_finished _ _ _)
  | complete => exact (extends_reported s _).trans (extends_finished _ _ _)
  | hide | notice | block | close | answer | fade | swell | play | stop | redirect | tune
  | schedule | fire | clear | queue | reportBatches | reportTimers =>
    exact ⟨rfl, rfl, rfl, .refl _, id, id, id, id⟩

/-- **The current scene stays known.** -/
theorem Move.grounded (h : Move P s t) (hs : s.Grounded) : t.Grounded := by
  -- The current scene changes when one is entered, and scenes when a stage becomes known.
  cases h with
  | @enter a id scene plan ha he hscene =>
    -- The scene was looked up before the current one was left.
    have hleft : s.left.Grounded := hs.left
    exact (hleft.arrived (Table.contains_of_get? hscene)).congr rfl rfl rfl
  | preload h => exact (h.grounded hs).congr rfl rfl rfl
  | @load id stage scenes u h =>
    have hu : (u.requested id).Grounded := (h.grounded hs).congr rfl rfl rfl
    exact hu.finished stage scenes
  | @complete batch =>
    have hreported : (s.reported batch).Grounded := hs.congr rfl rfl rfl
    exact hreported.finished _ _
  | hide | notice | block | close | answer | assign | increment | fade | swell | play | stop
  | redirect | tune | schedule | fire | clear | queue | reportBatches | reportTimers =>
    exact hs.congr rfl rfl rfl

theorem Halt.extends (h : Halt P s e t) : s.Extends t := by
  cases h with
  | reject => exact .refl s
  | @strand a id => exact (extends_left s).trans (extends_arrived _ id)
  | unstaged h => exact h.extends
  | unresolved h => exact h.extends.trans (extends_requested _ _)
  | close => exact extends_noticeClosed s
  | answer => exact extends_answered s
  | incomplete => exact extends_reported s _

theorem Halt.grounded (h : Halt P s e t) (hs : s.Grounded) : t.Grounded := by
  cases h with
  | reject => exact hs
  | @strand a id scene e ha he hscene =>
    have hleft : s.left.Grounded := hs.left
    exact hleft.arrived (Table.contains_of_get? hscene)
  | unstaged h => exact h.grounded hs
  | unresolved h => exact (h.grounded hs).congr rfl rfl rfl
  | close | answer | incomplete => exact hs.congr rfl rfl rfl

end

end Adventure
