import Adventure.Proofs.Sessions

/-!
# What operations do not look at

Scripts and loads look neither at the id of the session nor at the queue, the timers, the scripts
of an open message, the display, the log and the numbers of batches, and of the answers to puzzles
they look at the texts only to show them.  So two sessions that differ in these only go the same
way, and whatever relates them is kept as long as it survives the single things that operations do:
a cue, a line in the log, a change of the player or of the catalog, an answer that is recorded or
shown, a message, a batch, a timer.

## Main definitions

* `Player.masked`, `Session.view`: the player and the session without what scripts do not look at
* `Blind A`: sessions that are related have one view, and stay related if the same is done to both
* `Play.Related A p q`: from related sessions, two operations end with the same, and related
* `Play.Oblivious A p`: an operation is related to itself
* `Attentive A`: related sessions also agree in the batches that are waited for, and in the scripts
  of the open message
* `Seamless A`: related sessions agree in all that calls look at

## Main results

* `Blind.execute`, `Blind.loadStage`: scripts and loads are oblivious
* `Blind.submitCodes`: two codes that differ in case and in blanks around them do the same
* `Blind.handle`, `Attentive.handle`: events are
* `Seamless.call`, `Seamless.start`: calls and starts are
-/

namespace Adventure

/-! ## Queries -/

namespace Table

variable {α β : Type}

/-- The table with other values under the same keys. -/
def map (f : α → β) (t : Table α) : Table β :=
  ⟨t.entries.map fun e => (e.1, f e.2), List.pairwise_map.2 t.sorted⟩

theorem find_map (f : α → β) (key : String) (l : List (String × α)) :
    find key (l.map fun e => (e.1, f e.2)) = (find key l).map f := by
  induction l with
  | nil => rfl
  | cons e l ih =>
    obtain ⟨k, a⟩ := e
    simp only [List.map_cons, find, ih]
    split <;> rfl

theorem get?_map (f : α → β) (t : Table α) (key : String) :
    (t.map f).get? key = (t.get? key).map f :=
  find_map f key t.entries

theorem contains_map (f : α → β) (t : Table α) (key : String) :
    (t.map f).contains key = t.contains key := by
  unfold contains
  rw [get?_map, Option.isSome_map]

end Table

/-- The player without the id of the session, the texts of the answers and the scripts of the open
message. -/
def Player.masked (p : Player) : Player :=
  { p with
    sessionId := .ofNat 0
    answers := p.answers.map fun _ => ""
    pending := p.pending.map fun _ => [] }

theorem Player.isBlocked_masked (p : Player) : p.masked.isBlocked = p.isBlocked :=
  Option.isSome_map

theorem Player.isSolved_masked (p : Player) (puzzle : String) :
    p.masked.isSolved puzzle = p.isSolved puzzle :=
  Table.contains_map _ p.answers puzzle

mutual

/-- No guard looks at the id of the session or at the text of an answer. -/
theorem Guard.evaluate_masked (p : Player) : ∀ g : Guard, g.evaluate p.masked = g.evaluate p
  | ⟨condition, _⟩ => by
    unfold Guard.evaluate
    rw [Condition.evaluate_masked p condition]

theorem Condition.evaluate_masked (p : Player) :
    ∀ c : Condition, c.evaluate p.masked = c.evaluate p
  | .all guards => by
    unfold Condition.evaluate
    exact Condition.evaluateAll_masked p guards
  | .puzzleSolved puzzle => congrArg Except.ok (p.isSolved_masked puzzle)
  | .variableIs .. | .sceneVisited _ | .stageLoaded _ | .unrecognized _ => rfl

theorem Condition.evaluateAll_masked (p : Player) :
    ∀ guards : List Guard,
      Condition.evaluateAll p.masked guards = Condition.evaluateAll p guards
  | [] => rfl
  | guard :: guards => by
    unfold Condition.evaluateAll
    rw [Guard.evaluate_masked p guard, Condition.evaluateAll_masked p guards]

end

theorem Action.passes_masked (p : Player) (a : Action) : a.passes p.masked = a.passes p := by
  unfold Action.passes
  cases a.guard with
  | none => rfl
  | some guard => exact guard.evaluate_masked p

theorem Script.anyActive_masked (p : Player) (script : Script) :
    script.anyActive p.masked = script.anyActive p := by
  induction script with
  | nil => rfl
  | cons a script ih =>
    unfold Script.anyActive
    rw [a.passes_masked, ih]

namespace Session

/-- The session without its id, its display and its log, and with all batches and timers under one
number. -/
def core (s : Session) : Session :=
  { s with
    player := { s.player with sessionId := .ofNat 0 }
    pendingLoads := s.pendingLoads.map fun e => (0, e.2)
    pendingTimers := s.pendingTimers.map fun e => (0, e.2)
    batchCount := 0
    timerCount := 0
    display := {}
    notes := #[] }

/-- The session without what scripts and loads do not look at. -/
def view (s : Session) : Session :=
  { s.core with player := s.core.player.masked, queue := [], pendingTimers := [] }

theorem view_visibility (s : Session) (interactive : List (String × Script)) :
    s.view.visibility interactive = s.visibility interactive := by
  have hactive : ∀ script : Script, script.anyActive s.view.player = script.anyActive s.player :=
    fun script => script.anyActive_masked s.player
  unfold visibility
  simp only [hactive]
  rfl

theorem view_resolve (s : Session) (before scenes : List Scene) :
    s.view.resolve before scenes = s.resolve before scenes := by
  induction scenes generalizing before with
  | nil => rfl
  | cons scene rest ih =>
    unfold resolve
    rw [ih]
    rfl

/-- The session in which a stage waits for a new batch. -/
def batched (s : Session) (stage : String) : Session :=
  ({ s with
      batchCount := s.batchCount + 1
      pendingLoads := s.pendingLoads ++ [(s.batchCount, stage)] }.noted
    (.stagePreloading stage s.batchCount)).cued [.startBatch s.batchCount]

/-- The session with a notice that is open or not. -/
def withNotice (s : Session) (isOpen : Bool) : Session := { s with noticeOpen := isOpen }

/-- The session with another player. -/
def withPlayer (s : Session) (p : Player) : Session := { s with player := p }

/-- What a code input shows that is the same in two sessions. -/
theorem rel_codeInput? {A : Session → Session → Prop} {s u : Session} {scene : Scene}
    (h : s.codeInput? scene = u.codeInput? scene)
    (hcued : ∀ c, Cue.part? c ≠ some .timers → A (s.cued [c]) (u.cued [c])) :
    Option.Rel (fun i j => A (s.cued [.showCodeInput i.1 i.2]) (u.cued [.showCodeInput j.1 j.2]))
      (s.codeInput? scene) (u.codeInput? scene) := by
  rw [h]
  cases u.codeInput? scene with
  | none => exact .none
  | some input => exact .some (hcued _ nofun)

end Session

/-! ## Related operations -/

namespace Play

variable {α β : Type} {A : Session → Session → Prop} {p p' q q' : Play α} {f g : α → Play β}

/-- From related sessions, two operations end with the same, and related. -/
def Related (A : Session → Session → Prop) (p q : Play α) : Prop :=
  ∀ s u, A s u → Option.Rel (fun o o' => o.1 = o'.1 ∧ A o.2 o'.2) (p.outcome s) (q.outcome u)

/-- From related sessions, an operation ends with the same, and related. -/
abbrev Oblivious (A : Session → Session → Prop) (p : Play α) : Prop := p.Related A p

/-- What the first operation answers, the second one answers as well. -/
theorem Related.answer (hp : p.Related A q) {s t u : Session} {r : Except Error α} (h : A s u)
    (hs : p.outcome s = some (r, t)) : ∃ v, q.outcome u = some (r, v) ∧ A t v := by
  have hends := hp s u h
  rw [hs] at hends
  generalize q.outcome u = o at hends
  obtain ⟨rfl, hrelated⟩ | _ := hends
  exact ⟨_, rfl, hrelated⟩

theorem Related.pure (a : α) : (Pure.pure a : Play α).Oblivious A :=
  fun _ _ h => .some ⟨rfl, h⟩

theorem Related.throw (e : Error) : (MonadExcept.throw e : Play α).Oblivious A :=
  fun _ _ h => .some ⟨rfl, h⟩

theorem Related.unanswered : (Play.unanswered : Play α).Oblivious A := fun _ _ _ => .none

theorem Related.ofExcept (r : Except Error α) : (Play.ofExcept r).Oblivious A :=
  fun _ _ h => .some ⟨rfl, h⟩

theorem Related.bind (hp : p.Related A q) (hf : ∀ a, (f a).Related A (g a)) :
    (p >>= f).Related A (q >>= g) := by
  intro s u h
  rw [outcome_bind, outcome_bind]
  have hends := hp s u h
  generalize p.outcome s = o at hends
  generalize q.outcome u = o' at hends
  cases hends with
  | none => exact .none
  | @some x x' hend =>
    obtain ⟨r, t⟩ := x
    obtain ⟨r', v⟩ := x'
    obtain ⟨rfl, hrelated⟩ := hend
    cases r with
    | error e => exact .some ⟨rfl, hrelated⟩
    | ok a => exact hf a t v hrelated

/-- What is done with a session may differ, as long as it is related. -/
theorem Related.get {f g : Session → Play β} (h : ∀ s u, A s u → (f s).Related A (g u)) :
    ((MonadState.get : Play Session) >>= f).Related A ((MonadState.get : Play Session) >>= g) :=
  fun s u hs => h s u hs s u hs

theorem Related.ite {c : Prop} [Decidable c] (hp : p.Related A p') (hq : q.Related A q') :
    (if c then p else q).Related A (if c then p' else q') := by
  by_cases hc : c
  · rw [if_pos hc, if_pos hc]
    exact hp
  · rw [if_neg hc, if_neg hc]
    exact hq

theorem Related.forM {f g : β → Play Unit} (hf : ∀ b, (f b).Related A (g b)) (l : List β) :
    (l.forM f).Related A (l.forM g) := by
  induction l with
  | nil => exact Related.pure ()
  | cons b l ih => exact (hf b).bind fun _ => ih

end Play

/-! ## Blind relations -/

/-- A change of the player looks neither at the id of the session nor at the answers or the open
message, and leaves them as they are. -/
def Player.Aside (f : Player → Player) : Prop :=
  ∀ p id answers pending,
    f { p with sessionId := id, answers, pending } = { f p with sessionId := id, answers, pending }

theorem Player.Aside.answers {f : Player → Player} (hf : Player.Aside f) (p : Player) :
    (f p).answers = p.answers := by
  rw [show f p = { f p with
      sessionId := p.sessionId, answers := p.answers, pending := p.pending } from
    hf p p.sessionId p.answers p.pending]

theorem Player.Aside.pending {f : Player → Player} (hf : Player.Aside f) (p : Player) :
    (f p).pending = p.pending := by
  rw [show f p = { f p with
      sessionId := p.sessionId, answers := p.answers, pending := p.pending } from
    hf p p.sessionId p.answers p.pending]

theorem Player.Aside.sessionId {f : Player → Player} (hf : Player.Aside f) (p : Player)
    (id : Uuid) : f { p with sessionId := id } = { f p with sessionId := id } := by
  rw [show f { p with sessionId := id } = _ from hf p id p.answers p.pending, ← hf.answers p,
    ← hf.pending p]

theorem Player.Aside.withAnswers {f : Player → Player} (hf : Player.Aside f) (p : Player)
    (answers : Table String) : f { p with answers } = { f p with answers } := by
  have hsession := congrArg Player.sessionId (hf p p.sessionId p.answers p.pending)
  rw [show f { p with answers } = _ from hf p p.sessionId answers p.pending, ← hf.pending p]
  exact congrArg (fun id => { f p with sessionId := id, answers }) hsession.symm

theorem Player.Aside.withPending {f : Player → Player} (hf : Player.Aside f) (p : Player)
    (pending : Option (List Script)) : f { p with pending } = { f p with pending } := by
  have hsession := congrArg Player.sessionId (hf p p.sessionId p.answers p.pending)
  rw [show f { p with pending } = _ from hf p p.sessionId p.answers pending, ← hf.answers p]
  exact congrArg (fun id => { f p with sessionId := id, pending }) hsession.symm

/-- **Blind relations**: sessions that are related have one view, so that operations cannot tell
them apart, and they stay related if the same is done to both. -/
structure Blind (A : Session → Session → Prop) : Prop where
  view : ∀ {s u}, A s u → s.view = u.view
  cued : ∀ {s u c}, A s u → Cue.part? c ≠ some .timers → A (s.cued [c]) (u.cued [c])
  noted : ∀ {s u} n, A s u → A (s.noted n) (u.noted n)
  changed : ∀ {s u} (f : Player → Player), A s u → Player.Aside f →
    A (s.withPlayer (f s.player)) (u.withPlayer (f u.player))
  opened : ∀ {s u} (scripts : Option (List Script)), A s u →
    A (s.withPlayer { s.player with pending := scripts })
      (u.withPlayer { u.player with pending := scripts })
  recorded : ∀ {s u} puzzle code, A s u →
    A (s.withPlayer (s.player.recordAnswer puzzle code))
      (u.withPlayer (u.player.recordAnswer puzzle code))
  /-- What the code input of a scene shows may differ, as it may be an answer. -/
  shown : ∀ {s u} scene, A s u →
    Option.Rel (fun i j => A (s.cued [.showCodeInput i.1 i.2]) (u.cued [.showCodeInput j.1 j.2]))
      (s.codeInput? scene) (u.codeInput? scene)
  learned : ∀ {s u} (f : Catalog → Catalog), A s u →
    A (s.withCatalog (f s.catalog)) (u.withCatalog (f u.catalog))
  noticed : ∀ {s u} isOpen, A s u → A (s.withNotice isOpen) (u.withNotice isOpen)
  batched : ∀ {s u} stage, A s u → A (s.batched stage) (u.batched stage)
  scheduled : ∀ {s u} duration script, A s u →
    A (s.scheduled duration script) (u.scheduled duration script)

namespace Blind

open Play

variable {α : Type} {A : Session → Session → Prop} {s u : Session} (k : Blind A)
include k

/-- A query that looks at the view only has one answer in both. -/
theorem read (h : A s u) (query : Session → α) (hquery : ∀ s : Session, query s.view = query s) :
    query s = query u := by
  rw [← hquery s, k.view h, hquery u]

theorem catalog_eq (h : A s u) : s.catalog = u.catalog := congrArg (·.catalog) (k.view h)

theorem currentScene_eq (h : A s u) : s.player.currentScene = u.player.currentScene :=
  congrArg (·.player.currentScene) (k.view h)

theorem cue {c : Cue} (hc : decide (c.part? = some .timers) = false) : (Play.cue c).Oblivious A :=
  fun _ _ h => .some ⟨rfl, k.cued h (of_decide_eq_false hc)⟩

theorem note (n : Note) : (Play.note n).Oblivious A := fun _ _ h => .some ⟨rfl, k.noted n h⟩

theorem ask {query : Session → Except Error α} (hquery : ∀ s : Session, query s.view = query s) :
    (Play.ask query).Oblivious A :=
  fun _ _ h => .some ⟨k.read h query hquery, h⟩

theorem player (f : Player → Player) (hf : Player.Aside f) : (Play.player f).Oblivious A :=
  fun _ _ h => .some ⟨rfl, k.changed f h hf⟩

theorem message (scripts : Option (List Script)) :
    Play.Oblivious A (Play.player fun p => { p with pending := scripts }) :=
  fun _ _ h => .some ⟨rfl, k.opened scripts h⟩

theorem catalog (f : Catalog → Catalog) : (Play.catalog f).Oblivious A :=
  fun _ _ h => .some ⟨rfl, k.learned f h⟩

theorem notice (isOpen : Bool) :
    Play.Oblivious A (modify fun s => { s with noticeOpen := isOpen }) :=
  fun _ _ h => .some ⟨rfl, k.noticed isOpen h⟩

/-! ## Scenes -/

theorem display (e : String × Bool) : (Play.display e).Oblivious A := by
  obtain ⟨id, shown⟩ := e
  cases shown with
  | true => exact k.cue rfl
  | false => exact k.cue rfl

theorem refreshObjects : Play.refreshObjects.Oblivious A := by
  apply (k.ask fun _ => rfl).bind
  intro scene
  apply (k.ask fun s => s.view_visibility _).bind
  intro plan
  exact .forM k.display plan

theorem refreshCodeInput : Play.refreshCodeInput.Oblivious A := by
  apply Related.get
  intro s u h
  rw [k.currentScene_eq h]
  apply Related.ite (Related.pure ())
  apply (k.ask fun _ => rfl).bind
  intro scene s u h
  -- The two inputs may show different texts.
  have hshown := k.shown scene h
  simp only [outcome_bind, outcome_get, andThen_ok]
  generalize s.codeInput? scene = i at hshown
  generalize u.codeInput? scene = j at hshown
  cases hshown with
  | none => exact .some ⟨rfl, h⟩
  | some hcued => exact .some ⟨rfl, hcued⟩

theorem hideScene (keepArrows : Bool) : (Play.hideScene keepArrows).Oblivious A := by
  apply Related.get
  intro s u h
  rw [k.currentScene_eq h]
  apply Related.ite (Related.pure ())
  apply (k.ask fun _ => rfl).bind
  intro scene
  apply Related.get
  intro s u h
  rw [k.read h (fun s => s.hideable keepArrows scene) fun _ => rfl]
  apply (Related.forM (fun id => k.cue rfl) _).bind
  intro _
  exact .ite (k.cue rfl) (Related.pure ())

theorem leaveScene : Play.leaveScene.Oblivious A := by
  apply (k.hideScene false).bind
  intro _
  apply Related.get
  intro s u h
  rw [k.currentScene_eq h]
  cases u.player.currentScene with
  | none => exact .pure ()
  | some id =>
    apply (k.player (fun p => { p with currentScene := none }) fun _ _ _ _ => rfl).bind
    intro _
    apply Related.get
    intro s u h
    rw [k.catalog_eq h]
    exact .ite (k.cue rfl) (Related.pure ())

theorem leaveAny : Play.leaveAny.Oblivious A := by
  apply Related.get
  intro s u h
  rw [k.currentScene_eq h]
  exact .ite k.leaveScene (Related.pure ())

theorem markVisited (id : String) :
    Play.Oblivious A (do
      let visited := (← get).player.hasVisited id
      Play.player (·.markVisited id)
      return visited) := by
  apply Related.get
  intro s u h
  rw [k.read h (fun s => s.player.hasVisited id) fun _ => rfl]
  apply (k.player _ fun _ _ _ _ => rfl).bind
  intro _
  exact .pure _

theorem arrive (id : String) : (Play.arrive id).Oblivious A := by
  apply (k.player (fun p => { p with currentScene := some id }) fun _ _ _ _ => rfl).bind
  intro _
  apply Related.get
  intro s u h
  rw [k.catalog_eq h]
  -- The scene is marked with and without a background.
  apply Related.ite
  · apply (k.cue rfl).bind
    intro _
    exact k.markVisited id
  · exact k.markVisited id

theorem cover : Play.cover.Oblivious A := by
  apply Related.get
  intro s u h
  rw [k.read h (fun s => s.player.isBlocked) fun s => s.player.isBlocked_masked]
  apply Related.ite (k.hideScene false)
  apply Related.get
  intro s u h
  rw [k.read h (fun s => s.noticeOpen) fun _ => rfl]
  exact .ite (k.hideScene true) (Related.pure ())

theorem requireObject (id : String) : (Play.requireObject id).Oblivious A :=
  (k.ask fun _ => rfl).bind fun _ => .pure ()

section Run

variable {run : Script → Play Unit} (hrun : ∀ script, (run script).Oblivious A)
include hrun

theorem enterScene (id : String) : (Play.enterScene run id).Oblivious A := by
  apply (k.arrive id).bind
  intro visited
  apply k.refreshObjects.bind
  intro _
  apply k.refreshCodeInput.bind
  intro _
  apply k.cover.bind
  intro _
  apply (k.note _).bind
  intro _
  apply (k.ask fun _ => rfl).bind
  intro scene
  exact (hrun _).bind fun _ => hrun scene.entryActions

theorem goToScene (id : String) : (Play.goToScene run id).Oblivious A := by
  apply (k.ask fun _ => rfl).bind
  intro scene
  apply (Related.forM (fun object => k.requireObject object) _).bind
  intro _
  apply k.leaveAny.bind
  intro _
  exact k.enterScene hrun scene.id

end Run

/-! ## Loads -/

theorem addHotspot (area : Hotspot) : (Play.addHotspot area).Oblivious A := by
  apply Related.get
  intro s u h
  rw [k.catalog_eq h]
  apply (k.catalog _).bind
  intro _
  exact .ite (k.cue rfl) (Related.pure ())

theorem addBackground (scene : Scene) : (Play.addBackground scene).Oblivious A := by
  unfold Play.addBackground
  cases scene.background with
  | none => exact .pure ()
  | some file =>
    apply Related.get
    intro s u h
    rw [k.catalog_eq h]
    exact (k.cue rfl).bind fun _ => k.catalog _

theorem addScene (scene : Scene) : (Play.addScene scene).Oblivious A := by
  apply (Related.forM k.addHotspot scene.hotspots).bind
  intro _
  apply (k.addBackground scene).bind
  intro _
  apply (Related.forM (fun e => k.catalog _) _).bind
  intro _
  exact k.catalog _

theorem materialize (stage : Stage) : (Play.materialize stage).Oblivious A := by
  apply (k.ask fun s => s.view_resolve [] stage.scenes).bind
  intro scenes
  apply (Related.forM k.addScene scenes).bind
  intro _
  exact .forM (fun e => k.catalog _) _

theorem endLoading : Play.endLoading.Oblivious A := by
  apply Related.get
  intro s u h
  rw [k.read h (fun s => s.pendingLoads.isEmpty) fun _ => List.isEmpty_map]
  exact .ite (k.cue rfl) (Related.pure ())

theorem requestImage (scene : Scene) : (Play.requestImage scene).Oblivious A := by
  unfold Play.requestImage
  cases scene.background with
  | none => exact .pure ()
  | some file =>
    apply Related.get
    intro s u h
    rw [k.catalog_eq h]
    exact k.cue rfl

theorem requestTrack (e : String × List String) : (Play.requestTrack e).Oblivious A := by
  apply Related.get
  intro s u h
  rw [k.catalog_eq h]
  exact .ite (k.cue rfl) (Related.pure ())

theorem requestAssets (stage : Stage) : (Play.requestAssets stage).Oblivious A := by
  apply (Related.forM k.requestImage stage.scenes).bind
  intro _
  exact .forM k.requestTrack _

theorem startBatch (stage : String) : (Play.startBatch stage).Oblivious A :=
  fun _ _ h => .some ⟨rfl, k.batched stage h⟩

section Run

variable {run : Script → Play Unit} (hrun : ∀ script, (run script).Oblivious A)
include hrun

theorem openStage (stage : Stage) : (Play.openStage run stage).Oblivious A := by
  apply (hrun stage.loadActions).bind
  intro _
  apply Related.get
  intro s u h
  rw [k.currentScene_eq h]
  apply Related.ite
  · cases stage.scenes with
    | nil => exact .pure ()
    | cons scene rest => exact k.goToScene hrun scene.id
  · exact .pure ()

theorem finishLoad (stage : Stage) : (Play.finishLoad run stage).Oblivious A := by
  apply (k.materialize stage).bind
  intro _
  apply k.endLoading.bind
  intro _
  apply (k.note _).bind
  intro _
  exact k.openStage hrun stage

theorem loadStage (id : String) : (Play.loadStage run id).Oblivious A := by
  apply (k.ask fun _ => rfl).bind
  intro stage
  apply (k.player (·.markLoaded stage.id) fun _ _ _ _ => rfl).bind
  intro _
  apply (k.note _).bind
  intro _
  apply (k.cue rfl).bind
  intro _
  apply Related.ite
  · apply (k.requestAssets stage).bind
    intro _
    exact k.startBatch stage.id
  · exact k.finishLoad hrun stage

/-! ## Codes -/

/-- Two codes are accepted alike if it makes no difference which of them is recorded. -/
theorem acceptCodes {puzzle code code' : String}
    (hrecord : ∀ {s u}, A s u → A (s.withPlayer (s.player.recordAnswer puzzle code))
      (u.withPlayer (u.player.recordAnswer puzzle code'))) (stage : String) :
    (Play.acceptCode run puzzle code stage).Related A (Play.acceptCode run puzzle code' stage) := by
  apply Related.get
  intro s u h
  rw [k.read h (fun s => s.player.hasLoaded stage) fun _ => rfl]
  apply Related.ite
  · apply Related.get
    intro s u h
    rw [k.catalog_eq h]
    exact hrun _
  · have hanswer : (Play.player (·.recordAnswer puzzle code)).Related A
        (Play.player (·.recordAnswer puzzle code')) :=
      fun _ _ h => .some ⟨rfl, hrecord h⟩
    apply hanswer.bind
    intro _
    apply k.refreshCodeInput.bind
    intro _
    exact k.loadStage hrun stage

theorem rejectCode : (Play.rejectCode run).Oblivious A := by
  apply (k.cue rfl).bind
  intro _
  apply (k.ask fun _ => rfl).bind
  intro script
  exact hrun script

/-- Two codes that lead to the same stages are submitted alike, if it makes no difference which of
them is recorded. -/
theorem submitCodes {puzzle : Option String} {code code' : String}
    (hlower : Text.lower (Text.trim code) = Text.lower (Text.trim code')) {s u : Session}
    (h : A s u) (hrecord : ∀ p, s.puzzleFor puzzle = .ok p → ∀ {s u}, A s u →
      A (s.withPlayer (s.player.recordAnswer p (Text.trim code)))
        (u.withPlayer (u.player.recordAnswer p (Text.trim code')))) :
    Option.Rel (fun o o' => o.1 = o'.1 ∧ A o.2 o'.2) ((Play.submitCode run puzzle code).outcome s)
      ((Play.submitCode run puzzle code').outcome u) := by
  unfold Play.submitCode
  rw [outcome_bind, outcome_bind, outcome_ask, outcome_ask]
  rw [← k.read h (fun s => s.puzzleFor puzzle) fun _ => rfl]
  cases hp : s.puzzleFor puzzle with
  | error e => exact .some ⟨rfl, h⟩
  | ok p =>
    rw [andThen_ok, andThen_ok]
    refine Related.bind (k.ask fun _ => rfl) (fun declared => ?_) s u h
    rw [declared.targets_congr hlower]
    apply (Related.ofExcept _).bind
    intro targets
    apply Related.ite
    · exact k.rejectCode hrun
    · exact .forM (k.acceptCodes hrun (hrecord p hp)) targets

theorem submitCode (puzzle : Option String) (code : String) :
    (Play.submitCode run puzzle code).Oblivious A :=
  fun _ _ h => k.submitCodes hrun rfl h fun p _ => k.recorded p _

end Run

/-! ## Actions -/

theorem showNotice (text : String) : (Play.showNotice text).Oblivious A := by
  apply (k.message none).bind
  intro _
  apply (k.cue rfl).bind
  intro _
  apply (k.hideScene true).bind
  intro _
  exact k.notice true

theorem showBlocking (text : String) (buttons : List String) (scripts : List Script) :
    (Play.showBlocking text buttons scripts).Oblivious A := by
  apply (k.message none).bind
  intro _
  apply (k.notice false).bind
  intro _
  apply (k.cue rfl).bind
  intro _
  apply (k.hideScene false).bind
  intro _
  exact k.message (some scripts)

theorem increment (name : String) (value : Value) :
    (Play.increment name value).Oblivious A := by
  intro s u h
  rw [outcome_increment, outcome_increment]
  rw [k.read h (fun s => s.sum? name value) fun _ => rfl]
  cases u.sum? name value with
  | error e => exact .some ⟨rfl, h⟩
  | ok sum => exact k.player (·.setVariable name sum) (fun _ _ _ _ => rfl) s u h

theorem setMusic (audio : Option String) : (Play.setMusic audio).Oblivious A := by
  apply Related.get
  intro s u h
  rw [k.read h (fun s => s.player.music) fun _ => rfl]
  apply Related.ite (Related.pure ())
  have hstop : Play.Oblivious A (Play.player fun p => { p with music := none }) :=
    k.player _ fun _ _ _ _ => rfl
  cases audio with
  | none =>
    cases u.player.music with
    | none => exact .pure ()
    | some old =>
      apply hstop.bind
      intro _
      exact (k.cue rfl).bind fun _ => .pure ()
  | some key =>
    have hplay : Play.Oblivious A (do
        Play.cue (.play key true)
        Play.player fun p => { p with music := some key }) :=
      (k.cue rfl).bind fun _ => k.player _ fun _ _ _ _ => rfl
    apply (k.ask fun _ => rfl).bind
    intro _
    cases u.player.music with
    | none => exact hplay
    | some old =>
      apply hstop.bind
      intro _
      exact (k.cue rfl).bind fun _ => hplay

theorem schedule (delay : Double) (script : Script) :
    (Play.schedule delay script).Oblivious A := by
  intro s u h
  rw [outcome_schedule, outcome_schedule]
  cases Duration.ofMilliseconds? delay with
  | none => exact .some ⟨rfl, h⟩
  | some duration => exact .some ⟨rfl, k.scheduled duration script h⟩

section Run

variable {run : Script → Play Unit} (hrun : ∀ script, (run script).Oblivious A)
include hrun

theorem perform (a : Action) : (Play.perform run a).Oblivious A := by
  unfold Play.perform
  cases a.effect with
  | goToScene scene => exact k.goToScene hrun scene
  | enterCode puzzle code => exact k.submitCode hrun puzzle code
  | showText text => exact k.showNotice text
  | blockingText text button next =>
    apply Related.get
    intro s u h
    rw [k.catalog_eq h]
    exact k.showBlocking text _ [next]
  | alternative text scripts buttons =>
    have hshow := k.showBlocking text buttons scripts
    exact .ite ((Related.throw _).bind fun _ => hshow) hshow
  | setVariable name value => exact k.player (·.setVariable name value) fun _ _ _ _ => rfl
  | incrementVariable name value => exact k.increment name value
  | fadeTween tween => exact (k.cue rfl).bind fun _ => k.cue rfl
  | setMusic audio => exact k.setMusic audio
  | musicTween tween =>
    apply Related.get
    intro s u h
    rw [k.read h (fun s => s.player.music) fun _ => rfl]
    cases u.player.music with
    | none => exact .pure ()
    | some key => exact k.cue rfl
  | playAudio key | stopAudio key =>
    exact (k.ask fun _ => rfl).bind fun _ => k.cue rfl
  | group next => exact hrun next
  | runProcedure name => exact (k.ask fun _ => rfl).bind hrun
  | delayed delay next => exact k.schedule delay next
  | hideInteractive => exact k.hideScene false
  | redirect url => exact k.cue rfl
  | unrecognized => exact .throw _

theorem step (a : Action) : (Play.step run a).Oblivious A := by
  apply (k.ask fun s => a.passes_masked s.player).bind
  intro passes
  exact .ite (k.perform hrun a) (Related.pure ())

end Run

/-- **Scripts** do the same in related sessions. -/
theorem execute (depth : Nat) (script : Script) :
    (Play.execute depth script).Oblivious A := by
  induction depth generalizing script with
  | zero => exact .unanswered
  | succ depth ih => exact .forM (k.step ih) script

/-! ## Events -/

theorem restoreInteractivity : Play.restoreInteractivity.Oblivious A := by
  apply Related.get
  intro s u h
  rw [k.currentScene_eq h]
  apply Related.ite (Related.pure ())
  apply k.refreshObjects.bind
  intro _
  exact k.refreshCodeInput

theorem closeNotice : Play.closeNotice.Oblivious A := by
  apply (k.notice false).bind
  intro _
  apply (k.cue rfl).bind
  intro _
  exact k.restoreInteractivity

theorem dismiss : Play.dismiss.Oblivious A := by
  apply Related.get
  intro s u h
  rw [k.read h (fun s => s.noticeOpen) fun _ => rfl]
  exact .ite k.closeNotice (Related.pure ())

theorem react (depth : Nat) (object : String) : (Play.react depth object).Oblivious A := by
  apply (k.ask fun _ => rfl).bind
  intro scene
  cases scene.interactive.get? object with
  | some script => exact k.execute depth script
  | none => exact k.requireObject object

theorem clickObject (depth : Nat) (object : String) :
    (Play.clickObject depth object).Oblivious A := by
  apply Related.get
  intro s u h
  rw [k.read h (fun s => s.player.isBlocked) fun s => s.player.isBlocked_masked]
  apply Related.ite (Related.pure ())
  apply k.dismiss.bind
  intro _
  exact k.react depth object

theorem requestHint (puzzle : String) (index : Nat) :
    (Play.requestHint puzzle index).Oblivious A := by
  apply (k.ask fun _ => rfl).bind
  intro declared
  cases declared.hints[index]? with
  | none => exact .throw _
  | some hint => exact (k.showNotice hint).bind fun _ => .pure _

theorem clickButton (hpending : ∀ {s u}, A s u → s.player.pending = u.player.pending)
    (depth index : Nat) : (Play.clickButton (Play.execute depth) index).Oblivious A := by
  apply Related.get
  intro s u h
  rw [hpending h]
  cases u.player.pending with
  | none => exact .throw _
  | some scripts =>
    dsimp only
    cases scripts[index]? with
    | none => exact .throw _
    | some script =>
      apply (k.message none).bind
      intro _
      apply (k.cue rfl).bind
      intro _
      apply k.restoreInteractivity.bind
      intro _
      exact k.execute depth script

/-- **Events** do the same in related sessions with the same open message, if those of batches and
timers do. -/
theorem handle (hpending : ∀ {s u}, A s u → s.player.pending = u.player.pending) (depth : Nat)
    (event : Event Ticket)
    (hassets : ∀ batch, event = .assetsReady batch →
      (Play.assetsReady (Play.execute depth) batch).Oblivious A)
    (htimer : ∀ timer, event = .timerFired timer → (Play.timerFired depth timer).Oblivious A) :
    (Play.handle depth event).Oblivious A := by
  cases event with
  | objectClicked object => exact k.clickObject depth object
  | codeSubmitted code => exact k.submitCode (k.execute depth) none code
  | hintRequested puzzle index => exact (k.requestHint puzzle index.toNat).bind fun _ => .pure ()
  | buttonClicked index => exact k.clickButton hpending depth index.toNat
  | messageDismissed => exact k.dismiss
  | assetsReady batch => exact hassets batch rfl
  | timerFired timer => exact htimer timer rfl

end Blind

/-- A blind relation of sessions that also agree in the batches that are waited for, and in the
scripts of the open message. -/
structure Attentive (A : Session → Session → Prop) : Prop extends Blind A where
  pending : ∀ {s u}, A s u → s.player.pending = u.player.pending
  loads : ∀ {s u}, A s u → s.pendingLoads = u.pendingLoads
  reported : ∀ {s u} batch, A s u → A (s.reported batch) (u.reported batch)

namespace Attentive

open Play

variable {A : Session → Session → Prop} (k : Attentive A) (depth : Nat)
include k

theorem assetsReady (batch : Ticket) :
    (Play.assetsReady (Play.execute depth) batch).Oblivious A := by
  intro s u h
  simp only [Play.assetsReady, outcome_bind, outcome_get, andThen_ok]
  rw [k.loads h]
  cases waiting? batch u.pendingLoads with
  | none => exact .some ⟨rfl, h⟩
  | some id =>
    have hload : Oblivious A (do
        let stage ← Play.ask fun s => s.stage id
        Play.finishLoad (Play.execute depth) stage) :=
      (k.ask fun _ => rfl).bind (k.finishLoad (k.execute depth))
    exact hload _ _ (k.reported batch h)

/-- **Events** do the same in related sessions, if those of timers do. -/
theorem handle (event : Event Ticket)
    (htimer : ∀ timer, event = .timerFired timer → (Play.timerFired depth timer).Oblivious A) :
    (Play.handle depth event).Oblivious A :=
  k.toBlind.handle k.pending depth event (fun batch _ => k.assetsReady depth batch) htimer

end Attentive

/-! ## Calls -/

/-- **Seamless relations**: nothing that the surroundings do can tell sessions that are related
apart, and they stay related whatever is done to both. -/
structure Seamless (A : Session → Session → Prop) : Prop extends Attentive A where
  timers : ∀ {s u}, A s u → s.pendingTimers = u.pendingTimers
  fired : ∀ {s u} timer, A s u → A (s.fired timer) (u.fired timer)
  queue : ∀ {s u}, A s u → s.queue = u.queue
  requeued : ∀ {s u} q, A s u → A (s.withQueue q) (u.withQueue q)
  batchesTaken : ∀ {s u}, A s u → A (s.withDisplay { s.display with batches := [] })
    (u.withDisplay { u.display with batches := [] })
  timersTaken : ∀ {s u}, A s u → A (s.withDisplay { s.display with timers := [] })
    (u.withDisplay { u.display with timers := [] })
  begun : ∀ {s u} id world, A s u → A (s.begun id world) (u.begun id world)

namespace Seamless

open Play

variable {A : Session → Session → Prop} (k : Seamless A) (depth : Nat)
include k

theorem timerFired (timer : Ticket) : (Play.timerFired depth timer).Oblivious A := by
  intro s u h
  rw [outcome_timerFired, outcome_timerFired, k.timers h]
  cases waiting? timer u.pendingTimers with
  | none => exact .some ⟨rfl, h⟩
  | some script => exact k.execute depth script _ _ (k.fired timer h)

theorem handle (event : Event Ticket) : (Play.handle depth event).Oblivious A :=
  k.toAttentive.handle depth event fun timer _ => k.timerFired depth timer

theorem pumpUpTo (count : Nat) : (Play.pumpUpTo depth count).Oblivious A := by
  induction count with
  | zero => exact .pure 0
  | succ count ih =>
    apply Related.get
    intro s u h
    rw [k.queue h]
    cases u.queue with
    | nil => exact .pure 0
    | cons event rest =>
      have hrest : Play.Oblivious A (modify fun s => s.withQueue rest) :=
        fun _ _ h => .some ⟨rfl, k.requeued rest h⟩
      apply hrest.bind
      intro _
      apply (k.handle depth event).bind
      intro _
      exact ih.bind fun n => .pure (n + 1)

theorem pump : (Play.pump depth).Oblivious A := by
  apply Related.get
  intro s u h
  rw [k.queue h]
  exact k.pumpUpTo depth _

/-- **Calls** do the same in related sessions. -/
theorem call (c : Call) : (c.play depth).Oblivious A := by
  cases c with
  | handle event => exact k.handle depth event
  | goToScene id => exact k.goToScene (k.execute depth) id
  | loadStage id => exact k.loadStage (k.execute depth) id
  | execute script => exact k.execute depth script
  | post event =>
    intro s u h
    have hposted : A (s.withQueue (s.queue ++ [event])) (u.withQueue (u.queue ++ [event])) := by
      rw [k.queue h]
      exact k.requeued _ h
    exact .some ⟨rfl, hposted⟩
  | pump => exact (k.pump depth).bind fun _ => .pure ()
  | takeBatches => exact fun s u h => .some ⟨rfl, k.batchesTaken h⟩
  | takeTimers => exact fun s u h => .some ⟨rfl, k.timersTaken h⟩

/-- **Starts** do the same in related sessions. -/
theorem start (id : Uuid) (world : World) : (Play.start depth id world).Oblivious A := by
  intro s u h
  rw [outcome_start, outcome_start]
  cases world.validate with
  | error defect => exact .some ⟨rfl, h⟩
  | ok =>
    cases world.firstStage with
    | error defect => exact .some ⟨rfl, h⟩
    | ok first => exact k.loadStage (k.execute depth) first.id _ _ (k.begun id world h)

end Seamless

end Adventure
