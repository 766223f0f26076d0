import Adventure.Proofs.Reachability

/-!
# The current scene

The current scene of a session is always one that is known, under its own id, and that was visited.
A scene is left only on the way to another one, so a session that is in a scene stays in one until
it is started again.

What hides and shows the current scene fails only if that scene is not known.  So it never fails:
not between two calls, and not while scripts run either, where the current scene was left and the
next one is not entered yet, where only some of the scenes of a stage are known, or where a script
has failed.

## Main definitions

* `Session.Passes`: the sessions that come up while a session is driven
* `Session.Firm`: what hides and shows the current scene does not fail

## Main results

* `Move.placed`, `Halt.placed`: every step leads from a scene to a scene
* `Session.Passes.firm`: what hides and shows the current scene does not fail
* `Reached.never_dangling`: the current scene in every session
-/

namespace Adventure

open Session

section

variable {P : Policy} {s t : Session} {e : Error} {stage : String}

/-! ## From scene to scene -/

theorem Asked.placed (h : Asked P s stage t) (hs : s.player.currentScene.isSome = true) :
    t.player.currentScene.isSome = true := by
  cases h with
  | direct | code => exact hs

/-- A step that leaves a scene enters another one. -/
theorem Move.placed (h : Move P s t) (hs : s.player.currentScene.isSome = true) :
    t.player.currentScene.isSome = true := by
  cases h with
  | enter => rfl
  | preload h | load h => exact h.placed hs
  | hide | notice | block | close | answer | assign | increment | fade | swell | play | stop
  | redirect | tune | schedule | fire | clear | complete | queue | reportBatches | reportTimers =>
    exact hs

/-- A step that fails does so in a scene, too. -/
theorem Halt.placed (h : Halt P s e t) (hs : s.player.currentScene.isSome = true) :
    t.player.currentScene.isSome = true := by
  cases h with
  | strand => rfl
  | unstaged h | unresolved h => exact h.placed hs
  | reject | close | answer | incomplete => exact hs

theorem keeps_placed : Keeps (.free fun _ _ => True) (fun s => s.player.currentScene.isSome = true)
    fun _ s => s.player.currentScene.isSome = true :=
  .free (fun _ hs hm => hm.placed hs) fun _ hs hh => hh.placed hs

end

namespace Session

variable {s t u : Session} {arrows : List String}

/-- **A session that is in a scene stays in one** until the next start. -/
theorem Later.placed (h : s.Later t) (hr : Reached arrows s)
    (hs : s.player.currentScene.isSome = true) : t.player.currentScene.isSome = true := by
  induction h with
  | refl => exact hs
  | call ht h ih => exact (keeps_placed.call_inv (ht.reached hr).grounded ih h).2

/-! ## What comes up on the way -/

/-- The sessions that come up while a session is driven: behind each step and each failure, and
within the steps that change the current scene or the scenes that are known. -/
inductive Passes (s : Session) : Session → Prop where
  | here : Passes s s
  /-- A world was accepted. -/
  | begin (id : Uuid) (world : World) : Passes s (s.begun id world)
  | move {t u : Session} (ht : Passes s t) (h : Move (.free fun _ _ => True) t u) : Passes s u
  | halt {t u : Session} {e : Error} (ht : Passes s t)
      (h : Halt (.free fun _ _ => True) t e u) : Passes s u
  /-- The current scene was left. -/
  | leave {t : Session} (ht : Passes s t) : Passes s t.left
  /-- Another scene was entered, of which nothing but the background is shown yet. -/
  | arrive {t : Session} {id : String} (ht : Passes s t)
      (h : t.catalog.scenes.contains id = true) : Passes s (t.arrived id)
  /-- One of the scenes of a stage became known. -/
  | learn {t : Session} (ht : Passes s t) (scene : Scene) :
      Passes s (t.withCatalog (t.catalog.learn scene))
  /-- Something else was changed, such as the display, a message or a variable. -/
  | aside {t u : Session} (ht : Passes s t) (hscenes : u.catalog.scenes = t.catalog.scenes)
      (hcurrent : u.player.currentScene = t.player.currentScene)
      (hvisited : u.player.visitedScenes = t.player.visitedScenes) : Passes s u

/-- Hiding the current scene, showing its code input and opening a message do not fail. -/
structure Firm (s : Session) : Prop where
  hideInteractive : ∃ t, Play.hideInteractive.outcome s = some (.ok (), t)
  hideHotspots : ∃ t, Play.hideHotspots.outcome s = some (.ok (), t)
  refreshCodeInput : ∃ t, Play.refreshCodeInput.outcome s = some (.ok (), t)
  showNotice : ∀ text, ∃ t, (Play.showNotice text).outcome s = some (.ok (), t)
  showBlocking : ∀ text buttons scripts,
    ∃ t, (Play.showBlocking text buttons scripts).outcome s = some (.ok (), t)

theorem Grounded.learn (hs : s.Grounded) (scene : Scene) :
    (s.withCatalog (s.catalog.learn scene)).Grounded where
  keyed h := by
    -- The new scene stands under its own id, even where it takes the place of another one.
    simp only [withCatalog, Catalog.scenes_learn, Table.get?_insert] at h
    split at h
    · next heq =>
      cases h
      exact heq.symm
    · exact hs.keyed h
  known h := (Catalog.within_learn s.catalog scene).scenes (hs.known h)
  visited h := hs.visited h

theorem Grounded.firm (hs : s.Grounded) : s.Firm where
  hideInteractive := ⟨_, Play.outcome_hideInteractive hs⟩
  hideHotspots := ⟨_, Play.outcome_hideHotspots hs⟩
  refreshCodeInput := ⟨_, Play.outcome_refreshCodeInput hs⟩
  showNotice text := ⟨_, Play.outcome_showNotice hs text⟩
  showBlocking text buttons scripts := ⟨_, Play.outcome_showBlocking hs text buttons scripts⟩

theorem Passes.grounded (h : s.Passes t) (hs : s.Grounded) : t.Grounded := by
  induction h with
  | here => exact hs
  | begin id world => exact grounded_begun s id world
  | move ht h ih => exact h.grounded ih
  | halt ht h ih => exact h.grounded ih
  | leave ht ih => exact ih.left
  | arrive ht h ih => exact ih.arrived h
  | learn ht scene ih => exact ih.learn scene
  | aside ht hscenes hcurrent hvisited ih => exact ih.congr hscenes hcurrent hvisited

/-- **What hides and shows the current scene does not fail**, wherever it is tried. -/
theorem Passes.firm (h : s.Passes t) (hs : s.Grounded) : t.Firm := (h.grounded hs).firm

theorem keeps_passes (s : Session) : Keeps (.free fun _ _ => True) s.Passes fun _ => s.Passes :=
  .free (fun _ ht hm => ht.move hm) fun _ ht hh => ht.halt hh

end Session

/-! ## Sessions -/

section

variable {arrows : List String} {s : Session}

/-- **The current scene is never dangling.**  In every session, the current scene is known, under
its own id, and was visited; and a session that is in a scene stays in one, whatever is called and
however it ends, until it is started again.  So what hides and shows the current scene, and what
opens a message, does not fail in any session that comes up while the session is driven; and these
are all the sessions that a start or a call, or a script, a transition or a load within one, can end
in. -/
theorem Reached.never_dangling (hs : Reached arrows s) :
    (∀ id, s.player.currentScene = some id →
      (∃ scene, s.catalog.scenes.get? id = some scene ∧ scene.id = id) ∧
        s.player.hasVisited id = true) ∧
    (∀ t, s.Later t → s.player.currentScene.isSome = true →
      t.player.currentScene.isSome = true) ∧
    (∀ t, s.Passes t → t.Firm) ∧
    (∀ (id : Uuid) (world : World) (depth : Nat) (r : Except Error Unit) (t : Session),
      (Play.start depth id world).outcome s = some (r, t) → s.Passes t) ∧
    ∀ t, s.Passes t → ∀ (c : Call) (depth : Nat) (r : Except Error Unit) (u : Session),
      (c.play depth).outcome t = some (r, u) → s.Passes u := by
  have hground := hs.grounded
  refine ⟨?_, ?_, ?_, ?_, ?_⟩
  · intro id hid
    obtain ⟨scene, hscene⟩ := Table.contains_iff.1 (hground.known hid)
    exact ⟨⟨scene, hscene, hground.keyed hscene⟩, hground.visited hid⟩
  · intro t ht hsome
    exact ht.placed hs hsome
  · intro t ht
    exact ht.firm hground
  · intro id world depth r t h
    exact ((keeps_passes s).start_inv hground .here (.begin id world) h).2
  · intro t ht c depth r u h
    exact ((keeps_passes s).call_inv (ht.grounded hground) ht h).2

/-- The road before the gate is the current scene, also on the way to it from itself. -/
theorem never_dangling_gate :
    ∃ s, Reached ["left"] s ∧ s.player.currentScene = some "road" ∧
      s.player.hasVisited "road" = true ∧ (s.left.arrived "road").Firm := by
  have hs := @Reached.start ["left"] _ _ 3 (.ofNat 1) .gate _ (.fresh (.ofNat 0)) rfl
  obtain ⟨hcurrent, -, hfirm, -, -⟩ := hs.never_dangling
  exact ⟨_, hs, rfl, (hcurrent "road" rfl).2, hfirm _ (.arrive (.leave .here) rfl)⟩

end

end Adventure
