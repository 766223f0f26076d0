import Adventure.Proofs.MessageBox
import Adventure.Proofs.Provenance

/-!
# Messages that can be answered

An alternative is valid if it has as many scripts as buttons, and so it is with none of either.
Such an alternative opens a message that blocks and has no button: it cannot be dismissed, since it
is no notice, and it cannot be answered.  No other action does that.  So where no alternative of a
world and of its surroundings is empty, every message that blocks can be answered, and every message
without buttons can be dismissed.

## Main definitions

* `Effect.isMute`: an alternative without scripts
* `Action.Answerable`, `World.Answerable`: no alternative within an action, or a world, is empty
* `World.maze`: a valid world with an empty alternative

## Main results

* `hereditary_answerable`: what is answerable is answerable within
* `Played.answerable`: every message can be answered or dismissed, unless an alternative is empty
-/

namespace Adventure

open Session

/-- Whether an effect opens a message that blocks and has no button. -/
def Effect.isMute : Effect → Bool
  | .alternative _ scripts _ => scripts.isEmpty
  | _ => false

/-- Neither an action nor any action within it opens a message without an answer. -/
structure Action.Answerable (a : Action) : Prop where
  asks : a.effect.isMute = false
  within : ∀ b ∈ a.effect.actions, b.effect.isMute = false

/-- No action of a world opens a message without an answer. -/
def World.Answerable (w : World) : Prop :=
  ∀ script ∈ w.scripts, ∀ a ∈ Script.actions script, a.effect.isMute = false

instance (w : World) : Decidable w.Answerable :=
  inferInstanceAs (Decidable (∀ script ∈ w.scripts, ∀ a ∈ Script.actions script, _ = false))

/-- The actions of a script are answerable if no action within it is mute. -/
theorem Action.answerable_of_actions {script : Script}
    (h : ∀ a ∈ Script.actions script, a.effect.isMute = false) : ∀ a ∈ script, a.Answerable :=
  fun _ ha => ⟨h _ (Script.mem_actions_of_mem ha (.inl rfl)),
    fun _ hb => h _ (Script.mem_actions_of_mem ha (.inr hb))⟩

theorem hereditary_answerable : Hereditary Action.Answerable where
  inner ha hs := Action.answerable_of_actions fun b hb =>
    ha.within b (Effect.mem_actions_of_mem_inner hs hb)
  enter _ := ⟨rfl, nofun⟩

/-- A message without an answer is one of an empty alternative. -/
theorem Effect.isMute_of_choices {effect : Effect} (h : effect.choices? = some []) :
    effect.isMute = true := by
  cases effect with
  | alternative text scripts buttons =>
    cases h
    rfl
  | blockingText => cases h
  | _ => cases h

section

variable {s : Session} {w : World} {arrows : List String}

/-- A message that blocks was opened with a script at least. -/
theorem Session.Bred.pending_ne_nil (h : s.Bred Action.Answerable w) {scripts : List Script}
    (hp : s.player.pending = some scripts) : scripts ≠ [] := by
  rintro rfl
  obtain ⟨a, ha, hchoices⟩ := h.choices hp
  cases (Effect.isMute_of_choices hchoices).symm.trans ha.asks

/-- A message without buttons is a notice, or it has no answer. -/
theorem Session.OneMessage.noticeOpen_of_shown (h : s.OneMessage) {text : String}
    (hm : s.display.message = some (text, [])) (hp : s.player.pending ≠ some []) :
    s.noticeOpen = true := by
  have hopen := h.shown.1 (by rw [hm]; rfl)
  rcases hopen with hn | hblocks
  · exact hn
  · obtain ⟨scripts, hscripts⟩ := Option.isSome_iff_exists.1 hblocks
    have hlength : [].length = scripts.length := h.blocking hscripts hm
    obtain rfl : scripts = [] := List.eq_nil_of_length_eq_zero hlength.symm
    exact absurd hscripts hp

/-- A message blocks, nothing that can be clicked closes it, and it has no button. -/
structure Session.Stuck (s : Session) : Prop where
  pending : s.player.pending = some []
  objects : ∀ depth object,
    (Play.handle depth (.objectClicked object)).outcome s = some (.ok (), s)
  dismissed : ∀ depth, (Play.handle depth .messageDismissed).outcome s = some (.ok (), s)
  buttons : ∀ depth index, ∃ what,
    (Play.handle depth (.buttonClicked index)).outcome s = some (.error (.notFound .button what), s)

theorem Session.OneMessage.stuck (h : s.OneMessage) (hp : s.player.pending = some []) :
    s.Stuck where
  pending := hp
  objects := Play.outcome_clickObject_of_pending hp
  dismissed _ := h.outcome_dismiss hp
  buttons depth _ := ⟨_, Play.outcome_clickButton_of_le hp (Play.execute depth) (Nat.zero_le _)⟩

/-- **An empty alternative** is valid, and opens a message that nothing closes. -/
theorem Session.Grounded.stuck_of_mute (hs : s.Grounded) {a : Action} {text : String}
    (ha : a.effect = .alternative text [] []) (run : Script → Play Unit) :
    a.validate = .ok () ∧ ∃ t, (Play.perform run a).outcome s = some (.ok (), t) ∧
      t.display.message = some (text, []) ∧ t.Stuck := by
  have hone : (s.blocked text [] []).OneMessage := oneMessage_blocked s text rfl
  refine ⟨?_, s.blocked text [] [], ?_, ?_, hone.stuck rfl⟩
  · unfold Action.validate
    rw [ha]
    rfl
  · rw [← Play.outcome_showBlocking hs text [] []]
    simp [Play.perform, ha]
  · exact (cues_cued (s := s.cued [.showMessage text []]) (about_hidingCues s false)).message
      (by simp)

/-- A click anywhere closes a notice before the scene is shown again. -/
theorem Play.outcome_dismiss_of_notice (h : s.noticeOpen = true) :
    dismiss.outcome s = restoreInteractivity.outcome s.noticeClosed := by
  rw [outcome_dismiss, if_pos h]
  simp only [closeNotice, outcome_bind, outcome_modify, andThen_ok, outcome_cue]
  rfl

/-! ## Sessions -/

/-- **Every message can be answered or dismissed** where no alternative of the world and of its
surroundings is empty: a message that blocks has a button, and each of its buttons closes it; and a
message without buttons is a notice, which a click closes.  But an empty alternative is valid, and
nothing closes its message. -/
theorem Played.answerable (hw : w.Answerable)
    (h : Played (fun s c => c.Permitted (.only Action.Answerable) s) arrows w s) :
    (∀ scripts, s.player.pending = some scripts →
      scripts ≠ [] ∧ s.answered.player.pending = none ∧ s.answered.display.message = none ∧
        ∀ run index (hi : index < scripts.length),
          (Play.clickButton run index).outcome s =
            (do
              Play.restoreInteractivity
              run scripts[index]).outcome s.answered) ∧
    (∀ text, s.display.message = some (text, []) →
      s.noticeOpen = true ∧ s.noticeClosed.noticeOpen = false ∧
        s.noticeClosed.display.message = none ∧
          Play.dismiss.outcome s = Play.restoreInteractivity.outcome s.noticeClosed) ∧
    ∀ a text run, a.effect = .alternative text [] [] →
      a.validate = .ok () ∧ ∃ t, (Play.perform run a).outcome s = some (.ok (), t) ∧
        t.display.message = some (text, []) ∧ t.Stuck := by
  have hbred := h.bred hereditary_answerable fun script hs =>
    Action.answerable_of_actions (hw script hs)
  have hunder := (h.mono fun _ _ _ => trivial).underway
  refine ⟨?_, ?_, ?_⟩
  · intro scripts hp
    refine ⟨hbred.pending_ne_nil hp, rfl, rfl, ?_⟩
    intro run index hi
    exact Play.outcome_clickButton_of_lt hp run hi
  · intro text hm
    have hn := hunder.oneMessage.noticeOpen_of_shown hm fun hp => hbred.pending_ne_nil hp rfl
    exact ⟨hn, rfl, rfl, Play.outcome_dismiss_of_notice hn⟩
  · intro a text run ha
    exact hunder.grounded.stuck_of_mute ha run

theorem World.gate_answerable : World.gate.Answerable := by
  decide

/-- The question at the gate can be answered. -/
theorem answerable_gate :
    ∃ s, Played (fun s c => c.Permitted (.only Action.Answerable) s) ["left"] .gate s ∧
      s.player.pending = some [[.new (.goToScene "road")]] ∧
      (Play.clickButton (Play.execute 3) 0).outcome s =
        (do
          Play.restoreInteractivity
          Play.execute 3 [.new (.goToScene "road")]).outcome s.answered := by
  have h := @Played.call _ _ _ _ _ (.handle (.objectClicked "door")) 3 _
    (@Played.start (fun s c => c.Permitted (.only Action.Answerable) s) ["left"] .gate 3 (.ofNat 0)
      (.ofNat 1) _ _ rfl) trivial rfl
  obtain ⟨-, -, -, hbuttons⟩ := (h.answerable World.gate_answerable).1 _ rfl
  exact ⟨_, h, rfl, hbuttons _ 0 (by decide)⟩

/-- A world with a corner that is described by an alternative without buttons. -/
def World.maze : World where
  stages := [
    { id := "maze"
      scenes := [
        { id := "corner"
          interactive := .ofList [("up", [.new (.alternative "A dead end." [] [])])] }] }]

/-- A message that blocks cannot always be answered, though the world and the scripts that are given
to the session are valid. -/
theorem not_forall_answerable :
    ¬∀ (arrows : List String) (world : World) (s : Session), world.validate = .ok () →
      Played (fun _ c => ∀ script, c = .execute script → validateScript script = .ok ())
        arrows world s → s.player.pending ≠ some [] := by
  intro hall
  have h := @Played.call _ _ _ _ _ (.handle (.objectClicked "up")) 3 _
    (@Played.start (fun _ c => ∀ script, c = .execute script → validateScript script = .ok ())
      ["up"] .maze 3 (.ofNat 0) (.ofNat 1) _ _ rfl) nofun rfl
  exact hall _ _ _ rfl h rfl

end

end Adventure
