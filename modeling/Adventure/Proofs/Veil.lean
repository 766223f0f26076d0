import Adventure.Proofs.MessageBox
import Adventure.Proofs.Screen

/-!
# What messages hide

No object is on screen under a blocking message, and none but arrows under a notice.  Objects come
on screen when a scene is entered and when a message is closed: in the one case they are hidden
again before any script runs, and in the other no message is left that would hide them.

## Main definitions

* `Session.Veiled`: what an open message hides is not on screen

## Main results

* `Session.Presents.veiled`: every step keeps hidden what an open message hides
* `Played.messages_veil`: what messages hide in every session
-/

namespace Adventure

open Session

namespace Session

/-- **What an open message hides** is not on screen. -/
structure Veiled (s : Session) : Prop where
  blocking : s.player.isBlocked = true → ∀ id, s.display.objects.contains id = false
  notice : s.noticeOpen = true → ∀ id, s.display.objects.contains id = true →
    s.isArrow id = true

variable {s t : Session}

/-- An arrow stays one, since objects that are known are not replaced. -/
theorem isArrow_of_within (hc : s.catalog.Within t.catalog) {id : String}
    (h : s.isArrow id = true) : t.isArrow id = true := by
  cases hobject : s.catalog.objects.get? id with
  | none => simp [isArrow, hobject] at h
  | some object => simpa [isArrow, hobject, hc.objects hobject] using h

/-- Less may be on screen under the same message. -/
theorem Veiled.mono (h : s.Veiled) (hp : t.player.pending = s.player.pending)
    (hn : t.noticeOpen = s.noticeOpen) (hc : s.catalog.Within t.catalog)
    (ho : ∀ {id}, t.display.objects.contains id = true → s.display.objects.contains id = true) :
    t.Veiled where
  blocking hblocked id := by
    rw [Player.isBlocked, hp] at hblocked
    cases hshown : t.display.objects.contains id with
    | false => rfl
    | true => cases (h.blocking hblocked id).symm.trans (ho hshown)
  notice hopen id hid := isArrow_of_within hc (h.notice (hn ▸ hopen) id (ho hid))

theorem Veiled.aside (h : s.Veiled) (ha : s.Aside t) : t.Veiled :=
  h.mono ha.pending ha.notice ha.catalog (by rw [ha.objects]; exact id)

/-- Without a message there is nothing to hide. -/
theorem veiled_of_none (hp : s.player.pending = none) (hn : s.noticeOpen = false) : s.Veiled where
  blocking h := by simp [Player.isBlocked, hp] at h
  notice h := by simp [hn] at h

/-- Where nothing is on screen, all is hidden. -/
theorem veiled_of_bare (h : ∀ id, s.display.objects.contains id = false) : s.Veiled where
  blocking _ := h
  notice _ id hid := by
    rw [h id] at hid
    cases hid

/-! ## Hiding the current scene -/

theorem Contained.veiled_hidden_false (h : s.Contained) : (s.hidden false).Veiled := by
  apply veiled_of_bare
  intro id
  cases hid : (s.hidden false).display.objects.contains id with
  | false => rfl
  | true => cases (h.arrow_of_hidden hid).1

/-- Arrows may stay in sight if the message does not block. -/
theorem Contained.veiled_hidden_true (h : s.Contained) (hp : s.player.isBlocked = false) :
    (s.hidden true).Veiled where
  blocking hblocked := by cases hp.symm.trans hblocked
  notice _ _ hid := (h.arrow_of_hidden hid).2

/-- **What an open message hides** is hidden again when a scene was shown. -/
theorem Contained.veiled_covered (h : s.Contained) : (s.cued s.coverCues).Veiled := by
  unfold coverCues
  split
  · exact h.veiled_hidden_false
  · next hblocked =>
    split
    · exact h.veiled_hidden_true (by simpa using hblocked)
    · next hnotice =>
      exact veiled_of_none (by simpa [Player.isBlocked] using hblocked) (by simpa using hnotice)

theorem Enters.veiled (h : s.Enters t) (hc : s.Contained) : t.Veiled := by
  cases h with
  | shown first hscene hknown hplan =>
    have hshown := (hc.left.arrived hscene hknown).shown hplan
    exact hshown.veiled_covered.mono rfl rfl (.refl _) id

/-! ## Steps -/

theorem Presents.veiled (h : s.Presents t) (hc : s.Contained) (ho : s.OneMessage)
    (hs : s.Veiled) : t.Veiled := by
  cases h with
  | aside h => exact hs.aside h
  | accept h =>
    cases h with
    | @code puzzle code stage declared targets t hp ht hmem hl h =>
      have hsolved : (s.solved puzzle (Text.trim code)).Veiled := by
        refine hs.mono rfl rfl (.refl _) ?_
        rw [(cues_solved s puzzle (Text.trim code)).objects (by simp)]
        exact id
      exact hsolved.aside h
  | clear => exact hs.mono rfl rfl (.refl _) id
  | hide =>
    refine hs.mono rfl rfl (.refl _) ?_
    intro id hid
    rw [contains_objects_hidden, Bool.and_eq_true] at hid
    exact hid.1
  | notice text =>
    rw [noticed_eq_hidden]
    exact (hc.opened text [] none true).veiled_hidden_true rfl
  | block text buttons scripts =>
    rw [blocked_eq_hidden]
    exact (hc.opened text buttons (some scripts) false).veiled_hidden_false
  -- What is shown behind a message that is closed is not hidden by another one.
  | close hopen => exact veiled_of_none (ho.exclusive hopen) rfl
  | closed hopen => exact veiled_of_none (ho.exclusive hopen) rfl
  | answer hp => exact veiled_of_none rfl (ho.noticeOpen_of_pending hp)
  | answered hp => exact veiled_of_none rfl (ho.noticeOpen_of_pending hp)
  | enter h => exact h.veiled hc
  | @strand id =>
    apply veiled_of_bare
    intro object
    rw [(cues_arrived s.left id).objects (by simp)]
    exact hc.left.objects object

end Session

/-! ## Sessions -/

section

variable {arrows : List String} {world : World} {s t : Session}

theorem Underway.veiled (hw : world.DistinctScenes) (h : Underway arrows world s) : s.Veiled := by
  refine h.invariant (fun id => veiled_of_none rfl rfl) (fun id id' => veiled_of_none rfl rfl) ?_
  intro s t hunder hs hstep
  exact (hunder.presents hw hstep).veiled (hunder.contained hw) hunder.oneMessage hs

/-- **Messages hide what they must**, in every session of a world that declares no scene twice:
under a blocking message no object is on screen, and under a notice none but arrows.  So it is
between the steps of a call, too, and where a script, an expired timer or the assets of a stage lead
into a scene while a message is open: the message stays open, and what it hides is hidden before the
scripts of the scene run. -/
theorem Played.messages_veil (hw : world.DistinctScenes)
    (h : Played (fun _ _ => True) arrows world s) :
    s.Veiled ∧ ∀ t, s.Leads t → t.Veiled ∧
      ∀ u, t.Enters u → u.player.pending = t.player.pending ∧ u.noticeOpen = t.noticeOpen ∧
        u.Veiled := by
  refine ⟨h.underway.veiled hw, ?_⟩
  intro t ht
  have hunder := h.underway.leads ht
  refine ⟨hunder.veiled hw, ?_⟩
  intro u hu
  refine ⟨?_, ?_, hu.veiled (hunder.contained hw)⟩
  · cases hu
    rfl
  · cases hu
    rfl

/-- The door of the gate is not in sight while it asks its question. -/
theorem messages_veil_gate :
    ∃ s, Played (fun _ _ => True) ["left"] .gate s ∧ s.player.isBlocked = true ∧
      s.display.objects.contains "door" = false := by
  obtain ⟨s, h, hp⟩ := exists_played_gate
  have hblocked : s.player.isBlocked = true := by
    rw [Player.isBlocked, hp]
    rfl
  exact ⟨s, h, hblocked, (h.messages_veil World.distinctScenes_gate).1.blocking hblocked "door"⟩

end

end Adventure
