import Adventure.Proofs.Cues

/-!
# Cues on another display

The same cues leave the same on two displays as far as they decide what is there.  The screen and
the speakers consist of slots: the message, the code input, and for each object, background and
track whether it is shown or looped.  A cue decides one slot at most, whatever was there before, and
leaves the other ones as they are; only the code input can be cleared without being shown or hidden.

## Main definitions

* `Slot`, `Display.content`: the slots, and what is there
* `Cue.slot?`: the slot that a cue decides
* `Display.SameScreen`: two displays show and loop the same

## Main results

* `Display.content_of_slot`, `Display.content_of_ne`: what a cue leaves in a slot
* `Display.sameScreen_iff`: the screen is determined by the slots
* `Display.sameScreen_replay_iff`: when cues leave the same on a display and on an empty one
-/

namespace Adventure

/-! ## Slots -/

/-- A place on the screen or in the speakers. -/
inductive Slot where
  | message
  | codeInput
  | object (id : String)
  | background (scene : String)
  | track (key : String)
  deriving DecidableEq

/-- The slot that a cue decides, whatever was there before. -/
def Cue.slot? : Cue → Option Slot
  | showMessage .. | hideMessage => some .message
  | showCodeInput .. | hideCodeInput => some .codeInput
  | showObject id | hideObject id => some (.object id)
  | showBackground scene | hideBackground scene => some (.background scene)
  | play key true | stop key => some (.track key)
  | _ => none

/-- What a cue leaves in the slot that it decides: nothing, or what it shows itself. -/
def Cue.shown? : Cue → Option Cue
  | hideMessage | hideCodeInput | hideObject _ | hideBackground _ | stop _ => none
  | c => some c

/-- What is left of what a cue shows when the code input is cleared. -/
def Cue.cleared : Cue → Cue
  | showCodeInput enabled _ => showCodeInput enabled ""
  | c => c

namespace Display

/-- What is in a slot, as the cue that shows it. -/
def content (d : Display) : Slot → Option Cue
  | .message => d.message.map fun m => .showMessage m.1 m.2
  | .codeInput => d.codeInput.map fun input => .showCodeInput input.1 input.2
  | .object id => if d.objects.contains id then some (.showObject id) else none
  | .background scene => if d.backgrounds.contains scene then some (.showBackground scene) else none
  | .track key => if d.playing.contains key then some (.play key true) else none

variable {d e : Display} {c : Cue} {slot : Slot}

/-- **A cue decides its slot**, whatever was there before. -/
theorem content_of_slot (h : c.slot? = some slot) : (d.perform c).content slot = c.shown? := by
  cases c with
  | showMessage | hideMessage | showCodeInput | hideCodeInput =>
    cases h
    rfl
  | showObject | showBackground =>
    cases h
    simp [content, perform, render, Names.contains_add, Cue.shown?]
  | hideObject | hideBackground | stop =>
    cases h
    simp [content, perform, render, Cue.shown?]
  | play key looped =>
    cases looped with
    | false => cases h
    | true =>
      cases h
      simp [content, perform, render, Names.contains_add, Cue.shown?]
  | _ => cases h

/-- Other slots stay as they are, but for the code input when it is cleared. -/
theorem content_of_ne (h : c.slot? ≠ some slot) (hc : c ≠ .clearCodeInput) :
    (d.perform c).content slot = d.content slot := by
  -- Of the slots of one kind, a cue is about a single one.
  cases c with
  | clearCodeInput => exact absurd rfl hc
  | showObject id | hideObject id =>
    cases slot with
    | object other =>
      have hne : other ≠ id := fun heq => h (by rw [heq]; rfl)
      simp [content, perform, render, Names.contains_add, hne]
    | _ => rfl
  | showBackground scene | hideBackground scene =>
    cases slot with
    | background other =>
      have hne : other ≠ scene := fun heq => h (by rw [heq]; rfl)
      simp [content, perform, render, Names.contains_add, hne]
    | _ => rfl
  | stop key =>
    cases slot with
    | track other =>
      have hne : other ≠ key := fun heq => h (by rw [heq]; rfl)
      simp [content, perform, render, hne]
    | _ => rfl
  | play key looped =>
    cases looped with
    | false => cases slot <;> rfl
    | true =>
      cases slot with
      | track other =>
        have hne : other ≠ key := fun heq => h (by rw [heq]; rfl)
        simp [content, perform, render, Names.contains_add, hne]
      | _ => rfl
  | showMessage | hideMessage =>
    cases slot with
    | message => exact absurd rfl h
    | _ => rfl
  | showCodeInput | hideCodeInput =>
    cases slot with
    | codeInput => exact absurd rfl h
    | _ => rfl
  | _ => cases slot <;> rfl

/-- Clearing the code input empties the text of one that is there. -/
theorem content_clear (d : Display) (slot : Slot) :
    (d.perform .clearCodeInput).content slot = (d.content slot).map Cue.cleared := by
  cases slot with
  | message | codeInput => simp [content, perform, render, Function.comp_def, Cue.cleared]
  | object | background | track =>
    unfold content
    rw [apply_ite (Option.map Cue.cleared)]
    rfl

/-- What is left in a slot depends on nothing but what was there. -/
theorem content_congr (h : d.content slot = e.content slot) (c : Cue) :
    (d.perform c).content slot = (e.perform c).content slot := by
  by_cases hslot : c.slot? = some slot
  · rw [content_of_slot hslot, content_of_slot hslot]
  · by_cases hclear : c = .clearCodeInput
    · rw [hclear, content_clear, content_clear, h]
    · rw [content_of_ne hslot hclear, content_of_ne hslot hclear, h]

/-- A slot that no cue decides is empty if it was. -/
theorem content_eq_none_iff (h : c.slot? ≠ some slot) :
    (d.perform c).content slot = none ↔ d.content slot = none := by
  by_cases hclear : c = .clearCodeInput
  · rw [hclear, content_clear, Option.map_eq_none_iff]
  · rw [content_of_ne h hclear]

/-! ## Many cues -/

/-- The display after some more cues. -/
def replay (d : Display) (cues : List Cue) : Display := cues.foldl perform d

@[simp] theorem replay_nil (d : Display) : d.replay [] = d := rfl

@[simp] theorem replay_cons (d : Display) (c : Cue) (cues : List Cue) :
    d.replay (c :: cues) = (d.perform c).replay cues := rfl

@[simp] theorem replay_append (d : Display) (l m : List Cue) :
    d.replay (l ++ m) = (d.replay l).replay m := List.foldl_append

@[simp] theorem cues_replay (d : Display) (cues : List Cue) :
    (d.replay cues).cues.toList = d.cues.toList ++ cues := by
  induction cues generalizing d with
  | nil => simp
  | cons c cues ih => rw [replay_cons, ih]; simp [perform]

variable {cues : List Cue}

theorem content_replay_congr (h : d.content slot = e.content slot) (cues : List Cue) :
    (d.replay cues).content slot = (e.replay cues).content slot := by
  induction cues generalizing d e with
  | nil => exact h
  | cons c cues ih => exact ih (content_congr h c)

theorem content_replay_eq_none_iff (h : ∀ c ∈ cues, c.slot? ≠ some slot) :
    (d.replay cues).content slot = none ↔ d.content slot = none := by
  induction cues generalizing d with
  | nil => rfl
  | cons c cues ih =>
    rw [replay_cons, ih fun c hc => h c (.tail _ hc)]
    exact content_eq_none_iff (h c (.head _))

/-- A slot that some cue decides ends up the same from every display. -/
theorem content_replay_of_slot (h : ∃ c ∈ cues, c.slot? = some slot) :
    (d.replay cues).content slot = (e.replay cues).content slot := by
  obtain ⟨c, hc, hslot⟩ := h
  induction cues generalizing d e with
  | nil => cases hc
  | cons first cues ih =>
    rw [replay_cons, replay_cons]
    rcases List.mem_cons.1 hc with rfl | hc
    · apply content_replay_congr
      rw [content_of_slot hslot, content_of_slot hslot]
    · exact ih hc

/-- **The same cues on a display and on one where a slot is empty** leave the same there exactly if
the slot was empty on both, or is decided by a cue. -/
theorem content_replay_eq_iff (he : e.content slot = none) :
    (d.replay cues).content slot = (e.replay cues).content slot ↔
      d.content slot = none ∨ ∃ c ∈ cues, c.slot? = some slot := by
  constructor
  · intro heq
    by_cases hslot : ∃ c ∈ cues, c.slot? = some slot
    · exact .inr hslot
    · have hno : ∀ c ∈ cues, c.slot? ≠ some slot := fun c hc hc' => hslot ⟨c, hc, hc'⟩
      have hempty : (e.replay cues).content slot = none := (content_replay_eq_none_iff hno).2 he
      exact .inl ((content_replay_eq_none_iff hno).1 (heq.trans hempty))
  · rintro (hd | hslot)
    · exact content_replay_congr (hd.trans he.symm) cues
    · exact content_replay_of_slot hslot

/-! ## Screens -/

/-- Two displays show and loop the same. -/
structure SameScreen (d e : Display) : Prop where
  message : d.message = e.message
  objects : d.objects = e.objects
  backgrounds : d.backgrounds = e.backgrounds
  codeInput : d.codeInput = e.codeInput
  playing : d.playing = e.playing

theorem SameScreen.refl (d : Display) : d.SameScreen d := ⟨rfl, rfl, rfl, rfl, rfl⟩

theorem SameScreen.symm (h : d.SameScreen e) : e.SameScreen d :=
  ⟨h.message.symm, h.objects.symm, h.backgrounds.symm, h.codeInput.symm, h.playing.symm⟩

theorem SameScreen.trans {f : Display} (h : d.SameScreen e) (h' : e.SameScreen f) :
    d.SameScreen f :=
  ⟨h.message.trans h'.message, h.objects.trans h'.objects, h.backgrounds.trans h'.backgrounds,
    h.codeInput.trans h'.codeInput, h.playing.trans h'.playing⟩

/-- Names are determined by what is shown of them. -/
theorem names_eq_of_shown {names names' : Names} {shown : String → Cue}
    (h : ∀ name, (if names.contains name then some (shown name) else none) =
      if names'.contains name then some (shown name) else none) : names = names' := by
  apply Table.ext_get?
  intro name
  have hname := h name
  unfold Table.contains at hname
  -- There is only one value that a name can have.
  cases hl : names.get? name with
  | none => cases hr : names'.get? name <;> simp_all
  | some => cases hr : names'.get? name <;> simp_all

/-- **The screen is determined by its slots.** -/
theorem sameScreen_iff : d.SameScreen e ↔ ∀ slot, d.content slot = e.content slot := by
  constructor
  · intro h slot
    cases slot with
    | message => simp [content, h.message]
    | codeInput => simp [content, h.codeInput]
    | object => simp [content, h.objects]
    | background => simp [content, h.backgrounds]
    | track => simp [content, h.playing]
  · intro h
    refine ⟨?_, names_eq_of_shown fun id => h (.object id),
      names_eq_of_shown fun scene => h (.background scene), ?_,
      names_eq_of_shown fun key => h (.track key)⟩
    · refine (Option.map_inj_right fun m n hmn => ?_).1 (h .message)
      exact Prod.ext (Cue.showMessage.inj hmn).1 (Cue.showMessage.inj hmn).2
    · refine (Option.map_inj_right fun m n hmn => ?_).1 (h .codeInput)
      exact Prod.ext (Cue.showCodeInput.inj hmn).1 (Cue.showCodeInput.inj hmn).2

/-- A cue leaves the same screen on displays that had the same. -/
theorem SameScreen.perform (h : d.SameScreen e) (c : Cue) :
    (d.perform c).SameScreen (e.perform c) :=
  sameScreen_iff.2 fun slot => content_congr (sameScreen_iff.1 h slot) c

/-- **The same cues on a display and on an empty one** leave the same screen exactly if each slot
was empty, or is decided by a cue. -/
theorem sameScreen_replay_iff :
    (d.replay cues).SameScreen (({} : Display).replay cues) ↔
      ∀ slot, d.content slot = none ∨ ∃ c ∈ cues, c.slot? = some slot := by
  have hempty : ∀ slot, ({} : Display).content slot = none := by
    intro slot
    cases slot <;> rfl
  rw [sameScreen_iff]
  exact forall_congr' fun slot => content_replay_eq_iff (hempty slot)

end Display

end Adventure
