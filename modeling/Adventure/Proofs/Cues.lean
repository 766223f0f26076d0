import Adventure.Proofs.Outcome

/-!
# Cues

A session that gives cues changes its display and nothing else; a line in the log changes nothing
that is read.

## Main definitions

* `Session.cued s cues`: the session after some cues
* `Session.noted s n`: the session with a line more in the log
* `Part`, `Cue.part?`: the parts of the display, and the one that a cue changes
* `Display.SameIn d e p`: two displays are the same in one part
* `Session.Cues parts s t`: from `s` to `t`, only some parts of the display were changed

## Main results

* `outcome_forM_cue`: giving a list of cues
* `Cues.sameIn`, with `Cues.message`, `Cues.objects` and others: the other parts stay as they were
-/

namespace Adventure

namespace Session

/-- The session after some cues. -/
def cued (s : Session) (cues : List Cue) : Session :=
  { s with display := cues.foldl Display.perform s.display }

variable (s : Session) (cues : List Cue)

@[simp] theorem cued_nil : s.cued [] = s := rfl

@[simp] theorem cued_cued (l m : List Cue) : (s.cued l).cued m = s.cued (l ++ m) := by
  simp [cued]

@[simp] theorem cued_arrows : (s.cued cues).arrows = s.arrows := rfl
@[simp] theorem cued_world : (s.cued cues).world = s.world := rfl
@[simp] theorem cued_catalog : (s.cued cues).catalog = s.catalog := rfl
@[simp] theorem cued_player : (s.cued cues).player = s.player := rfl
@[simp] theorem cued_queue : (s.cued cues).queue = s.queue := rfl
@[simp] theorem cued_pendingLoads : (s.cued cues).pendingLoads = s.pendingLoads := rfl
@[simp] theorem cued_pendingTimers : (s.cued cues).pendingTimers = s.pendingTimers := rfl
@[simp] theorem cued_noticeOpen : (s.cued cues).noticeOpen = s.noticeOpen := rfl
@[simp] theorem cued_batchCount : (s.cued cues).batchCount = s.batchCount := rfl
@[simp] theorem cued_timerCount : (s.cued cues).timerCount = s.timerCount := rfl
@[simp] theorem cued_notes : (s.cued cues).notes = s.notes := rfl

/-- The session with a line more in the log. -/
def noted (s : Session) (n : Note) : Session := { s with notes := s.notes.push n }

variable (n : Note)

@[simp] theorem noted_arrows : (s.noted n).arrows = s.arrows := rfl
@[simp] theorem noted_world : (s.noted n).world = s.world := rfl
@[simp] theorem noted_catalog : (s.noted n).catalog = s.catalog := rfl
@[simp] theorem noted_player : (s.noted n).player = s.player := rfl
@[simp] theorem noted_queue : (s.noted n).queue = s.queue := rfl
@[simp] theorem noted_pendingLoads : (s.noted n).pendingLoads = s.pendingLoads := rfl
@[simp] theorem noted_pendingTimers : (s.noted n).pendingTimers = s.pendingTimers := rfl
@[simp] theorem noted_noticeOpen : (s.noted n).noticeOpen = s.noticeOpen := rfl
@[simp] theorem noted_batchCount : (s.noted n).batchCount = s.batchCount := rfl
@[simp] theorem noted_timerCount : (s.noted n).timerCount = s.timerCount := rfl
@[simp] theorem noted_display : (s.noted n).display = s.display := rfl
@[simp] theorem noted_notes : (s.noted n).notes = s.notes.push n := rfl

end Session

namespace Play

@[simp] theorem outcome_cue (c : Cue) (s : Session) :
    (cue c).outcome s = some (.ok (), s.cued [c]) := rfl

@[simp] theorem outcome_note (n : Note) (s : Session) :
    (note n).outcome s = some (.ok (), s.noted n) := rfl

/-- Giving a list of cues. -/
theorem outcome_forM_cue {β : Type} (f : β → Cue) (l : List β) (s : Session) :
    (l.forM fun b => cue (f b)).outcome s = some (.ok (), s.cued (l.map f)) := by
  induction l generalizing s with
  | nil => rfl
  | cons b l ih => rw [outcome_forM_cons, outcome_cue, andThen_ok, ih]; simp

end Play

/-! ## What cues leave on display -/

/-- A part of the display. -/
inductive Part where
  | objects
  | backgrounds
  | playing
  | message
  | codeInput
  | loading
  | redirect
  | batches
  | timers
  deriving DecidableEq

/-- The part of the display that a cue changes, if any. -/
def Cue.part? : Cue → Option Part
  | showObject _ | hideObject _ => some .objects
  | showBackground _ | hideBackground _ => some .backgrounds
  | play _ true | stop _ => some .playing
  | showMessage .. | hideMessage => some .message
  | showCodeInput .. | hideCodeInput | clearCodeInput => some .codeInput
  | showLoading | hideLoading => some .loading
  | redirect _ => some .redirect
  | startBatch _ => some .batches
  | after .. => some .timers
  | createObject _ | createBackground .. | animate .. | cancelAnimation _ | requestImage ..
  | requestAudio .. | play _ false => none

/-- Two displays are the same in one part. -/
def Display.SameIn (d e : Display) : Part → Prop
  | .objects => d.objects = e.objects
  | .backgrounds => d.backgrounds = e.backgrounds
  | .playing => d.playing = e.playing
  | .message => d.message = e.message
  | .codeInput => d.codeInput = e.codeInput
  | .loading => d.loading = e.loading
  | .redirect => d.redirectedTo = e.redirectedTo
  | .batches => d.batches = e.batches
  | .timers => d.timers = e.timers

theorem Display.SameIn.refl (d : Display) (p : Part) : d.SameIn d p := by
  cases p <;> rfl

theorem Display.SameIn.trans {d e f : Display} {p : Part} (h : d.SameIn e p) (h' : e.SameIn f p) :
    d.SameIn f p := by
  cases p <;> exact Eq.trans h h'

theorem Display.SameIn.symm {d e : Display} {p : Part} (h : d.SameIn e p) : e.SameIn d p := by
  cases p <;> exact Eq.symm h

/-- A cue about another part leaves a part as it was. -/
theorem Display.sameIn_perform (d : Display) {c : Cue} {p : Part} (h : c.part? ≠ some p) :
    (d.perform c).SameIn d p := by
  unfold perform render
  split <;> cases p <;> first | rfl | exact absurd rfl h

/-- All cues of a list are about some parts of the display. -/
def Cue.About (parts : List Part) (cues : List Cue) : Prop :=
  ∀ c ∈ cues, ∀ p, c.part? = some p → p ∈ parts

theorem Cue.About.nil {parts : List Part} : About parts [] := by simp [About]

theorem Cue.About.append {parts parts' : List Part} {l m : List Cue} (hl : About parts l)
    (hm : About parts' m) : About (parts ++ parts') (l ++ m) := by
  intro c hc p hp
  rw [List.mem_append]
  rcases List.mem_append.1 hc with hc | hc
  · exact .inl (hl c hc p hp)
  · exact .inr (hm c hc p hp)

theorem Cue.About.mono {parts parts' : List Part} {l : List Cue} (hl : About parts l)
    (h : parts ⊆ parts') : About parts' l :=
  fun c hc p hp => h (hl c hc p hp)

namespace Session

/-- One session has given some cues more than another one, all of them about some parts of the
display. -/
def Cues (parts : List Part) (s t : Session) : Prop :=
  ∃ cues : List Cue, t.display = cues.foldl Display.perform s.display ∧ Cue.About parts cues

variable {s t u : Session} {parts parts' : List Part}

theorem Cues.mono (h : s.Cues parts t) (hsub : parts ⊆ parts') : s.Cues parts' t := by
  obtain ⟨cues, hdisplay, habout⟩ := h
  exact ⟨cues, hdisplay, habout.mono hsub⟩

theorem Cues.trans (h : s.Cues parts t) (h' : t.Cues parts' u) : s.Cues (parts ++ parts') u := by
  obtain ⟨l, hl, hp⟩ := h
  obtain ⟨m, hm, hp'⟩ := h'
  exact ⟨l ++ m, by rw [hm, hl, List.foldl_append], hp.append hp'⟩

theorem Cues.of_display (h : t.display = s.display) : s.Cues [] t := ⟨[], h, .nil⟩

theorem cues_cued {cues : List Cue} (h : Cue.About parts cues) : s.Cues parts (s.cued cues) :=
  ⟨cues, rfl, h⟩

/-- **Cues about other parts** leave a part as it was. -/
theorem Cues.sameIn (h : s.Cues parts t) {p : Part} (hp : p ∉ parts) :
    t.display.SameIn s.display p := by
  obtain ⟨cues, ht, hparts⟩ := h
  rw [ht]
  -- One cue after the other, none of which is about the part.
  refine List.foldlRecOn (motive := fun d : Display => d.SameIn s.display p) cues _ (.refl _ p) ?_
  intro d hd c hc
  exact (Display.sameIn_perform d fun hpart => hp (hparts c hc p hpart)).trans hd

section

variable (h : s.Cues parts t)
include h

theorem Cues.objects (hp : .objects ∉ parts) : t.display.objects = s.display.objects :=
  h.sameIn hp

theorem Cues.backgrounds (hp : .backgrounds ∉ parts) :
    t.display.backgrounds = s.display.backgrounds := h.sameIn hp

theorem Cues.message (hp : .message ∉ parts) : t.display.message = s.display.message := h.sameIn hp

theorem Cues.codeInput (hp : .codeInput ∉ parts) : t.display.codeInput = s.display.codeInput :=
  h.sameIn hp

theorem Cues.playing (hp : .playing ∉ parts) : t.display.playing = s.display.playing := h.sameIn hp

theorem Cues.loading (hp : .loading ∉ parts) : t.display.loading = s.display.loading := h.sameIn hp

end

end Session

end Adventure
