import Adventure.Proofs.Nearest
import Adventure.Proofs.Validity

/-!
# Delays that fit

A delay is looked at twice: when a world is started, and when a timer is armed.  The first check is
that the delay is finite and not negative.  The second one is on the delay in seconds, which must be
less than `2 ^ 64` of them.  Division by a thousand rounds, but it keeps the order, so that the two
checks differ in one bound on the delay: whatever lies below it passes both, and everything else
passes the first one only.

## Main definitions

* `Duration.limit`: the milliseconds that are too many
* `Effect.isBrief`, `World.Brief`: no delay of an effect, or of a world, reaches the limit
* `World.glacier`: a valid world with a delay that is too long

## Main results

* `Double.div_thousand`: division by a thousand keeps a delay finite and not negative
* `Duration.isSome_ofMilliseconds?_iff`: the delays that a timer can be armed for
* `Session.Grounded.call_delay`: calls fail only for delays for which no timer can be armed
* `delays_fit`: no delay of a valid world fails that stays below the limit
-/

namespace Adventure

open Session

/-! ## Delays in seconds -/

namespace Double

/-- A negative zero is the only delay with a sign. -/
theorem code_of_isDelay {x : Double} (hx : x.isDelay = true) (hnegative : x.negative = true) :
    x.code = 0 := by
  unfold isDelay isZero at hx
  rw [hnegative, Bool.and_eq_true] at hx
  simpa using hx.2

/-- A delay is the number that its code stands for. -/
theorem units_of_isDelay {x : Double} (hx : x.isDelay = true) :
    x.units = (format.units x.code : Int) := by
  unfold units
  cases hnegative : x.negative with
  | false => rfl
  | true =>
    rw [code_of_isDelay hx hnegative, format.units_zero]
    rfl

/-- A thousand is a number that is not zero. -/
theorem div_thousand_of_isFinite {x : Double} (hx : x.isFinite = true) :
    x.div (.ofNat 1000) = ofRatio x.negative (format.units x.code) (1000 * unit) := by
  have hnan := isNaN_of_isFinite hx
  have habs := x.natAbs_units
  have hthousand : (ofNat 1000).isNaN = false ∧ (ofNat 1000).isFinite = true ∧
      (ofNat 1000).isZero = false ∧ (ofNat 1000).negative = false ∧
      (ofNat 1000).units.natAbs = 1000 * unit := by
    decide +kernel
  obtain ⟨hnan', hfinite', hzero', hnegative', habs'⟩ := hthousand
  simp [div, hnan, hnan', hx, hfinite', hzero', hnegative', habs, habs']

/-- **Division by a thousand** keeps a delay finite and not negative. -/
theorem div_thousand {x : Double} (hx : x.isDelay = true) :
    (x.div (.ofNat 1000)).isDelay = true ∧
      (x.div (.ofNat 1000)).code = format.round (format.units x.code) (1000 * unit) := by
  have hfinite : x.isFinite = true := (x.isDelay_iff.1 hx).1
  have hcode : (x.div (.ofNat 1000)).code = format.round (format.units x.code) (1000 * unit) := by
    rw [div_thousand_of_isFinite hfinite, code_ofRatio]
  refine ⟨?_, hcode⟩
  have hunit : 0 < 1000 * unit := Nat.mul_pos (by decide) unit_pos
  -- Rounding keeps the order, so that the largest finite double decides.
  have hlargest : format.units x.code ≤ format.units (format.infinity - 1) := by
    apply format.units_mono
    unfold isFinite at hfinite
    simp only [decide_eq_true_eq] at hfinite
    omega
  have hbound : format.round (format.units x.code) (1000 * unit) < format.infinity :=
    (Format.round_mono (by decide) hunit hunit (Nat.mul_le_mul_right _ hlargest)).trans_lt
      (by decide +kernel)
  have hzero : x.negative = true → (x.div (.ofNat 1000)).isZero = true := by
    intro hnegative
    unfold isZero
    rw [hcode, code_of_isDelay hx hnegative, format.units_zero, format.round_zero]
    rfl
  -- The sign is kept, which a negative zero may have.
  have hsign : (x.div (.ofNat 1000)).negative = x.negative := by
    rw [div_thousand_of_isFinite hfinite, negative_ofRatio]
  unfold isDelay
  rw [hsign]
  cases hnegative : x.negative with
  | false => simpa [isFinite, hcode] using hbound
  | true => simpa [isFinite, hcode, hzero hnegative] using hbound

end Double

/-- The milliseconds that are too many for a timer, which are `2 ^ 64` seconds. -/
def Duration.limit : Nat := 1000 * 2 ^ 64

/-- **A timer can be armed for a delay** that was checked if and only if it is below the limit. -/
theorem Duration.isSome_ofMilliseconds?_iff {x : Double} (hx : x.isDelay = true) :
    (ofMilliseconds? x).isSome = true ↔ x.units < (limit * Double.unit : Nat) := by
  obtain ⟨hdelay, hcode⟩ := Double.div_thousand hx
  have hunit : 0 < 1000 * Double.unit := Nat.mul_pos (by decide) Double.unit_pos
  have hseconds : (ofMilliseconds? x).isSome = true ↔
      Double.format.units (Double.format.round (Double.format.units x.code) (1000 * Double.unit)) <
        Double.unit <<< 64 := by
    obtain ⟨hfinite, hpos⟩ := (Double.isDelay_iff _).1 hdelay
    have hunits := Double.units_of_isDelay hdelay
    rw [hcode] at hunits
    unfold ofMilliseconds? ofSeconds?
    rw [hfinite, decide_eq_true hpos, hunits]
    simp only [Bool.true_and, decide_eq_true_eq, Nat.cast_lt]
    split
    · next h => exact iff_of_true rfl h
    · next h => exact iff_of_false nofun h
  rw [hseconds, Double.units_of_isDelay hx, Nat.cast_lt]
  have hlimit : Double.format.units (Double.ofNat limit).code = limit * Double.unit := by
    decide +kernel
  have hbound : Double.format.units (Double.ofNat (2 ^ 64)).code = Double.unit <<< 64 := by
    decide +kernel
  constructor
  · -- At the limit, the seconds are at the bound.
    intro h
    by_contra hlarge
    have hround := Format.round_mono (f := Double.format) (by decide) hunit hunit
      (Nat.mul_le_mul_right (1000 * Double.unit) (Nat.le_of_not_lt hlarge))
    have hlast : Double.format.round (limit * Double.unit) (1000 * Double.unit) =
        (Double.ofNat (2 ^ 64)).code := by
      decide +kernel
    rw [hlast] at hround
    have hunits := Double.format.units_mono hround
    rw [hbound] at hunits
    exact absurd h (Nat.not_lt_of_le hunits)
  · -- The last double below the limit is below the bound after the division.
    intro h
    rw [← hlimit] at h
    have hlt : x.code < (Double.ofNat limit).code := by
      by_contra hge
      exact absurd (Double.format.units_mono (Nat.le_of_not_lt hge)) (Nat.not_le_of_lt h)
    have hprev := Double.format.units_mono (Nat.le_sub_one_of_lt hlt)
    have hround := Format.round_mono (f := Double.format) (by decide) hunit hunit
      (Nat.mul_le_mul_right (1000 * Double.unit) hprev)
    refine (Double.format.units_mono hround).trans_lt ?_
    decide +kernel

/-! ## Sessions -/

section

variable {P : Policy} {w : World} {arrows : List String} {s t : Session} {depth : Nat}
  {delay : Double}

/-- The error of a delay is that of an action with this delay, which no timer takes. -/
theorem Session.Rejects.delay_eq {a : Action}
    (h : s.Rejects a (.invalidConfig (.badDelay delay))) :
    Duration.ofMilliseconds? delay = none := by
  have hirregular : (Error.invalidConfig (.badDelay delay)).IsIrregular := .inr ⟨delay, rfl⟩
  cases h with
  | guard h => exact absurd hirregular (a.spares_passes s.player _ h)
  | code he h => exact absurd hirregular (s.spares_targetsOf _ _ _ h)
  | increment he h => exact absurd hirregular (s.spares_sum _ _ _ h)
  | delay he h => exact h

/-- Scripts fail only for delays that no timer takes. -/
theorem keeps_delays :
    Keeps (.free fun _ _ => True) (fun _ => True) fun e _ =>
      ∀ delay, e = .invalidConfig (.badDelay delay) → Duration.ofMilliseconds? delay = none :=
  .free (fun _ _ _ => trivial) fun _ _ hh delay he => by
    obtain ⟨a, -, hr⟩ := hh.rejects_of_irregular (.inr ⟨delay, he⟩)
    exact Rejects.delay_eq (he ▸ hr)

/-- **A call fails only for delays that no timer takes**, wherever its scripts come from. -/
theorem Session.Grounded.call_delay (hs : s.Grounded) {c : Call}
    (h : (c.play depth).outcome s = some (.error (.invalidConfig (.badDelay delay)), t)) :
    Duration.ofMilliseconds? delay = none := by
  have hcall := keeps_delays.call depth hs trivial (c.permitted_free fun _ _ => trivial)
  obtain ⟨-, hdelay | ⟨-, u, event, hrefused⟩⟩ := Play.ensures_error hcall h
  · exact hdelay delay rfl
  · exact absurd (.inr ⟨delay, rfl⟩) hrefused.not_irregular

/-- So does the start of a world that was checked. -/
theorem start_delay (hvalid : w.validate = .ok ()) {id : Uuid}
    (h : (Play.start depth id w).outcome s =
      some (.error (.invalidConfig (.badDelay delay)), t)) :
    Duration.ofMilliseconds? delay = none := by
  obtain ⟨first, hfirst, -⟩ := bind_eq_ok_iff.1 hvalid
  rw [Play.outcome_start, hvalid, hfirst] at h
  exact (grounded_begun s id w).call_delay (c := .loadStage first.id) h

/-- Whether an effect has no delay that reaches the limit. -/
def Effect.isBrief : Effect → Bool
  | .delayed delay _ => decide (delay.units < (Duration.limit * Double.unit : Nat))
  | _ => true

/-- No delay of a world reaches the limit. -/
def World.Brief (w : World) : Prop :=
  ∀ script ∈ w.scripts, ∀ a ∈ Script.actions script, a.effect.isBrief = true

instance (w : World) : Decidable w.Brief :=
  inferInstanceAs (Decidable (∀ script ∈ w.scripts, ∀ a ∈ Script.actions script, _ = true))

/-- A timer can be armed for every delay of a world that was checked and is brief. -/
theorem World.Brief.isSome (hbrief : w.Brief) (hvalid : w.validate = .ok ()) {script next : Script}
    (hs : script ∈ w.scripts) {a : Action} (ha : a ∈ Script.actions script)
    (he : a.effect = .delayed delay next) : (Duration.ofMilliseconds? delay).isSome = true := by
  have hregular := (validateScript_eq_ok_iff script).1 (World.validate_scripts hvalid script hs) a ha
  have hbelow := hbrief script hs a ha
  rw [he] at hregular hbelow
  exact (Duration.isSome_ofMilliseconds?_iff (delay.isDelay_iff.2 hregular)).2
    (of_decide_eq_true hbelow)

/-- **Delays that fit.**  For a delay that is accepted when it is checked a timer can be armed if and
only if it is less than `2 ^ 64` seconds.  So where no delay of a world reaches the limit, every
action of the world with a delay, at whatever depth, has its timer armed in every session, and no
call and no start of the world ever fails for one of its delays. -/
theorem delays_fit (delay : Double) (next : Script) :
    ((Action.new (.delayed delay next)).validate = .ok () →
      ((Duration.ofMilliseconds? delay).isSome = true ↔
        delay.units < (Duration.limit * Double.unit : Nat))) ∧
    ∀ w : World, w.validate = .ok () → w.Brief →
      ∀ script ∈ w.scripts, ∀ a ∈ Script.actions script, a.effect = .delayed delay next →
        (∀ (run : Script → Play Unit) (s : Session), ∃ duration,
          (Play.perform run a).outcome s = some (.ok (), s.scheduled duration next)) ∧
        (∀ arrows s, Reached arrows s → ∀ (c : Call) depth t,
          (c.play depth).outcome s ≠ some (.error (.invalidConfig (.badDelay delay)), t)) ∧
        ∀ (s : Session) depth id t, (Play.start depth id w).outcome s ≠
          some (.error (.invalidConfig (.badDelay delay)), t) := by
  constructor
  · intro h
    have hregular := (Effect.validate_eq_ok_iff _).1 h
    exact Duration.isSome_ofMilliseconds?_iff (delay.isDelay_iff.2 hregular.1)
  · intro w hvalid hbrief script hs a ha he
    obtain ⟨duration, hduration⟩ :=
      Option.isSome_iff_exists.1 (hbrief.isSome hvalid hs ha he)
    refine ⟨fun run s => ⟨duration, ?_⟩, ?_, ?_⟩
    · simp only [Play.perform, he]
      rw [Play.outcome_schedule, hduration]
    · intro arrows s hreached c depth t h
      cases hduration.symm.trans (hreached.grounded.call_delay h)
    · intro s depth id t h
      cases hduration.symm.trans (start_delay hvalid h)

/-- A geyser breaks out now and then, each time after the same delay. -/
def World.geyser : World where
  stages := [
    { id := "valley"
      scenes := [
        { id := "basin"
          procedures := .ofList [
            ("wait", [.new (.group [.new (.delayed (.ofNat 3000) [.new (.runProcedure "wait")])])])]
          entryActions := [.new (.runProcedure "wait")] }] }]

set_option maxRecDepth 4096 in
/-- The geyser is valid and brief, and its timer can be armed in whatever session; so it is at the
start. -/
theorem delays_fit_geyser :
    World.geyser.validate = .ok () ∧ World.geyser.Brief ∧
      (∀ s : Session, ∃ duration,
        (Play.perform (Play.execute 3)
          (.new (.delayed (.ofNat 3000) [.new (.runProcedure "wait")]))).outcome s =
            some (.ok (), s.scheduled duration [.new (.runProcedure "wait")])) ∧
      ∃ s, Reached ["left"] s ∧ s.pendingTimers = [(0, [.new (.runProcedure "wait")])] := by
  have hbrief : World.geyser.Brief := by decide +kernel
  refine ⟨rfl, hbrief, fun s => ?_, _,
    @Reached.start ["left"] _ _ 5 (.ofNat 1) .geyser _ (.fresh (.ofNat 0)) rfl, rfl⟩
  have hscript : [.new (.group [.new (.delayed (.ofNat 3000) [.new (.runProcedure "wait")])])] ∈
      World.geyser.scripts := .tail _ (.tail _ (.tail _ (.head _)))
  exact ((delays_fit _ _).2 .geyser rfl hbrief _ hscript _ (.tail _ (.head _)) rfl).1 _ s

/-- A world with a glacier that is awaited longer than timers last. -/
def World.glacier : World where
  stages := [
    { id := "pass"
      scenes := [
        { id := "moraine"
          interactive := .ofList [
            ("up", [.new (.delayed (.ofNat (10 ^ 23)) [.new (.showText "It moves.")])])] }] }]

set_option maxRecDepth 4096 in
/-- The delay of the glacier is accepted when the world is started, but no timer can be armed for
it: a valid world whose own script fails. -/
theorem not_forall_delays_fit :
    ¬∀ (arrows : List String) (world : World) (s : Session), world.validate = .ok () →
      Played (fun _ c => ∀ script, c ≠ .execute script) arrows world s →
        ∀ object depth delay t, (Play.handle depth (.objectClicked object)).outcome s ≠
          some (.error (.invalidConfig (.badDelay delay)), t) := by
  intro hall
  have h := @Played.start (fun _ c => ∀ script, c ≠ .execute script) ["up"] .glacier 3 (.ofNat 0)
    (.ofNat 1) _ _ rfl
  exact hall _ _ _ rfl h "up" 3 (.ofNat (10 ^ 23)) _ rfl

end

end Adventure
