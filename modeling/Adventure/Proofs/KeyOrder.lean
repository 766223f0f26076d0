import Adventure.Proofs.AnswerTexts
import Adventure.Proofs.ReadBack
import Adventure.Proofs.Reordering

/-!
# The order of keys in a world

Two texts that differ only in the order of keys are the same world, or are both refused.  Every
table of a world is in the order of its keys, so that nothing is left of the order of the text.

## Main results

* `Json.Field.commutes_of_sets`: fields that set different parts of a record
* `Hotspot.stable_reader`, `Scene.stable_reader`, `Stage.stable_reader`, `Puzzle.stable_reader`,
  `Parameters.stable_reader`, `World.stable_reader`: the readers of a world
* `World.key_order_irrelevant`: the world of a text in another order
-/

namespace Adventure

open Json Json.Reader

namespace Json

/-- Fields can be set in any order if their setters can. -/
theorem Field.commutes_of_sets {ε α β γ : Type} {name name' : String}
    {presence presence' : Presence} {r : Reader ε β} {r' : Reader ε γ} {set : β → α → α}
    {set' : γ → α → α} (h : ∀ v w a, set v (set' w a) = set' w (set v a)) :
    Field.Commutes ⟨name, presence, fun depth doc => (r depth doc).map set⟩
      ⟨name', presence', fun depth doc => (r' depth doc).map set'⟩ := by
  intro depth depth' d d' f f' hf hf' a
  obtain ⟨v, -, rfl⟩ := map_eq_ok_iff.1 hf
  obtain ⟨w, -, rfl⟩ := map_eq_ok_iff.1 hf'
  exact h v w a

end Json

theorem Script.stable_reader : Stable Script.reader :=
  stable_list (stable_understood _)

theorem Hotspot.stable_reader : Stable Hotspot.reader := by
  refine stable_record ?_ ?_
  · simp only [layout, List.forall_mem_cons]
    exact ⟨stable_string.map _, stable_single.map _, stable_single.map _, stable_single.map _,
      stable_single.map _, nofun⟩
  · simp only [layout, List.pairwise_cons, List.forall_mem_cons, List.not_mem_nil,
      false_implies, implies_true, List.Pairwise.nil, and_true]
    and_intros <;> exact Field.commutes_of_sets fun _ _ _ => rfl

theorem Scene.stable_reader : Stable Scene.reader := by
  refine stable_record ?_ ?_
  · simp only [layout, List.forall_mem_cons]
    exact ⟨stable_string.map _, (stable_nullable stable_string).map _,
      (stable_list Hotspot.stable_reader).map _, (stable_table Script.stable_reader).map _,
      (stable_nullable stable_string).map _, (stable_table Script.stable_reader).map _,
      (stable_nullable stable_string).map _, (stable_list stable_string).map _,
      stable_bool.map _, Script.stable_reader.map _, Script.stable_reader.map _,
      (stable_nullable Script.stable_reader).map _, nofun⟩
  · simp only [layout, List.pairwise_cons, List.forall_mem_cons, List.not_mem_nil,
      false_implies, implies_true, List.Pairwise.nil, and_true]
    and_intros <;> exact Field.commutes_of_sets fun _ _ _ => rfl

theorem Stage.stable_reader : Stable Stage.reader := by
  refine stable_record ?_ ?_
  · simp only [layout, List.forall_mem_cons]
    exact ⟨stable_string.map _, (stable_list Scene.stable_reader).map _,
      (stable_table (stable_list stable_string)).map _, Script.stable_reader.map _, nofun⟩
  · simp only [layout, List.pairwise_cons, List.forall_mem_cons, List.not_mem_nil,
      false_implies, implies_true, List.Pairwise.nil, and_true]
    and_intros <;> exact Field.commutes_of_sets fun _ _ _ => rfl

theorem Puzzle.stable_reader : Stable Puzzle.reader := by
  refine stable_record ?_ ?_
  · simp only [layout, List.forall_mem_cons]
    exact ⟨(stable_nullable stable_string).map _, (stable_nullable stable_string).map _,
      (stable_nullable (stable_table stable_string)).map _, (stable_list stable_string).map _,
      nofun⟩
  · simp only [layout, List.pairwise_cons, List.forall_mem_cons, List.not_mem_nil,
      false_implies, implies_true, List.Pairwise.nil, and_true]
    and_intros <;> exact Field.commutes_of_sets fun _ _ _ => rfl

theorem Parameters.stable_reader : Stable Parameters.reader := by
  refine stable_record ?_ ?_
  · simp only [layout, List.forall_mem_cons]
    exact ⟨stable_string.map _, stable_string.map _, stable_string.map _, stable_string.map _,
      stable_string.map _, Script.stable_reader.map _, Script.stable_reader.map _, nofun⟩
  · simp only [layout, List.pairwise_cons, List.forall_mem_cons, List.not_mem_nil,
      false_implies, implies_true, List.Pairwise.nil, and_true]
    and_intros <;> exact Field.commutes_of_sets fun _ _ _ => rfl

theorem World.stable_reader : Stable World.reader := by
  refine stable_record ?_ ?_
  · simp only [layout, List.forall_mem_cons]
    exact ⟨(stable_list Stage.stable_reader).map _, (stable_table Puzzle.stable_reader).map _,
      Parameters.stable_reader.map _, nofun⟩
  · simp only [layout, List.pairwise_cons, List.forall_mem_cons, List.not_mem_nil,
      false_implies, implies_true, List.Pairwise.nil, and_true]
    and_intros <;> exact Field.commutes_of_sets fun _ _ _ => rfl

/-- **The order of keys does not matter.**  Of two texts without repeated keys that differ only in
the order of members inside objects, both are refused or both are the same world, with the same
tables in the same order.  So whatever is done with the world, from whatever session, ends the same
way and leaves the same session. -/
theorem World.key_order_irrelevant {s t : String} (hkeys : (Doc.ofText s).1.NoRepeats)
    (horder : Doc.Reordered (Doc.ofText s).1 (Doc.ofText t).1) :
    (World.ofText s).toOption = (World.ofText t).toOption ∧
      ∀ (entries : World → List (Nat × Entry)) (session : Session),
        (World.ofText s).toOption.map (fun w => Session.driven (entries w) session) =
          (World.ofText t).toOption.map fun w => Session.driven (entries w) session := by
  have hworld : (World.ofText s).toOption = (World.ofText t).toOption :=
    World.stable_reader.toOption_eq hkeys horder depthLimit
  exact ⟨hworld, fun entries session => by rw [hworld]⟩

/-- A world with its keys in one order and in another one. -/
theorem World.key_order_irrelevant_garden :
    let stage : Json := .array [.object [("id", .string "garden"),
      ("audio", .object [("wind", .array []), ("rain", .array [.string "rain.ogg"])])]]
    let stage' : Json := .array [.object [
      ("audio", .object [("rain", .array [.string "rain.ogg"]), ("wind", .array [])]),
      ("id", .string "garden")]]
    let s := (Json.object [("stages", stage), ("puzzles", .object [])]).compress
    let t := (Json.object [("puzzles", .object []), ("stages", stage')]).compress
    (World.ofText s).toOption.isSome ∧ (World.ofText s).toOption = (World.ofText t).toOption := by
  intro stage stage' s t
  have hs : Doc.ofText s = (Doc.ofJson _, false) :=
    ofText_compress (by simp [stage, Exact, MembersExact, ItemsExact])
  have ht : Doc.ofText t = (Doc.ofJson _, false) :=
    ofText_compress (by simp [stage', Exact, MembersExact, ItemsExact])
  have hkeys : (Doc.ofText s).1.NoRepeats := by
    rw [hs]
    simp [stage, Doc.ofJson, Doc.ofMembers, Doc.ofItems, Doc.NoRepeats, Doc.NoRepeatsItems,
      Doc.NoRepeatsMembers, Doc.Differ]
  have haudio : Doc.Reordered
      (Doc.ofJson (.object [("wind", .array []), ("rain", .array [.string "rain.ogg"])]))
      (Doc.ofJson (.object [("rain", .array [.string "rain.ogg"]), ("wind", .array [])])) :=
    Doc.reordered_object (.swap _ _ _) (.cons ⟨rfl, .refl⟩ (.cons ⟨rfl, .refl⟩ .nil)) _
  have hstage : Doc.Reordered (Doc.ofJson stage) (Doc.ofJson stage') := by
    refine Doc.reordered_list (.cons ?_ .nil) _
    refine Doc.reordered_object (.swap _ _ _) ?_ _
    exact .cons ⟨rfl, haudio⟩ (.cons ⟨rfl, .refl⟩ .nil)
  have horder : Doc.Reordered (Doc.ofText s).1 (Doc.ofText t).1 := by
    rw [hs, ht]
    refine Doc.reordered_object (.swap _ _ _) ?_ _
    exact .cons ⟨rfl, .refl⟩ (.cons ⟨rfl, hstage⟩ .nil)
  have hread : (World.ofText s).toOption.isSome := by
    rw [World.ofText, first, hs]
    rfl
  exact ⟨hread, (World.key_order_irrelevant hkeys horder).1⟩

end Adventure
