import Adventure.Action.Reader
import Adventure.Proofs.Outcome
import Mathlib.Data.List.Forall2

/-!
# Unknown actions within a script

The scripts within a script are found in the same place of the value that it was read from, so that
a place leads from an action to the object that it was read from.  The tag of an action is the one
of its effect, unless no effect has the tag.  An object with such a tag may take the place of any
action, whatever else it holds: the script that is read then has an unrecognized action in this
place, and is the same elsewhere.

## Main definitions

* `Place`: where an action stands in a script, or in one of the scripts within it
* `Script.ofJson`: the script of a value
* `Script.at?`, `Script.put`: the action in a place, and the script with another action there
* `Json.actionAt?`, `Json.putAction`: the same for values

## Main results

* `Script.at?_put`, `Script.put_eq_self`: what is put in a place is there, and nothing else changes
* `Action.tag_of_effectOf`: the effect of a tag has this tag, unless none has
* `Script.ofJson_item`, `Action.ofJson_branch`: one step from a script or an action to what it was
  read from
* `Script.ofJson_place`: the same for a place
* `Script.unknown_tags_kept`: the tags of all actions, and what is read of an unknown one
-/

namespace Adventure

/-! ## Places -/

/-- A way from an action to a script within it: the one that it goes on with, or an alternative. -/
inductive Branch where
  | next
  | alternative (i : Nat)

/-- Where an action stands: at a position of a script, or within the action at the position. -/
inductive Place where
  | here (i : Nat)
  | within (i : Nat) (branch : Branch) (place : Place)

/-- Changing an item that is not changed changes nothing. -/
theorem modify_eq_of_getElem? {α : Type} {l : List α} {i : Nat} {a : α} {f : α → α}
    (ha : l[i]? = some a) (hf : f a = a) : l.modify i f = l := by
  induction l generalizing i with
  | nil => cases ha
  | cons b l ih =>
    cases i with
    | zero =>
      obtain rfl := Option.some.inj ha
      rw [List.modify_zero_cons, hf]
    | succ i => rw [List.modify_succ_cons, ih ha]

namespace Effect

/-- The script in a branch. -/
def branch? : Branch → Effect → Option Script
  | .next, .blockingText _ _ next | .next, .group next | .next, .delayed _ next => some next
  | .alternative i, .alternative _ scripts _ => scripts[i]?
  | _, _ => none

/-- The effect with another script in a branch. -/
def modifyBranch (f : Script → Script) : Branch → Effect → Effect
  | .next, .blockingText text button next => .blockingText text button (f next)
  | .next, .group next => .group (f next)
  | .next, .delayed delay next => .delayed delay (f next)
  | .alternative i, .alternative text scripts buttons =>
    .alternative text (scripts.modify i f) buttons
  | _, effect => effect

theorem branch?_modifyBranch (f : Script → Script) (branch : Branch) (effect : Effect) :
    (effect.modifyBranch f branch).branch? branch = (effect.branch? branch).map f := by
  cases branch with
  | next => cases effect <;> rfl
  | alternative i =>
    cases effect with
    | alternative text scripts buttons => simp [modifyBranch, branch?]
    | _ => rfl

theorem modifyBranch_eq_self {f : Script → Script} {branch : Branch} {effect : Effect} {s : Script}
    (hs : effect.branch? branch = some s) (hf : f s = s) :
    effect.modifyBranch f branch = effect := by
  cases branch with
  | next => cases effect <;> simp_all [modifyBranch, branch?]
  | alternative i =>
    cases effect with
    | alternative text scripts buttons => rw [modifyBranch, modify_eq_of_getElem? hs hf]
    | _ => rfl

end Effect

namespace Script

/-- The action in a place. -/
def at? : Place → Script → Option Action
  | .here i, script => script[i]?
  | .within i branch place, script => do
    let a ← script[i]?
    at? place (← a.effect.branch? branch)

/-- The script with another action in a place. -/
def put (new : Action) : Place → Script → Script
  | .here i, script => script.modify i fun _ => new
  | .within i branch place, script =>
    script.modify i fun a => { a with effect := a.effect.modifyBranch (put new place) branch }

/-- The action that was put in a place is there. -/
theorem at?_put {place : Place} {script : Script} {a : Action} (h : at? place script = some a)
    (new : Action) : at? place (put new place script) = some new := by
  induction place generalizing script with
  | here i => simp_all [at?, put]
  | within i branch place ih =>
    simp only [at?, Option.bind_eq_bind, Option.bind_eq_some_iff] at h
    obtain ⟨outer, houter, s, hs, ha⟩ := h
    simp [at?, put, houter, Effect.branch?_modifyBranch, hs, ih ha]

/-- Putting an action where it is changes nothing. -/
theorem put_eq_self {place : Place} {script : Script} {a : Action} (h : at? place script = some a) :
    put a place script = script := by
  induction place generalizing script with
  | here i => exact modify_eq_of_getElem? h rfl
  | within i branch place ih =>
    simp only [at?, Option.bind_eq_bind, Option.bind_eq_some_iff] at h
    obtain ⟨⟨tag, guard, effect⟩, houter, s, hs, ha⟩ := h
    refine modify_eq_of_getElem? houter ?_
    rw [Effect.modifyBranch_eq_self hs (ih ha)]

end Script

namespace Json

/-- The item at a position of a list. -/
def item? (i : Nat) : Json → Option Json
  | array items => items[i]?
  | _ => none

/-- The list with another item at a position. -/
def modifyItem (f : Json → Json) (i : Nat) : Json → Json
  | array items => array (items.modify i f)
  | value => value

/-- Members with another value for a key. -/
def modifyFind (f : Json → Json) (key : String) : Members → Members
  | [] => []
  | (k, v) :: ms => if k = key then (k, f v) :: ms else (k, v) :: modifyFind f key ms

/-- The object with another value for a key. -/
def modifyMember (f : Json → Json) (key : String) : Json → Json
  | object ms => object (modifyFind f key ms)
  | value => value

/-- What an action holds in a branch. -/
def branch? : Branch → Json → Option Json
  | .next, value => value.member? "next"
  | .alternative i, value => (value.member? "alternatives").bind (item? i)

/-- The action with something else in a branch. -/
def modifyBranch (f : Json → Json) : Branch → Json → Json
  | .next, value => value.modifyMember f "next"
  | .alternative i, value => value.modifyMember (modifyItem f i) "alternatives"

/-- What stands in the place of an action. -/
def actionAt? : Place → Json → Option Json
  | .here i, value => value.item? i
  | .within i branch place, value => do
    let action ← value.item? i
    actionAt? place (← action.branch? branch)

/-- The value with something else in the place of an action. -/
def putAction (new : Json) : Place → Json → Json
  | .here i, value => value.modifyItem (fun _ => new) i
  | .within i branch place, value => value.modifyItem (modifyBranch (putAction new place) branch) i

theorem find_modifyFind_self (f : Json → Json) (key : String) (ms : Members) :
    find key (modifyFind f key ms) = (find key ms).map f := by
  induction ms with
  | nil => rfl
  | cons m ms ih =>
    obtain ⟨k, v⟩ := m
    by_cases h : k = key
    · simp [modifyFind, find, h]
    · simp [modifyFind, find, h, ih]

theorem find_modifyFind_of_ne (f : Json → Json) {key name : String} (h : name ≠ key)
    (ms : Members) : find name (modifyFind f key ms) = find name ms := by
  induction ms with
  | nil => rfl
  | cons m ms ih =>
    obtain ⟨k, v⟩ := m
    by_cases hk : k = key
    · have hname : k ≠ name := fun hk' => h (hk'.symm.trans hk)
      simp [modifyFind, find, hk, hk ▸ hname]
    · simp [modifyFind, find, hk, ih]

end Json

/-! ## What is read -/

/-- The script of a value. -/
def Script.ofJson : Json → Except (Json.Problem Defect) Script
  | .array items => Action.ofItems items
  | value => Members.mismatch "a sequence" value

/-- The scripts of a value. -/
def Script.listOfJson : Json → Except (Json.Problem Defect) (List Script)
  | .array items => Action.ofLists items
  | value => Members.mismatch "a sequence" value

theorem mapM_eq_ok_iff {ε α β : Type} {f : α → Except ε β} {l : List α} {m : List β} :
    l.mapM f = .ok m ↔ List.Forall₂ (fun a b => f a = .ok b) l m := by
  induction l generalizing m with
  | nil => simp [List.forall₂_nil_left_iff, pure, Except.pure, eq_comm]
  | cons a l ih =>
    rw [List.mapM_cons, bind_eq_ok_iff, List.forall₂_cons_left_iff]
    constructor
    · rintro ⟨b, hb, h⟩
      obtain ⟨m', hm, h⟩ := bind_eq_ok_iff.1 h
      exact ⟨b, m', hb, ih.1 hm, (Except.ok.inj h).symm⟩
    · rintro ⟨b, m', hb, hm, rfl⟩
      exact ⟨b, hb, bind_eq_ok_iff.2 ⟨m', ih.2 hm, rfl⟩⟩

namespace Action

theorem ofItems_eq_mapM (items : List Json) :
    ofItems items = items.mapM fun v => (ofJson v).mapError .refused := by
  induction items with
  | nil => rfl
  | cons item items ih =>
    rw [ofItems, ih, List.mapM_cons]

theorem ofLists_eq_mapM (items : List Json) : ofLists items = items.mapM Script.ofJson := by
  induction items with
  | nil => rfl
  | cons item items ih =>
    rw [List.mapM_cons, ← ih]
    cases item <;> rfl

theorem ofItems_eq_ok_iff {items : List Json} {script : Script} :
    ofItems items = .ok script ↔ List.Forall₂ (fun v a => ofJson v = .ok a) items script := by
  simp only [ofItems_eq_mapM, mapM_eq_ok_iff, mapError_eq_ok_iff]

theorem scriptAt_eq (name : String) (ms : Members) :
    scriptAt name ms = match Json.find name ms with
      | none => .ok none
      | some value => (Script.ofJson value).map some := by
  induction ms with
  | nil => rfl
  | cons m ms ih =>
    obtain ⟨k, v⟩ := m
    by_cases h : k = name
    · rw [Json.find, if_pos h]
      cases v <;> exact if_pos h
    · rw [Json.find, if_neg h, ← ih]
      cases v <;> exact if_neg h

theorem scriptsAt_eq (name : String) (ms : Members) :
    scriptsAt name ms = match Json.find name ms with
      | none => .ok none
      | some value => (Script.listOfJson value).map some := by
  induction ms with
  | nil => rfl
  | cons m ms ih =>
    obtain ⟨k, v⟩ := m
    by_cases h : k = name
    · rw [Json.find, if_pos h]
      cases v <;> exact if_pos h
    · rw [Json.find, if_neg h, ← ih]
      cases v <;> exact if_neg h

theorem scriptAt_eq_some_iff {name : String} {ms : Members} {s : Script} :
    scriptAt name ms = .ok (some s) ↔
      ∃ value, Json.find name ms = some value ∧ Script.ofJson value = .ok s := by
  rw [scriptAt_eq]
  cases Json.find name ms <;> simp [map_eq_ok_iff]

theorem scriptsAt_eq_some_iff {name : String} {ms : Members} {s : List Script} :
    scriptsAt name ms = .ok (some s) ↔
      ∃ items, Json.find name ms = some (.array items) ∧
        List.Forall₂ (fun v s => Script.ofJson v = .ok s) items s := by
  rw [scriptsAt_eq]
  cases h : Json.find name ms with
  | none => simp
  | some value =>
    cases value <;> simp [map_eq_ok_iff, Script.listOfJson, ofLists_eq_mapM, mapM_eq_ok_iff,
      Members.mismatch]

/-- **The effect of a tag** has this tag, unless no effect has it. -/
theorem tag_of_effectOf {tag : String} {ms : Members}
    {script : String → Except (Json.Problem Defect) (Option Script)}
    {scripts : String → Except (Json.Problem Defect) (Option (List Script))} {effect : Effect}
    (h : effectOf tag ms script scripts = .ok effect) :
    tag ∈ Effect.knownTags ∧ effect.tag = tag ∨
      tag ∉ Effect.knownTags ∧ effect = .unrecognized := by
  unfold effectOf at h
  dsimp only at h
  split at h
  case h_18 => exact .inr ⟨by simp_all [Effect.knownTags], (Except.ok.inj h).symm⟩
  -- The members of an effect are read one after the other, and then it is made of them.
  all_goals
    refine .inl ⟨by decide, ?_⟩
    repeat obtain ⟨_, -, h⟩ := bind_eq_ok_iff.1 h
    exact congrArg Effect.tag (Except.ok.inj h).symm

theorem ofJson_eq_ok_iff {value : Json} {a : Action} :
    ofJson value = .ok a ↔ ∃ ms, value = .object ms ∧ Json.find "type" ms = some (.string a.tag) ∧
      guardOf ms = .ok a.guard ∧
        effectOf a.tag ms (fun name => scriptAt name ms) (fun name => scriptsAt name ms) =
          .ok a.effect := by
  constructor
  · intro h
    unfold ofJson at h
    split at h
    · next ms =>
      split at h
      · next tag htag =>
        obtain ⟨guard, hguard, h⟩ := bind_eq_ok_iff.1 h
        obtain ⟨effect, heffect, h⟩ := bind_eq_ok_iff.1 h
        obtain rfl := Except.ok.inj h
        exact ⟨ms, rfl, htag, hguard, mapError_eq_ok_iff.1 heffect⟩
      · cases h
    · cases h
  · obtain ⟨tag, guard, effect⟩ := a
    rintro ⟨ms, rfl, htag, hguard, heffect⟩
    simp only [ofJson, htag, hguard, heffect, mapError_ok]
    rfl

/-- An object is an unrecognized action if no effect has its tag, whatever else it holds. -/
theorem ofJson_of_not_mem {ms : Members} {tag : String} {guard : Option Guard}
    (htag : Json.find "type" ms = some (.string tag)) (hunknown : tag ∉ Effect.knownTags)
    (hguard : guardOf ms = .ok guard) :
    ofJson (.object ms) = .ok ⟨tag, guard, .unrecognized⟩ := by
  refine ofJson_eq_ok_iff.2 ⟨ms, rfl, htag, hguard, ?_⟩
  unfold effectOf
  dsimp only
  split
  case h_18 => rfl
  all_goals exact absurd (by decide) hunknown

/-! ## Effects that hold scripts -/

section Effects

variable {ms : Members} {script : String → Except (Json.Problem Defect) (Option Script)}
  {scripts : String → Except (Json.Problem Defect) (Option (List Script))}

theorem require_eq_ok_iff {ε α : Type} {name : String} {o : Option α} {a : α} :
    Members.require (ε := ε) name o = .ok a ↔ o = some a := by
  cases o <;> simp [Members.require]

theorem effectOf_blockingText {text : String} {button : Option String} {next : Script} :
    effectOf "blocking_text" ms script scripts = .ok (.blockingText text button next) ↔
      (∃ b, ms.at? (ε := Defect) "button" (Members.nullable Members.string) = .ok b ∧
          b.getD none = button) ∧
        (∃ s, script "next" = .ok s ∧ s.getD [] = next) ∧
          ms.only (ε := Defect) "text" Members.string = .ok text := by
  simp only [effectOf, bind_eq_ok_iff, pure, Except.pure, Except.ok.injEq,
    Effect.blockingText.injEq]
  constructor
  · rintro ⟨b, hb, s, hs, t, ht, rfl, rfl, rfl⟩
    exact ⟨⟨b, hb, rfl⟩, ⟨s, hs, rfl⟩, ht⟩
  · rintro ⟨⟨b, hb, rfl⟩, ⟨s, hs, rfl⟩, ht⟩
    exact ⟨b, hb, s, hs, _, ht, rfl, rfl, rfl⟩

theorem effectOf_group {next : Script} :
    effectOf "grouped_actions" ms script scripts = .ok (.group next) ↔
      script "next" = .ok (some next) := by
  simp [effectOf, bind_eq_ok_iff, pure, Except.pure, require_eq_ok_iff]

theorem effectOf_delayed {delay : Double} {next : Script} :
    effectOf "delayed_actions" ms script scripts = .ok (.delayed delay next) ↔
      ms.at? (ε := Defect) "delay" Members.double = .ok (some delay) ∧
        script "next" = .ok (some next) := by
  simp [effectOf, bind_eq_ok_iff, pure, Except.pure, require_eq_ok_iff, and_comm]

theorem effectOf_alternative {text : String} {next : List Script} {buttons : List String} :
    effectOf "alternative" ms script scripts = .ok (.alternative text next buttons) ↔
      scripts "alternatives" = .ok (some next) ∧
        ms.at? (ε := Defect) "buttons" (Members.list Members.string) = .ok (some buttons) ∧
          ms.only (ε := Defect) "text" Members.string = .ok text := by
  simp only [effectOf, bind_eq_ok_iff, pure, Except.pure, Except.ok.injEq,
    Effect.alternative.injEq, require_eq_ok_iff]
  constructor
  · rintro ⟨_, hnext, _, hbuttons, t, ht, _, rfl, _, rfl, rfl, rfl, rfl⟩
    exact ⟨hnext, hbuttons, ht⟩
  · rintro ⟨hnext, hbuttons, ht⟩
    exact ⟨_, hnext, _, hbuttons, _, ht, _, rfl, _, rfl, rfl, rfl, rfl⟩

end Effects

/-! ## Scripts within an action -/

section Branches

variable {ms : Members} {key name : String} (f : Json → Json)

theorem at?_modifyFind {ε α : Type} {read : Json → Except (Json.Problem ε) α} (h : name ≠ key) :
    Members.at? (Json.modifyFind f key ms) name read = Members.at? ms name read := by
  rw [Members.at?, Json.find_modifyFind_of_ne f h]
  rfl

theorem only_modifyFind {ε α : Type} {read : Json → Except (Json.Problem ε) α} (h : name ≠ key) :
    Members.only (Json.modifyFind f key ms) name read = Members.only ms name read := by
  rw [Members.only, at?_modifyFind f h]
  rfl

theorem guardOf_modifyFind (h : "guard" ≠ key) :
    guardOf (Json.modifyFind f key ms) = guardOf ms := by
  rw [guardOf, Json.find_modifyFind_of_ne f h]
  rfl

theorem scriptAt_modifyFind {value : Json} {s : Script} (hfind : Json.find key ms = some value)
    (h : Script.ofJson (f value) = .ok s) :
    scriptAt key (Json.modifyFind f key ms) = .ok (some s) :=
  scriptAt_eq_some_iff.2 ⟨f value, by rw [Json.find_modifyFind_self, hfind, Option.map_some], h⟩

theorem scriptsAt_modifyFind {value : Json} {items : List Json} {s : List Script}
    (hfind : Json.find key ms = some value) (hvalue : f value = .array items)
    (h : List.Forall₂ (fun v s => Script.ofJson v = .ok s) items s) :
    scriptsAt key (Json.modifyFind f key ms) = .ok (some s) :=
  scriptsAt_eq_some_iff.2
    ⟨items, by rw [Json.find_modifyFind_self, hfind, Option.map_some, hvalue], h⟩

/-- A member that is neither the tag nor the guard is only read with the effect. -/
theorem ofJson_modifyFind {tag : String} {guard : Option Guard} {effect : Effect}
    (htag : Json.find "type" ms = some (.string tag)) (hguard : guardOf ms = .ok guard)
    (hkey : "type" ≠ key ∧ "guard" ≠ key)
    (heffect : effectOf tag (Json.modifyFind f key ms)
      (fun name => scriptAt name (Json.modifyFind f key ms))
      (fun name => scriptsAt name (Json.modifyFind f key ms)) = .ok effect) :
    ofJson (.object (Json.modifyFind f key ms)) = .ok ⟨tag, guard, effect⟩ :=
  ofJson_eq_ok_iff.2 ⟨_, rfl, (Json.find_modifyFind_of_ne f hkey.1 ms).trans htag,
    (guardOf_modifyFind f hkey.2).trans hguard, heffect⟩

end Branches

end Action

/-- The partner of an item of the second list, and what keeps the lists partners. -/
theorem exists_of_forall₂ {α β : Type} {R : α → β → Prop} {l : List α} {m : List β}
    (h : List.Forall₂ R l m) {i : Nat} {b : β} (hb : m[i]? = some b) :
    ∃ a, l[i]? = some a ∧ R a b ∧ ∀ f g, R (f a) (g b) →
      List.Forall₂ R (l.modify i f) (m.modify i g) := by
  induction h generalizing i with
  | nil => cases hb
  | cons hab hl ih =>
    cases i with
    | zero =>
      obtain rfl := Option.some.inj hb
      exact ⟨_, rfl, hab, fun f g hfg => .cons hfg hl⟩
    | succ i =>
      obtain ⟨a, ha, haR, hmodify⟩ := ih hb
      exact ⟨a, ha, haR, fun f g hfg => .cons hab (hmodify f g hfg)⟩

/-- **The actions of a script** are read from the items of the value, each on its own. -/
theorem Script.ofJson_item {value : Json} {script : Script} (h : ofJson value = .ok script)
    {i : Nat} {a : Action} (ha : script[i]? = some a) :
    ∃ item, value.item? i = some item ∧ Action.ofJson item = .ok a ∧
      ∀ f g, Action.ofJson (f item) = .ok (g a) →
        ofJson (value.modifyItem f i) = .ok (script.modify i g) := by
  cases value with
  | array items =>
    obtain ⟨item, hitem, haction, hmodify⟩ := exists_of_forall₂ (Action.ofItems_eq_ok_iff.1 h) ha
    exact ⟨item, hitem, haction, fun f g hfg => Action.ofItems_eq_ok_iff.2 (hmodify f g hfg)⟩
  | _ => cases h

/-- **The scripts within an action** are read from what the value holds in the branches, each on
its own. -/
theorem Action.ofJson_branch {value : Json} {a : Action} (h : ofJson value = .ok a)
    {branch : Branch} {s : Script} (hs : a.effect.branch? branch = some s) (hne : s ≠ []) :
    ∃ inner, value.branch? branch = some inner ∧ Script.ofJson inner = .ok s ∧
      ∀ f g, Script.ofJson (f inner) = .ok (g s) →
        ofJson (value.modifyBranch f branch) =
          .ok { a with effect := a.effect.modifyBranch g branch } := by
  obtain ⟨ms, rfl, htag, hguard, heffect⟩ := ofJson_eq_ok_iff.1 h
  obtain ⟨tag, guard, effect⟩ := a
  dsimp only at hs htag hguard heffect
  obtain ⟨-, rfl⟩ | ⟨-, rfl⟩ := tag_of_effectOf heffect
  · cases branch with
    | next =>
      cases effect with
      | blockingText text button next =>
        obtain rfl := Option.some.inj hs
        obtain ⟨⟨b, hbutton, rfl⟩, ⟨o, hnext, ho⟩, htext⟩ := effectOf_blockingText.1 heffect
        -- A script that is left out is empty.
        obtain rfl : o = some next := by
          cases o with
          | none => exact absurd ho.symm hne
          | some => exact congrArg some ho
        obtain ⟨inner, hfind, hinner⟩ := scriptAt_eq_some_iff.1 hnext
        refine ⟨inner, hfind, hinner, fun f g hfg =>
          ofJson_modifyFind f htag hguard (by decide) (effectOf_blockingText.2 ⟨?_, ?_, ?_⟩)⟩
        · exact ⟨b, (at?_modifyFind f (by decide)).trans hbutton, rfl⟩
        · exact ⟨_, scriptAt_modifyFind f hfind hfg, rfl⟩
        · exact (only_modifyFind f (by decide)).trans htext
      | group next =>
        obtain rfl := Option.some.inj hs
        obtain ⟨inner, hfind, hinner⟩ := scriptAt_eq_some_iff.1 (effectOf_group.1 heffect)
        exact ⟨inner, hfind, hinner, fun f g hfg =>
          ofJson_modifyFind f htag hguard (by decide)
            (effectOf_group.2 (scriptAt_modifyFind f hfind hfg))⟩
      | delayed delay next =>
        obtain rfl := Option.some.inj hs
        obtain ⟨hdelay, hnext⟩ := effectOf_delayed.1 heffect
        obtain ⟨inner, hfind, hinner⟩ := scriptAt_eq_some_iff.1 hnext
        refine ⟨inner, hfind, hinner, fun f g hfg =>
          ofJson_modifyFind f htag hguard (by decide) (effectOf_delayed.2 ⟨?_, ?_⟩)⟩
        · exact (at?_modifyFind f (by decide)).trans hdelay
        · exact scriptAt_modifyFind f hfind hfg
      | _ => cases hs
    | alternative i =>
      cases effect with
      | alternative text scripts buttons =>
        obtain ⟨hscripts, hbuttons, htext⟩ := effectOf_alternative.1 heffect
        obtain ⟨items, hfind, hall⟩ := scriptsAt_eq_some_iff.1 hscripts
        obtain ⟨inner, hitem, hinner, hmodify⟩ := exists_of_forall₂ hall hs
        have hbranch : (Json.object ms).branch? (.alternative i) = some inner := by
          rw [Json.branch?, Json.member?, hfind]
          exact hitem
        refine ⟨inner, hbranch, hinner, fun f g hfg => ofJson_modifyFind _ htag hguard (by decide)
          (effectOf_alternative.2 ⟨?_, ?_, ?_⟩)⟩
        · exact scriptsAt_modifyFind _ hfind rfl (hmodify f g hfg)
        · exact (at?_modifyFind _ (by decide)).trans hbuttons
        · exact (only_modifyFind _ (by decide)).trans htext
      | _ => cases hs
  · -- An unrecognized action holds no scripts.
    cases branch <;> cases hs

/-! ## Places -/

theorem Script.ne_nil_of_at? {place : Place} {script : Script} {a : Action}
    (h : Script.at? place script = some a) : script ≠ [] := by
  rintro rfl
  cases place <;> simp [at?] at h

/-- **A place leads from an action to what it was read from.**  Whatever is read as another action
may stand there instead. -/
theorem Script.ofJson_place {value : Json} {script : Script} (h : ofJson value = .ok script)
    {place : Place} {a : Action} (ha : Script.at? place script = some a) :
    ∃ inner, value.actionAt? place = some inner ∧ Action.ofJson inner = .ok a ∧
      ∀ new b, Action.ofJson new = .ok b →
        ofJson (Json.putAction new place value) = .ok (Script.put b place script) := by
  -- Each step of the place is an item of a script and then a branch of the action there.
  induction place generalizing value script with
  | here i =>
    obtain ⟨inner, hitem, haction, hmodify⟩ := ofJson_item h ha
    exact ⟨inner, hitem, haction, fun new b hb => hmodify (fun _ => new) (fun _ => b) hb⟩
  | within i branch place ih =>
    simp only [at?, Option.bind_eq_bind, Option.bind_eq_some_iff] at ha
    obtain ⟨outer, houter, s, hs, ha⟩ := ha
    obtain ⟨item, hitem, haction, hmodify⟩ := ofJson_item h houter
    obtain ⟨inner, hinner, hscript, hbranch⟩ :=
      Action.ofJson_branch haction hs (ne_nil_of_at? ha)
    obtain ⟨w, hw, hread, hput⟩ := ih hscript ha
    refine ⟨w, ?_, hread, fun new b hb => ?_⟩
    · simp only [Json.actionAt?, hitem, hinner, Option.bind_eq_bind, Option.bind_some, hw]
    · exact hmodify (Json.modifyBranch _ branch) (fun a => { a with effect := _ })
        (hbranch _ _ (hput new b hb))

/-- **Unknown actions break no script, and known ones keep their names.**  In every place of a
script, also within nested scripts, an action has the tag of the object that it was read from; it is
unrecognized if and only if this is no known tag, and has the effect of the tag otherwise.  An
object with a tag that is not known may take its place, whatever else the object holds, as long as
its guard is read, if it has one: the script that is read is the same but for an unrecognized action
in this place. -/
theorem Script.unknown_tags_kept {value : Json} {script : Script}
    (h : Script.ofJson value = .ok script) {place : Place} {a : Action}
    (ha : Script.at? place script = some a) :
    (∃ ms, value.actionAt? place = some (.object ms) ∧
        Json.find "type" ms = some (.string a.tag)) ∧
      (a.effect = .unrecognized ↔ a.tag ∉ Effect.knownTags) ∧
      (a.tag ∈ Effect.knownTags → a.effect.tag = a.tag) ∧
      ∀ ms tag guard, Json.find "type" ms = some (.string tag) → tag ∉ Effect.knownTags →
        Action.guardOf ms = .ok guard →
          Script.ofJson (Json.putAction (.object ms) place value) =
            .ok (Script.put ⟨tag, guard, .unrecognized⟩ place script) := by
  obtain ⟨inner, hplace, haction, hput⟩ := ofJson_place h ha
  obtain ⟨ms, rfl, htag, -, heffect⟩ := Action.ofJson_eq_ok_iff.1 haction
  have hname := Action.tag_of_effectOf heffect
  -- The unrecognized effect has a tag too, which no known effect shares.
  have hunknown : "unrecognized" ∉ Effect.knownTags := by decide
  refine ⟨⟨ms, hplace, htag⟩, ?_, ?_, fun ms tag guard htag hnew hguard => ?_⟩
  · rcases hname with ⟨hmem, heq⟩ | ⟨hmem, heq⟩
    · have hne : a.effect ≠ .unrecognized := by
        intro hun
        rw [← heq, hun] at hmem
        exact hunknown hmem
      exact ⟨fun hun => absurd hun hne, fun hnot => absurd hmem hnot⟩
    · exact ⟨fun _ => hmem, fun _ => heq⟩
  · intro hmem
    exact (hname.resolve_right fun hnot => hnot.1 hmem).2
  · exact hput _ _ (Action.ofJson_of_not_mem htag hnew hguard)

/-- An action in an alternative gives way to an unknown one. -/
theorem Script.unknown_tags_kept_alternative :
    let value : Json := .array [.object [("type", .string "alternative"), ("text", .string "Go?"),
      ("alternatives", .array [.array [],
        .array [.object [("type", .string "redirect"), ("url", .string "/end")]]]),
      ("buttons", .array [.string "No", .string "Yes"])]]
    let unknown : Json := .object [("type", .string "summon"), ("size", .string "huge")]
    let script (a : Action) : Script :=
      [⟨"alternative", none, .alternative "Go?" [[], [a]] ["No", "Yes"]⟩]
    Script.ofJson value = .ok (script (.new (.redirect "/end"))) ∧
      Script.ofJson (Json.putAction unknown (.within 0 (.alternative 1) (.here 0)) value) =
        .ok (script ⟨"summon", none, .unrecognized⟩) := by
  intro value unknown script
  have hread : Script.ofJson value = .ok (script (.new (.redirect "/end"))) := rfl
  have hplace : Script.at? (.within 0 (.alternative 1) (.here 0))
      (script (.new (.redirect "/end"))) = some (.new (.redirect "/end")) := rfl
  have hkept := unknown_tags_kept hread hplace
  exact ⟨hread, hkept.2.2.2 _ "summon" none rfl (by decide) rfl⟩

end Adventure
