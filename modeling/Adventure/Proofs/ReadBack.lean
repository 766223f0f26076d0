import Adventure.Json.Reader
import Adventure.Json.Writer
import Mathlib.Data.List.TakeWhile

/-!
# Written documents are read back

The compact text of a value is cut into the tokens of the value, and these build the tree of the
value.  Strings come back whatever they hold, and integers if they fit 64 bits, with a sign for
negative ones.  Doubles are left out: their text need not be read as the same double.

## Main definitions

* `Json.Piece.written`: how a string writes a character
* `Json.Exact`: a value holds no double, and no integer that does not fit
* `Json.tokens`: the tokens of a value

## Main results

* `Json.scanString_escape`, `Json.value?_digits`: strings and integers are read back
* `Json.scan_chars`: the text of a value is cut into its tokens
* `Json.run_tokens`: the tokens of a value build its tree
* `Json.whole_compress`: what is read of the text of a value is what is read of the value
-/

namespace Adventure.Json

open Text (digitValue digitValue? digitValue?_digitChar)

/-! ## Strings -/

/-- How a string writes a character. -/
def Piece.written (c : Char) : Piece :=
  if c ∈ ['"', '\\', '\n', '\r', '\t', '\x08', '\x0c'] then .short c
  else if c.toNat < 0x20 then .unit c.toNat
  else .plain c

theorem fourDigits?_control {n : Nat} (h : n < 0x20) :
    fourDigits? '0' '0' (Nat.digitChar (n / 16)) (Nat.digitChar (n % 16)) = some n := by
  have hhigh := digitValue?_digitChar (n / 16) (by omega)
  have hlow := digitValue?_digitChar (n % 16) (by omega)
  have hzero : digitValue? '0' = some 0 := by decide
  simp only [fourDigits?, hhigh, hlow, hzero, Option.bind_eq_bind, Option.bind_some,
    Option.pure_def, Option.some.injEq]
  omega

/-- A character that was written is one part of the string. -/
theorem scanString_escape (c : Char) (rest : List Char) :
    scanString (escape c ++ rest) =
      (Piece.written c :: (scanString rest).1, (scanString rest).2) := by
  unfold escape
  split_ifs with hquote hslash hline hreturn htab hback hfeed hcontrol
  · subst hquote; rfl
  · subst hslash; rfl
  · subst hline; rfl
  · subst hreturn; rfl
  · subst htab; rfl
  · subst hback; rfl
  · subst hfeed; rfl
  · have hwritten : Piece.written c = .unit c.toNat := by
      simp [Piece.written, hquote, hslash, hline, hreturn, htab, hback, hfeed, hcontrol]
    simp only [List.cons_append, List.nil_append, scanString, fourDigits?_control hcontrol,
      hwritten]
  · have hwritten : Piece.written c = .plain c := by
      simp [Piece.written, hquote, hslash, hline, hreturn, htab, hback, hfeed, hcontrol]
    rw [List.singleton_append, scanString, hwritten]
    · rw [if_neg hcontrol]
    -- The character is none of those that mean something in a string.
    all_goals
      intros
      contradiction

/-- What was written for a character stands for it. -/
theorem joinPieces_written (ending : StringEnd) (c : Char) (rest : List Piece) :
    joinPieces ending (Piece.written c :: rest) = (joinPieces ending rest).map (c :: ·) := by
  unfold Piece.written
  split_ifs with hshort hcontrol
  · rfl
  · have hclose : closesPair c.toNat = false := by simp [closesPair]; omega
    have hopen : opensPair c.toNat = false := by simp [opensPair]; omega
    rw [joinPieces.eq_def]
    dsimp only
    rw [hclose, hopen, if_neg Bool.false_ne_true, if_neg Bool.false_ne_true, Char.ofNat_toNat]
  · rfl

/-- **A string is read back.** -/
theorem scanString_quoted (cs rest : List Char) :
    scanString (cs.flatMap escape ++ '"' :: rest) = (cs.map Piece.written, .closed, rest) := by
  induction cs with
  | nil => rfl
  | cons c cs ih => rw [List.flatMap_cons, List.append_assoc, scanString_escape, ih, List.map_cons]

theorem joinPieces_map_written (cs : List Char) :
    joinPieces .closed (cs.map Piece.written) = .ok cs := by
  induction cs with
  | nil => rfl
  | cons c cs ih =>
    rw [List.map_cons, joinPieces_written, ih]
    rfl

theorem next_quoted (s : String) (rest : List Char) :
    Token.next '"' (s.toList.flatMap escape ++ '"' :: rest) = (.string (.ok s), rest) := by
  simp only [Token.next, scanString_quoted, Token.ofPieces, joinPieces_map_written,
    StringEnd.fault?]
  show (Token.string (.ok (String.ofList s.toList)), rest) = _
  rw [String.ofList_toList]

/-! ## Integers -/

/-- The characters that do not go on a number. -/
def Ends (rest : List Char) : Prop :=
  ∀ c ∈ rest.head?, c.isDigit = false ∧ c ≠ '.' ∧ c ≠ 'e' ∧ c ≠ 'E'

theorem digitValue_of_isDigit {c : Char} (h : c.isDigit = true) :
    digitValue c = c.toNat - '0'.toNat := by
  simp only [Char.isDigit, Bool.and_eq_true, decide_eq_true_eq, ge_iff_le] at h
  rw [digitValue, digitValue?, if_pos]
  · rfl
  · exact h

theorem le_ofDigitChars (n : Nat) (ds : List Char) : n ≤ Nat.ofDigitChars 10 ds n := by
  induction ds generalizing n with
  | nil => exact le_rfl
  | cons c ds ih =>
    rw [Nat.ofDigitChars_cons]
    exact le_trans (by omega) (ih _)

/-- Digits are all read if their number fits. -/
theorem accumulate_of_le {ds : List Char} {n : Nat} (hds : ∀ c ∈ ds, c.isDigit = true)
    (h : Nat.ofDigitChars 10 ds n ≤ maxNat) :
    accumulate n ds = (Nat.ofDigitChars 10 ds n, []) := by
  induction ds generalizing n with
  | nil => rfl
  | cons c ds ih =>
    rw [List.forall_mem_cons] at hds
    have hvalue : n * 10 + digitValue c = 10 * n + (c.toNat - '0'.toNat) := by
      rw [digitValue_of_isDigit hds.1, Nat.mul_comm]
    rw [Nat.ofDigitChars_cons] at h ⊢
    rw [accumulate, hvalue, if_neg (Nat.not_lt.2 ((le_ofDigitChars _ _).trans h)), ih hds.2 h]

theorem spanDigits_append {ds rest : List Char} (hds : ∀ c ∈ ds, c.isDigit = true)
    (hrest : Ends rest) : spanDigits (ds ++ rest) = (ds, rest) := by
  have hstop : rest.takeWhile Char.isDigit = [] ∧ rest.dropWhile Char.isDigit = rest := by
    cases rest with
    | nil => exact ⟨rfl, rfl⟩
    | cons c rest =>
      have hc := (hrest c rfl).1
      simp [hc]
  rw [spanDigits, List.takeWhile_append_of_pos hds, List.dropWhile_append_of_pos hds, hstop.1,
    hstop.2, List.append_nil]

theorem isDigit_of_mem {n : Nat} {c : Char} (h : c ∈ Nat.toDigits 10 n) : c.isDigit = true :=
  Nat.isDigit_of_mem_toDigits (by decide) (by decide) h

/-- Only zero is written with a zero in front. -/
theorem exists_toDigits {n : Nat} (hn : 0 < n) :
    ∃ d ds, Nat.toDigits 10 n = d :: ds ∧ d ≠ '0' := by
  induction n using Nat.strong_induction_on with
  | h n ih =>
    rcases Nat.lt_or_ge n 10 with hsmall | hlarge
    · rw [Nat.toDigits_of_lt_base hsmall]
      refine ⟨_, [], rfl, ?_⟩
      have hdigits : ∀ d < 10, 0 < d → Nat.digitChar d ≠ '0' := by decide
      exact hdigits n hsmall hn
    · obtain ⟨d, ds, hdigits, hd⟩ := ih (n / 10) (by omega) (by omega)
      rw [Nat.toDigits_of_base_le (by decide) hlarge, hdigits]
      exact ⟨d, _, rfl, hd⟩

theorem scanWhole_digits (n : Nat) {rest : List Char} (hrest : Ends rest) :
    scanWhole (Nat.toDigits 10 n ++ rest) = .ok (Nat.toDigits 10 n, rest) := by
  rcases Nat.eq_zero_or_pos n with rfl | hn
  · cases rest with
    | nil => rfl
    | cons c rest =>
      have hc := (hrest c rfl).1
      show scanWhole ('0' :: c :: rest) = _
      rw [scanWhole, hc]
      rfl
  · obtain ⟨d, ds, hdigits, hd⟩ := exists_toDigits hn
    have hall : ∀ c ∈ d :: ds, c.isDigit = true := fun c hc => isDigit_of_mem (hdigits ▸ hc)
    rw [hdigits, List.cons_append, scanWhole, if_pos (hall d (.head _)), ← List.cons_append,
      spanDigits_append hall hrest]
    intro c tail h
    exact absurd h hd

theorem scanFraction_of_ends {rest : List Char} (hrest : Ends rest) :
    scanFraction rest = .ok (none, rest) := by
  cases rest with
  | nil => rfl
  | cons c rest =>
    have hc := (hrest c rfl).2.1
    rw [scanFraction]
    intro tail h
    exact hc (List.cons.inj h).1

theorem scanExponent_of_ends {rest : List Char} (hrest : Ends rest) :
    scanExponent rest = .ok (none, rest) := by
  cases rest with
  | nil => rfl
  | cons c rest =>
    have hc := (hrest c rfl).2.2
    rw [scanExponent, if_neg (not_or.2 hc)]

theorem scanMinus_digits (negative : Bool) (n : Nat) (rest : List Char) :
    scanMinus ((if negative then ['-'] else []) ++ Nat.toDigits 10 n ++ rest) =
      (negative, Nat.toDigits 10 n ++ rest) := by
  cases negative with
  | true => rfl
  | false =>
    obtain ⟨d, ds, hdigits⟩ := List.exists_cons_of_ne_nil (Nat.toDigits_ne_nil (n := n) (b := 10))
    have hd : d.isDigit = true := isDigit_of_mem (n := n) (hdigits ▸ List.mem_cons_self)
    rw [hdigits]
    show scanMinus (d :: (ds ++ rest)) = _
    rw [scanMinus]
    · rfl
    · rintro tail h
      obtain ⟨rfl, -⟩ := List.cons.inj h
      cases hd

/-- The text of an integer is scanned up to its end. -/
theorem scanNumber_digits (negative : Bool) (n : Nat) {rest : List Char} (hrest : Ends rest) :
    scanNumber ((if negative then ['-'] else []) ++ Nat.toDigits 10 n ++ rest) =
      .ok (⟨negative, Nat.toDigits 10 n, none, none⟩, rest) := by
  simp only [scanNumber, scanMinus_digits, scanWhole_digits n hrest, scanFraction_of_ends hrest,
    scanExponent_of_ends hrest, bind, Except.bind, pure, Except.pure]

/-- Whether an integer is written as digits alone: it fits 64 bits, with a sign if it is
negative. -/
def Fits (n : Int) : Prop := minInt ≤ n ∧ n ≤ maxNat

/-- The digits of an integer, behind a sign if it is negative. -/
theorem text_int (n : Int) :
    (Number.int n).text =
      (if decide (n < 0) then ['-'] else []) ++ Nat.toDigits 10 n.natAbs := by
  cases n with
  | ofNat m =>
    show (toString m).toList = _
    rw [Nat.toString_eq_ofList_toDigits, String.toList_ofList]
    rfl
  | negSucc m =>
    show ("-" ++ toString (m + 1)).toList = _
    rw [Nat.toString_eq_ofList_toDigits, if_pos (decide_eq_true (Int.negSucc_lt_zero m))]
    simp only [String.toList_append, String.toList_ofList]
    rfl

theorem exists_text_int (n : Int) : ∃ c cs, (Number.int n).text = c :: cs := by
  refine List.exists_cons_of_ne_nil ?_
  rw [text_int]
  exact List.append_ne_nil_of_right_ne_nil _ Nat.toDigits_ne_nil

/-- **An integer is read back** if it fits. -/
theorem value?_digits {n : Int} (h : Fits n) :
    NumberText.value? ⟨decide (n < 0), Nat.toDigits 10 n.natAbs, none, none⟩ = some (.int n) := by
  obtain ⟨hlow, hhigh⟩ := h
  have hfits : n.natAbs ≤ maxNat := by
    unfold minInt at hlow
    unfold maxNat at hhigh ⊢
    omega
  have hvalue : Nat.ofDigitChars 10 (Nat.toDigits 10 n.natAbs) 0 = n.natAbs :=
    Nat.ofDigitChars_ten_toDigits
  have hwhole : accumulate 0 (Nat.toDigits 10 n.natAbs) = (n.natAbs, []) := by
    rw [accumulate_of_le (fun c hc => isDigit_of_mem hc), hvalue]
    rwa [hvalue]
  simp only [NumberText.value?, hwhole, List.isEmpty_nil, if_true]
  by_cases hn : n < 0
  · have habs : -(n.natAbs : Int) = n := by omega
    have hsigned : 0 < n.natAbs ∧ minInt ≤ -(n.natAbs : Int) := by
      rw [habs]
      exact ⟨by omega, hlow⟩
    rw [decide_eq_true hn, Bool.not_true, if_neg Bool.false_ne_true, if_pos hsigned, habs]
  · have habs : (n.natAbs : Int) = n := by omega
    simp only [hn, decide_false, Bool.not_false, if_true, habs]

/-- The text of an integer is one token. -/
theorem next_int {n : Int} (h : Fits n) {rest : List Char} (hrest : Ends rest) {c : Char}
    {cs : List Char} (htext : (Number.int n).text = c :: cs) :
    Token.isBlank c = false ∧
      Token.next c (cs ++ rest) = (.number (some (.int n)), rest) := by
  have hscan : scanNumber (c :: (cs ++ rest)) =
      .ok (⟨decide (n < 0), Nat.toDigits 10 n.natAbs, none, none⟩, rest) := by
    rw [← List.cons_append, ← htext, text_int]
    exact scanNumber_digits _ _ hrest
  have hfirst : c = '-' ∨ c.isDigit = true := by
    rw [text_int] at htext
    split at htext
    · exact .inl (List.cons.inj htext).1.symm
    · refine .inr (isDigit_of_mem (n := n.natAbs) ?_)
      rw [List.nil_append] at htext
      rw [htext]
      exact List.mem_cons_self
  -- No other token starts so, and neither does a blank.
  have hothers : ∀ d ∈ [' ', '\t', '\n', '\r', '[', ']', '{', '}', ',', ':', '"', 'n', 't', 'f'],
      (d != '-' && !d.isDigit) = true :=
    List.all_eq_true.1 (by decide)
  have hplain : c ∉ [' ', '\t', '\n', '\r', '[', ']', '{', '}', ',', ':', '"', 'n', 't', 'f'] := by
    intro hc
    have hother := hothers c hc
    rcases hfirst with rfl | hdigit
    · cases hother
    · rw [hdigit, Bool.not_true, Bool.and_false] at hother
      cases hother
  simp only [List.mem_cons, List.not_mem_nil, or_false, not_or] at hplain
  refine ⟨by simp [Token.isBlank, hplain], ?_⟩
  unfold Token.next
  split
  case h_11 => rw [if_pos hfirst, hscan, ← value?_digits h]
  all_goals simp at hplain

/-! ## Tokens -/

mutual

/-- The tokens of a value. -/
def tokens : Json → List Token
  | .null => [.null]
  | .bool b => [.bool b]
  | .number n => [.number (some n)]
  | .string s => [.string (.ok s)]
  | .array [] => [.openList, .closeList]
  | .array (item :: items) => .openList :: tokens item ++ itemTokens items
  | .object [] => [.openObject, .closeObject]
  | .object ((key, value) :: members) =>
    .openObject :: .string (.ok key) :: .colon :: tokens value ++ memberTokens members

/-- The tokens of a list behind its first item. -/
def itemTokens : List Json → List Token
  | [] => [.closeList]
  | item :: items => .comma :: tokens item ++ itemTokens items

/-- The tokens of an object behind its first member. -/
def memberTokens : List (String × Json) → List Token
  | [] => [.closeObject]
  | (key, value) :: members =>
    .comma :: .string (.ok key) :: .colon :: tokens value ++ memberTokens members

end

mutual

/-- The value holds no double, and only integers that fit. -/
def Exact : Json → Prop
  | .number (.int n) => Fits n
  | .number (.float _) => False
  | .array items => ItemsExact items
  | .object members => MembersExact members
  | .null | .bool _ | .string _ => True

/-- The items of a list hold no double, and only integers that fit. -/
def ItemsExact : List Json → Prop
  | [] => True
  | item :: items => Exact item ∧ ItemsExact items

/-- The members of an object hold no double, and only integers that fit. -/
def MembersExact : List (String × Json) → Prop
  | [] => True
  | (_, value) :: members => Exact value ∧ MembersExact members

end

theorem scan_cons {c : Char} {rest rest' : List Char} {token : Token}
    (h : Token.isBlank c = false) (hnext : Token.next c rest = (token, rest')) :
    Token.scan (c :: rest) = token :: Token.scan rest' := by
  rw [Token.scan, h, if_neg Bool.false_ne_true, hnext]

/-! The marks are tokens by themselves. -/

theorem scan_openList (rest : List Char) :
    Token.scan ('[' :: rest) = .openList :: Token.scan rest := scan_cons rfl rfl

theorem scan_closeList (rest : List Char) :
    Token.scan (']' :: rest) = .closeList :: Token.scan rest := scan_cons rfl rfl

theorem scan_openObject (rest : List Char) :
    Token.scan ('{' :: rest) = .openObject :: Token.scan rest := scan_cons rfl rfl

theorem scan_closeObject (rest : List Char) :
    Token.scan ('}' :: rest) = .closeObject :: Token.scan rest := scan_cons rfl rfl

theorem scan_comma (rest : List Char) :
    Token.scan (',' :: rest) = .comma :: Token.scan rest := scan_cons rfl rfl

theorem scan_colon (rest : List Char) :
    Token.scan (':' :: rest) = .colon :: Token.scan rest := scan_cons rfl rfl

theorem scan_quoteString (s : String) (rest : List Char) :
    Token.scan (quoteString s ++ rest) = .string (.ok s) :: Token.scan rest := by
  rw [quoteString, List.append_assoc, List.singleton_append]
  exact scan_cons rfl (next_quoted s rest)

theorem ends_cons {c : Char} (rest : List Char)
    (h : c.isDigit = false ∧ c ≠ '.' ∧ c ≠ 'e' ∧ c ≠ 'E') : Ends (c :: rest) := by
  rintro d hd
  obtain rfl := Option.some.inj hd
  exact h

theorem ends_itemChars (items : List Json) (rest : List Char) : Ends (itemChars items ++ rest) := by
  cases items <;> exact ends_cons _ (by decide)

theorem ends_memberChars (members : List (String × Json)) (rest : List Char) :
    Ends (memberChars members ++ rest) := by
  cases members <;> exact ends_cons _ (by decide)

mutual

/-- **The text of a value is cut into its tokens.** -/
theorem scan_chars : ∀ v : Json, v.Exact → ∀ {rest : List Char}, Ends rest →
    Token.scan (chars v ++ rest) = tokens v ++ Token.scan rest
  | .null, _, _, _ => by
    rw [chars]
    exact scan_cons rfl rfl
  | .bool true, _, _, _ => by
    rw [chars]
    exact scan_cons rfl rfl
  | .bool false, _, _, _ => by
    rw [chars]
    exact scan_cons rfl rfl
  | .number (.int n), h, rest, hrest => by
    obtain ⟨c, cs, htext⟩ := exists_text_int n
    have hnext := next_int h hrest htext
    rw [chars, htext]
    exact scan_cons hnext.1 hnext.2
  | .string s, _, rest, _ => by
    rw [chars]
    exact scan_quoteString s rest
  | .array [], _, rest, _ => by
    rw [chars, List.cons_append, scan_openList, List.cons_append, scan_closeList]
    rfl
  | .array (item :: items), h, rest, _ => by
    have hitem := scan_chars item h.1 (ends_itemChars items rest)
    simp only [chars, tokens, List.cons_append, List.append_assoc, scan_openList, hitem,
      scan_itemChars items h.2]
  | .object [], _, rest, _ => by
    rw [chars, List.cons_append, scan_openObject, List.cons_append, scan_closeObject]
    rfl
  | .object ((key, value) :: members), h, rest, _ => by
    have hvalue := scan_chars value h.1 (ends_memberChars members rest)
    simp only [chars, tokens, List.cons_append, List.append_assoc, scan_openObject,
      scan_quoteString, scan_colon, hvalue, scan_memberChars members h.2]

/-- The text behind the first item of a list is cut into its tokens. -/
theorem scan_itemChars : ∀ items : List Json, ItemsExact items → ∀ {rest : List Char},
    Token.scan (itemChars items ++ rest) = itemTokens items ++ Token.scan rest
  | [], _, rest => scan_closeList rest
  | item :: items, h, rest => by
    have hitem := scan_chars item h.1 (ends_itemChars items rest)
    simp only [itemChars, itemTokens, List.cons_append, List.append_assoc, scan_comma, hitem,
      scan_itemChars items h.2]

/-- The text behind the first member of an object is cut into its tokens. -/
theorem scan_memberChars : ∀ members : List (String × Json), MembersExact members →
    ∀ {rest : List Char},
      Token.scan (memberChars members ++ rest) = memberTokens members ++ Token.scan rest
  | [], _, rest => scan_closeObject rest
  | (key, value) :: members, h, rest => by
    have hvalue := scan_chars value h.1 (ends_memberChars members rest)
    simp only [memberChars, memberTokens, List.cons_append, List.append_assoc, scan_comma,
      scan_quoteString, scan_colon, hvalue, scan_memberChars members h.2]

end

/-! ## Trees -/

open Builder

/-- No value starts like the end of a list. -/
theorem exists_tokens (v : Json) : ∃ token ts, tokens v = token :: ts ∧ token ≠ .closeList := by
  match v with
  | .null | .bool _ | .number _ | .string _ | .array [] | .array (_ :: _) | .object []
  | .object ((_, _) :: _) => exact ⟨_, _, rfl, nofun⟩

/-- A list that was opened is one of which no item was read, unless it ends at once. -/
theorem run_first_tokens (v : Json) (frames : List Frame) (rest : List Token) :
    run (.first frames) (tokens v ++ rest) =
      run (.value (.list [] :: frames)) (tokens v ++ rest) := by
  obtain ⟨token, ts, htokens, hne⟩ := exists_tokens v
  have hstep : step (.first frames) token = begin (.list [] :: frames) token := by
    rw [step]
    exact hne
  rw [htokens, List.cons_append, run_cons, hstep]
  rfl

theorem run_nextItem_tokens (v : Json) (items : List Doc) (frames : List Frame)
    (rest : List Token) :
    run (.nextItem items frames) (tokens v ++ rest) =
      run (.value (.list items :: frames)) (tokens v ++ rest) := by
  obtain ⟨token, ts, htokens, hne⟩ := exists_tokens v
  have hstep : step (.nextItem items frames) token = begin (.list items :: frames) token := by
    rw [step]
    exact hne
  rw [htokens, List.cons_append, run_cons, hstep]
  rfl

mutual

/-- **The tokens of a value build its tree.** -/
theorem run_tokens : ∀ (v : Json) (frames : List Frame) (rest : List Token),
    run (.value frames) (tokens v ++ rest) = run (finish (Doc.ofJson v) frames) rest
  | .null, _, _ => rfl
  | .bool _, _, _ => rfl
  | .number _, _, _ => rfl
  | .string _, _, _ => rfl
  | .array [], _, _ => rfl
  | .array (item :: items), frames, rest => by
    have hitem := run_tokens item (.list [] :: frames) (itemTokens items ++ rest)
    simp only [tokens, List.cons_append, List.append_assoc, run_cons]
    refine (run_first_tokens item frames _).trans (hitem.trans ?_)
    exact run_itemTokens items [Doc.ofJson item] frames rest
  | .object [], _, _ => rfl
  | .object ((key, value) :: members), frames, rest => by
    have hvalue := run_tokens value (.object [] (.ok key) :: frames) (memberTokens members ++ rest)
    simp only [tokens, List.cons_append, List.append_assoc, run_cons]
    exact hvalue.trans (run_memberTokens members [(.ok key, Doc.ofJson value)] frames rest)

/-- The tokens behind the first item of a list build the list. -/
theorem run_itemTokens : ∀ (items : List Json) (before : List Doc) (frames : List Frame)
    (rest : List Token),
    run (.afterItem before frames) (itemTokens items ++ rest) =
      run (finish (.list (before.reverse ++ Doc.ofItems items) .closed) frames) rest
  | [], before, frames, rest => by
    rw [Doc.ofItems, List.append_nil]
    rfl
  | item :: items, before, frames, rest => by
    have hitem := run_tokens item (.list before :: frames) (itemTokens items ++ rest)
    have hitems := run_itemTokens items (Doc.ofJson item :: before) frames rest
    simp only [itemTokens, List.cons_append, List.append_assoc, run_cons]
    refine (run_nextItem_tokens item before frames _).trans (hitem.trans (hitems.trans ?_))
    rw [Doc.ofItems, List.reverse_cons, List.append_assoc, List.singleton_append]

/-- The tokens behind the first member of an object build the object. -/
theorem run_memberTokens : ∀ (members : List (String × Json)) (before : List (Key × Doc))
    (frames : List Frame) (rest : List Token),
    run (.afterMember before frames) (memberTokens members ++ rest) =
      run (finish (.object (before.reverse ++ Doc.ofMembers members) .closed) frames) rest
  | [], before, frames, rest => by
    rw [Doc.ofMembers, List.append_nil]
    rfl
  | (key, value) :: members, before, frames, rest => by
    have hvalue := run_tokens value (.object before (.ok key) :: frames)
      (memberTokens members ++ rest)
    have hmembers := run_memberTokens members ((.ok key, Doc.ofJson value) :: before) frames rest
    simp only [memberTokens, List.cons_append, List.append_assoc, run_cons]
    refine hvalue.trans (hmembers.trans ?_)
    rw [Doc.ofMembers, List.reverse_cons, List.append_assoc, List.singleton_append]

end

/-- The tree of the text of a value is the tree of the value. -/
theorem ofText_compress {v : Json} (h : v.Exact) :
    Doc.ofText v.compress = (Doc.ofJson v, false) := by
  have hscan : Token.scan v.chars = v.tokens := by
    have hnil : Ends [] := fun c hc => nomatch hc
    simpa [Token.scan] using scan_chars v h hnil
  rw [Doc.ofText, compress, String.toList_ofList, hscan, Doc.ofTokens,
    ← List.append_nil v.tokens, run_tokens]
  rfl

/-- **What is read of the text of a value** is what is read of the value. -/
theorem whole_compress {ε α : Type} (r : Reader ε α) {v : Json} (h : v.Exact) :
    r.whole v.compress = r depthLimit (Doc.ofJson v) := by
  rw [Reader.whole, ofText_compress h]
  exact bind_pure _

end Adventure.Json
