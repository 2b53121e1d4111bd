import SqlText.Identifier

/-!
# Visible text

A text is **visible** when it is not blank, and a text that has a visible part is visible. The text
of a value shows whatever makes the value not blank: a text is its own, and every literal has a
sign, a digit, a letter or a bracket in it (`isBlankText_toText`). So whatever is written around a
value that is not blank, and whatever is written with a backtick in it, is visible.
-/

namespace SqlText

namespace Text

@[simp] theorem isBlankText_append (s t : String) :
    isBlankText (s ++ t) = (isBlankText s && isBlankText t) := by
  simp only [isBlankText, String.toList_append, List.all_append]

theorem isBlankText_of_mem {s : String} {c : Char} (hc : c ∈ s.toList)
    (hv : isBlankChar c = false) : isBlankText s = false := by
  rw [isBlankText, List.all_eq_false]
  exact ⟨c, hc, by simp [hv]⟩

/-- A digit is visible. -/
theorem isBlankChar_of_isDigit {c : Char} (h : c.isDigit = true) : isBlankChar c = false := by
  have hrange : 48 ≤ c.toNat ∧ c.toNat ≤ 57 := by
    simp only [Char.isDigit, Bool.and_eq_true, decide_eq_true_eq, ge_iff_le,
      UInt32.le_iff_toNat_le] at h
    exact h
  simp only [isBlankChar, inRanges, blankRanges, List.any_cons, List.any_nil, Bool.or_false,
    Bool.or_eq_false_iff, Bool.and_eq_false_iff, decide_eq_false_iff_not]
  omega

theorem isBlankText_natRepr (n : Nat) : isBlankText (Nat.repr n) = false := by
  obtain ⟨c, rest, hcons⟩ := List.exists_cons_of_ne_nil (Nat.toDigits_ne_nil (n := n) (b := 10))
  have hc : c ∈ Nat.toDigits 10 n := by rw [hcons]; exact List.mem_cons_self
  refine isBlankText_of_mem (c := c) ?_ ?_
  · rwa [Nat.toList_repr]
  · exact isBlankChar_of_isDigit (Nat.isDigit_of_mem_toDigits (by decide) (by decide) hc)

theorem isBlankText_quoted (s : String) : isBlankText (quoted s) = false := by
  refine isBlankText_of_mem (c := enclosingQuote s.toList) ?_ ?_
  · rw [quoted, String.toList_ofList]
    simp
  · rw [enclosingQuote]
    split <;> decide

end Text

namespace Value

/-- The text of a number is visible: it has a point or an exponent. -/
theorem isBlankText_decimal (d : Decimal) : Text.isBlankText d.text = false := by
  have hpoint : Text.isBlankText ".0" = false := by decide
  have hdot : Text.isBlankText "." = false := by decide
  have hzero : Text.isBlankText "0." = false := by decide
  have he : Text.isBlankText "e" = false := by decide
  unfold Decimal.text
  extract_lets digits sign point tail body
  -- the sign may be missing, so what is visible has to be found in each form of the body
  have hbody : Text.isBlankText body = false := by
    simp only [body]
    clear_value digits point tail
    split
    · split
      · simp [hzero]
      · split <;> simp [hpoint, hdot]
    · simp [he]
  rw [Text.isBlankText_append, hbody, Bool.and_false]

/-- The literal of a value is visible. -/
theorem isBlankText_literal (v : Value) : Text.isBlankText v.literal = false := by
  cases v with
  | null => decide
  | bool b => cases b <;> decide
  | int n =>
    cases n with
    | ofNat n => exact Text.isBlankText_natRepr n
    | negSucc n =>
      show Text.isBlankText ("-" ++ Nat.repr (n + 1)) = false
      rw [Text.isBlankText_append, Text.isBlankText_natRepr, Bool.and_false]
  | decimal d => exact isBlankText_decimal d
  | infinite negative => cases negative <;> decide
  | undefined => decide
  | text s => exact Text.isBlankText_quoted s
  | list items =>
    have hopen : Text.isBlankText "[" = false := by decide
    simp [literal, hopen]
  | object entries =>
    have hopen : Text.isBlankText "\x7b" = false := by decide
    simp [literal, hopen]

/-- **The text of a value that is not blank is visible.** -/
theorem isBlankText_toText {v : Value} (h : v.isBlank = false) :
    Text.isBlankText v.toText = false := by
  cases v with
  | text s => exact h
  | _ => exact isBlankText_literal _

end Value

/-! ## Quoted names -/

@[simp] theorem isBlankText_quoteIdentifier (name : Value) :
    Text.isBlankText (quoteIdentifier name) = false := by
  have htick : Text.isBlankText "`" = false := by decide
  simp [quoteIdentifier, htick]

@[simp] theorem isBlankText_tableColumn (table column : Value) :
    Text.isBlankText (tableColumn table column) = false := by
  simp [tableColumn]

/-- An alias behind a visible text leaves it visible. -/
theorem isBlankText_withAlias {base : String} (h : Text.isBlankText base = false)
    (glue : String) (label : Value) :
    Text.isBlankText (withAlias base glue label) = false := by
  unfold withAlias
  split
  · exact h
  · simp [h]

end SqlText
