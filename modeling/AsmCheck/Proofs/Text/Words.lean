import AsmCheck.Text.Digit
import AsmCheck.Text.Word
import Mathlib.Data.List.Infix

/-! Words and digits. The digits of every script are word characters, so a word of digits stands apart from whatever
is in front of it and behind it. -/

set_option autoImplicit false

namespace AsmCheck.Text

theorem contains_eq_true {part t : Text} : contains part t = true ↔ part <:+: t := by
  induction t with
  | nil => simp [contains]
  | cons c rest ih => simp only [contains, Bool.or_eq_true, List.isPrefixOf_iff_prefix, ih, List.infix_cons_iff]

theorem exists_zero_of_isDigit {c : CodePoint} (digit : isDigit c = true) :
    ∃ start ∈ digitZeros, start ≤ c.toNat ∧ c.toNat < start + 10 := by
  rw [isDigit, digitValue?, Option.isSome_map] at digit
  obtain ⟨start, found⟩ := Option.isSome_iff_exists.1 digit
  have range := List.find?_some found
  simp only [Bool.and_eq_true, decide_eq_true_eq] at range
  exact ⟨start, List.mem_of_find?_eq_some found, range⟩

/-- Beyond ASCII, the ten digits of a script stand in one range of letters and numbers. -/
theorem alphanumericRanges_digits : ∀ start ∈ digitZeros, start = 0x30 ∨ 0x80 ≤ start ∧
    alphanumericRanges.any (fun r => Nat.ble r.1 start && Nat.ble (start + 9) r.2) = true := by
  decide +kernel

theorem isWordChar_of_isDigit {c : CodePoint} (digit : isDigit c = true) : isWordChar c = true := by
  obtain ⟨start, zero, low, high⟩ := exists_zero_of_isDigit digit
  unfold isWordChar
  rcases alphanumericRanges_digits start zero with rfl | ⟨beyond, ranges⟩
  · cases c with
    | surrogate index =>
      simp only [CodePoint.toNat] at high
      omega
    | scalar c =>
      have decimal : c.isDigit = true := Char.isDigit_iff_toNat.2 ⟨low, Nat.le_of_lt_succ high⟩
      rw [if_pos (by omega)]
      simp [CodePoint.isAlphanum, CodePoint.char?, Char.isAlphanum, decimal]
  · rw [if_neg (by omega), List.any_eq_true]
    obtain ⟨r, member, covers⟩ := List.any_eq_true.1 ranges
    simp only [Bool.and_eq_true, Nat.ble_eq] at covers
    exact ⟨r, member, by simp only [Bool.and_eq_true, decide_eq_true_eq]; omega⟩

theorem endsWord_eq_true {t : Text} : endsWord t = true ↔ ∀ c ∈ t.head?, isWordChar c = false := by
  cases t with
  | nil => simp [endsWord]
  | cons c rest => simp [endsWord]

end AsmCheck.Text
