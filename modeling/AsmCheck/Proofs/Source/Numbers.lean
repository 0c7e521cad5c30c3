import AsmCheck.Proofs.Source.Literals

/-! Numbers as they are written. A text reads as a number exactly if it is a sign, the mark of a base and digits of
that base, with white space around them and behind the sign, and the number is the positional value of the digits.
So whatever is written in one of the bases, in either case and with zeros in front, reads as what it was written for. -/

set_option autoImplicit false

namespace AsmCheck.Source

open Numeral (TooLong)

/-! ## Signs, marks and digits -/

def EitherCase (c : CodePoint) (letter : Char) : Prop := c = .scalar letter ∨ c = .scalar letter.toUpper

instance (c : CodePoint) (letter : Char) : Decidable (EitherCase c letter) := inferInstanceAs (Decidable (_ ∨ _))

/-- The character is the digit of a value, in either case. -/
def IsDigit (base : Nat) (c : CodePoint) (d : Nat) : Prop := d < base ∧ EitherCase c d.digitChar

instance (base : Nat) (c : CodePoint) (d : Nat) : Decidable (IsDigit base c d) := inferInstanceAs (Decidable (_ ∧ _))

/-- Digits of a base, the most significant first, and the number they stand for. -/
def IsNumeral (base : Nat) (t : Text) (n : Nat) : Prop :=
  t ≠ [] ∧ ∃ digits, List.Forall₂ (IsDigit base) t digits ∧ n = Nat.ofDigits base digits.reverse

/-- What stands in front of the digits of a base. -/
inductive Mark : Nat → Text → Prop where
  | decimal : Mark 10 []
  | hexadecimal {x : CodePoint} : EitherCase x 'x' → Mark 16 [.scalar '0', x]
  | binary {b : CodePoint} : EitherCase b 'b' → Mark 2 [.scalar '0', b]

/-- No sign, or a minus with white space behind it. -/
inductive Sign : Text → Int → Prop where
  | none : Sign [] 1
  | minus {gap : Text} : (∀ c ∈ gap, Text.isSpace c = true) → Sign (.scalar '-' :: gap) (-1)

/-- A sign, the mark of a base and digits of that base. -/
def IsNumber (t : Text) (v : Int) : Prop :=
  ∃ sign factor base mark digits n, Sign sign factor ∧ Mark base mark ∧ IsNumeral base digits n ∧
    t = sign ++ (mark ++ digits) ∧ v = factor * n

/-- The text is a sign and more decimal digits than the limit allows. -/
def BeyondLimit (t : Text) : Prop :=
  ∃ sign factor digits, Sign sign factor ∧ (∀ c ∈ digits, c.isDigit = true) ∧ Numeral.limit < digits.length ∧
    Text.trim t = sign ++ digits

/-- A number in the digits of a base, each letter in either case, with zeros in front. -/
def Renders (base n : Nat) (t : Text) : Prop :=
  ∃ zeros digits, t = List.replicate zeros (.scalar '0') ++ digits ∧ List.Forall₂ EitherCase digits (Nat.toDigits base n)

variable {t w : Text} {n : Nat} {v : Int}

/-! ## Digits -/

/-- A reader of digits that knows the digits of a base, and nothing else within ASCII. -/
theorem digit?_eq_some {base : Nat} {digit? : CodePoint → Option Nat}
    (ascii : ∀ {c d}, digit? c = some d → isNameChar c = true)
    (sound : ∀ i < 128, ∀ d ∈ digit? (.scalar (Char.ofNat i)), IsDigit base (.scalar (Char.ofNat i)) d)
    (complete : ∀ d < base, digit? (.scalar d.digitChar) = some d ∧ digit? (.scalar d.digitChar.toUpper) = some d)
    {c : CodePoint} {d : Nat} : digit? c = some d ↔ IsDigit base c d := by
  constructor
  · intro read
    have range := isNameChar_toNat (ascii read)
    cases c with
    | surrogate index =>
      simp only [CodePoint.toNat] at range
      omega
    | scalar c =>
      have small : c.toNat < 128 := by
        simp only [CodePoint.toNat] at range
        omega
      have known := sound c.toNat small d
      rw [Char.ofNat_toNat] at known
      exact known read
  · rintro ⟨small, rfl | rfl⟩
    · exact (complete d small).1
    · exact (complete d small).2

theorem decimalDigit?_eq_some {c : CodePoint} {d : Nat} : Numeral.decimalDigit? c = some d ↔ IsDigit 10 c d :=
  digit?_eq_some (fun read => isNameChar_of_isDigit (isDigit_of_decimalDigit? read)) (by decide +kernel) (by decide)

theorem hexDigit?_eq_some {c : CodePoint} {d : Nat} : Numeral.hexDigit? c = some d ↔ IsDigit 16 c d :=
  digit?_eq_some isNameChar_of_hexDigit? (by decide +kernel) (by decide)

theorem binaryDigit?_eq_some {c : CodePoint} {d : Nat} : Numeral.binaryDigit? c = some d ↔ IsDigit 2 c d :=
  digit?_eq_some isNameChar_of_binaryDigit? (by decide +kernel) (by decide)

theorem positional_iff {base : Nat} {digit? : CodePoint → Option Nat}
    (reads : ∀ {c d}, digit? c = some d ↔ IsDigit base c d) : Positional base digit? t n ↔ IsNumeral base t n := by
  simp only [Positional, IsNumeral, reads]

/-- A literal is a mark and digits of its base. -/
theorem literal_iff : Literal t n ↔ ∃ base mark digits, Mark base mark ∧ IsNumeral base digits n ∧ t = mark ++ digits := by
  constructor
  · intro literal
    cases literal with
    | decimal digits => exact ⟨10, [], t, .decimal, (positional_iff decimalDigit?_eq_some).1 digits, rfl⟩
    | hexadecimal x digits => exact ⟨16, _, _, .hexadecimal x, (positional_iff hexDigit?_eq_some).1 digits, rfl⟩
    | binary b digits => exact ⟨2, _, _, .binary b, (positional_iff binaryDigit?_eq_some).1 digits, rfl⟩
  · rintro ⟨base, mark, digits, marked, numeral, rfl⟩
    cases marked with
    | decimal => exact .decimal ((positional_iff decimalDigit?_eq_some).2 numeral)
    | hexadecimal x => exact .hexadecimal x ((positional_iff hexDigit?_eq_some).2 numeral)
    | binary b => exact .binary b ((positional_iff binaryDigit?_eq_some).2 numeral)

theorem isNumber_iff : IsNumber t v ↔ ∃ sign factor w n, Sign sign factor ∧ Literal w n ∧ t = sign ++ w ∧ v = factor * n := by
  constructor
  · rintro ⟨sign, factor, base, mark, digits, n, signed, marked, numeral, rfl, rfl⟩
    exact ⟨sign, factor, mark ++ digits, n, signed, literal_iff.2 ⟨base, mark, digits, marked, numeral, rfl⟩, rfl, rfl⟩
  · rintro ⟨sign, factor, w, n, signed, literal, rfl, rfl⟩
    obtain ⟨base, mark, digits, marked, numeral, rfl⟩ := literal_iff.1 literal
    exact ⟨sign, factor, base, mark, digits, n, signed, marked, numeral, rfl, rfl⟩

/-! ## Signs -/

/-- What stands behind a sign reads as it does alone, with its sign turned by a minus. -/
theorem number?_append {sign : Text} {factor : Int} (signed : Sign sign factor) (some : w ≠ [])
    (name : ∀ c ∈ w, isNameChar c = true) (trimmed : Text.trim t = sign ++ w) :
    number? t = (unsignedNumber? w).map (·.map fun n => factor * (n : Int)) := by
  have tight : Text.Tight w := .of_visible some fun c member => isSpace_of_isNameChar (name c member)
  obtain ⟨c, more, rfl⟩ := List.exists_cons_of_ne_nil some
  cases signed with
  | none =>
    have noMinus : c ≠ .scalar '-' := by
      rintro rfl
      exact absurd (name (.scalar '-') (by simp)) (by decide)
    rw [number?, trimmed, List.nil_append]
    split
    · next same =>
      cases same
      exact absurd rfl noMinus
    · simp only [Int.one_mul]
  | @minus gap spaces =>
    have bare : Text.trim (gap ++ c :: more ++ []) = c :: more := tight.trim_around spaces (by simp)
    rw [List.append_nil] at bare
    rw [number?, trimmed]
    simp only [List.cons_append, bare, Int.neg_mul, Int.one_mul]

/-- Every text reads as what stands behind its sign. -/
theorem exists_sign (t : Text) : ∃ sign factor w, Sign sign factor ∧ Text.trim t = sign ++ w ∧
    number? t = (unsignedNumber? w).map (·.map fun n => factor * (n : Int)) := by
  unfold number?
  split
  · next rest minus =>
    have visible : Text.isBlank t = false := by
      rw [Bool.eq_false_iff]
      intro blank
      simp [Text.trim_eq_nil.2 blank] at minus
    obtain ⟨gap, spaces, split⟩ := (minus ▸ Text.tight_trim visible).exists_trim_tail
    refine ⟨.scalar '-' :: gap, -1, Text.trim rest, .minus spaces, ?_, ?_⟩
    · rw [minus, List.cons_append, ← split]
    · simp only [Int.neg_mul, Int.one_mul]
  · exact ⟨[], 1, Text.trim t, .none, rfl, by simp only [Int.one_mul]⟩

theorem beyondLimit_iff : number? t = .error ⟨⟩ ↔ BeyondLimit t := by
  constructor
  · intro read
    obtain ⟨sign, factor, w, signed, trimmed, same⟩ := exists_sign t
    cases unsigned : unsignedNumber? w with
    | ok found => simp [same, unsigned, Except.map] at read
    | error e =>
      obtain ⟨digits, long⟩ := unsignedNumber?_eq_error.1 unsigned
      exact ⟨sign, factor, w, signed, digits, long, trimmed⟩
  · rintro ⟨sign, factor, digits, signed, each, long, trimmed⟩
    have some : digits ≠ [] := by
      rintro rfl
      simp at long
    rw [number?_append signed some (fun c member => isNameChar_of_isDigit (each c member)) trimmed,
      unsignedNumber?_eq_error.2 ⟨each, long⟩]
    rfl

theorem number?_eq_some (within : ¬BeyondLimit t) : number? t = .ok (some v) ↔ IsNumber (Text.trim t) v := by
  rw [isNumber_iff]
  constructor
  · intro read
    obtain ⟨sign, factor, w, signed, trimmed, same⟩ := exists_sign t
    rw [same] at read
    cases unsigned : unsignedNumber? w with
    | error e => simp [unsigned, Except.map] at read
    | ok found =>
      cases found with
      | none => simp [unsigned, Except.map] at read
      | some n =>
        rw [unsigned] at read
        cases read
        exact ⟨sign, factor, w, n, signed, (unsignedNumber?_eq_some.1 unsigned).1, trimmed, rfl⟩
  · rintro ⟨sign, factor, w, n, signed, literal, trimmed, rfl⟩
    have short : (∀ c ∈ w, c.isDigit = true) → w.length ≤ Numeral.limit := by
      intro digits
      by_contra long
      exact within ⟨sign, factor, w, signed, digits, by omega, trimmed⟩
    rw [number?_append signed literal.isWord.1 literal.isWord.2 trimmed, unsignedNumber?_eq_some.2 ⟨literal, short⟩]
    rfl

theorem number?_eq_none (within : ¬BeyondLimit t) : number? t = .ok none ↔ ¬∃ v, IsNumber (Text.trim t) v := by
  simp only [← number?_eq_some within]
  cases read : number? t with
  | error e => exact absurd (beyondLimit_iff.1 read) within
  | ok found => cases found <;> simp

/-! ## Numbers that are written out -/

theorem exists_digits_of_toDigits {base : Nat} (many : 1 < base) (n : Nat) {t : Text}
    (written : List.Forall₂ EitherCase t (Nat.toDigits base n)) :
    ∃ digits, List.Forall₂ (IsDigit base) t digits ∧ n = Nat.ofDigits base digits.reverse := by
  induction n using Nat.strong_induction_on generalizing t with
  | _ n ih =>
    rw [Nat.toDigits_eq_if many] at written
    split at written
    · next small =>
      obtain ⟨c, rest, same, last, rfl⟩ := List.forall₂_cons_right_iff.1 written
      cases List.forall₂_nil_right_iff.1 last
      exact ⟨[n], .cons ⟨small, same⟩ .nil, by simp⟩
    · next large =>
      -- The last digit is the remainder, and the others are the digits of the quotient.
      have front := List.forall₂_take_append t _ _ written
      have back := List.forall₂_drop_append t _ _ written
      have less : n / base < n := Nat.div_lt_self (by omega) many
      obtain ⟨digits, each, quotient⟩ := ih (n / base) less front
      have remainder : n % base < base := Nat.mod_lt n (by omega)
      obtain ⟨c, rest, same, last, whole⟩ := List.forall₂_cons_right_iff.1 back
      cases List.forall₂_nil_right_iff.1 last
      have split := List.take_append_drop (Nat.toDigits base (n / base)).length t
      rw [whole] at split
      refine ⟨digits ++ [n % base], ?_, ?_⟩
      · rw [← split]
        exact List.rel_append each (.cons ⟨remainder, same⟩ .nil)
      · rw [List.reverse_append, List.reverse_singleton, List.singleton_append, Nat.ofDigits_cons, ← quotient,
          Nat.mod_add_div]

theorem isNumeral_of_renders {base : Nat} (many : 1 < base) (rendered : Renders base n t) : IsNumeral base t n := by
  obtain ⟨zeros, digits, rfl, written⟩ := rendered
  obtain ⟨values, each, same⟩ := exists_digits_of_toDigits many n written
  have some : digits ≠ [] := by
    rintro rfl
    exact Nat.toDigits_ne_nil (List.forall₂_nil_left_iff.1 written)
  have zero : List.Forall₂ (IsDigit base) (List.replicate zeros (.scalar '0')) (List.replicate zeros 0) := by
    induction zeros with
    | zero => exact .nil
    | succ zeros ih => exact .cons ⟨by omega, .inl rfl⟩ ih
  refine ⟨by simp [some], List.replicate zeros 0 ++ values, List.rel_append zero each, ?_⟩
  rw [List.reverse_append, List.reverse_replicate, Nat.ofDigits_append, Nat.ofDigits_replicate_zero, Nat.mul_zero,
    Nat.add_zero, same]

theorem Mark.one_lt {base : Nat} {mark : Text} (marked : Mark base mark) : 1 < base := by
  cases marked <;> decide

/-- Only in decimal a literal may be too long, as a mark is no digit. -/
theorem Mark.eq_ten {base : Nat} {mark digits : Text} (marked : Mark base mark)
    (all : ∀ c ∈ mark ++ digits, c.isDigit = true) : base = 10 ∧ mark = [] := by
  cases marked with
  | decimal => exact ⟨rfl, rfl⟩
  | @hexadecimal x mark => exact absurd (all x (by simp)) (by rcases mark with rfl | rfl <;> decide)
  | @binary b mark => exact absurd (all b (by simp)) (by rcases mark with rfl | rfl <;> decide)

theorem Sign.tight_append {sign : Text} {factor : Int} (signed : Sign sign factor) (some : w ≠ [])
    (visible : ∀ c ∈ w, Text.isSpace c = false) : Text.Tight (sign ++ w) where
  first := by
    cases signed with
    | none => exact (Text.Tight.of_visible some visible).first
    | minus spaces => exact ⟨.scalar '-', _, rfl, by decide⟩
  last := by
    obtain ⟨front, c, rfl, clear⟩ := (Text.Tight.of_visible some visible).last
    exact ⟨sign ++ front, c, by rw [List.append_assoc], clear⟩

/-- A number reads as itself in whatever base it is written. -/
theorem number?_of_renders {sign mark digits : Text} {factor : Int} {base : Nat} (signed : Sign sign factor)
    (marked : Mark base mark) (rendered : Renders base n digits) (short : base = 10 → digits.length ≤ Numeral.limit) :
    number? (sign ++ (mark ++ digits)) = .ok (some (factor * n)) := by
  have literal : Literal (mark ++ digits) n :=
    literal_iff.2 ⟨base, mark, digits, marked, isNumeral_of_renders marked.one_lt rendered, rfl⟩
  obtain ⟨some, name⟩ := literal.isWord
  have trimmed := (signed.tight_append some fun c member => isSpace_of_isNameChar (name c member)).trim_eq
  have within : (∀ c ∈ mark ++ digits, c.isDigit = true) → (mark ++ digits).length ≤ Numeral.limit := by
    intro all
    obtain ⟨ten, rfl⟩ := marked.eq_ten all
    exact short ten
  rw [number?_append signed some name trimmed, unsignedNumber?_eq_some.2 ⟨literal, within⟩]
  rfl

theorem number?_ofNat (short : (Text.ofNat n).length ≤ Numeral.limit) :
    number? (Text.ofNat n) = .ok (some (n : Int)) := by
  have written : List.Forall₂ EitherCase (Text.ofNat n) (Nat.toDigits 10 n) := by
    rw [Text.ofNat, Text.ofChars, List.forall₂_map_left_iff, List.forall₂_same]
    exact fun c _ => .inl rfl
  have rendered : Renders 10 n (Text.ofNat n) := ⟨0, Text.ofNat n, rfl, written⟩
  have read := number?_of_renders .none .decimal rendered fun _ => short
  simpa only [List.nil_append, Int.one_mul] using read

/-! ## Every number -/

/-- A text is read as a number exactly if it is one, unless its decimal digits go beyond the limit; and a number that
is written in one of the bases is read back. -/
theorem number_read_iff_written :
    (∀ t, number? t = .error ⟨⟩ ↔ BeyondLimit t) ∧
    (∀ t, ¬BeyondLimit t → (∀ v, number? t = .ok (some v) ↔ IsNumber (Text.trim t) v) ∧
      (number? t = .ok none ↔ ¬∃ v, IsNumber (Text.trim t) v)) ∧
    ∀ (v factor : Int) (base : Nat) (sign mark digits : Text), Sign sign factor → v = factor * v.natAbs →
      Mark base mark → Renders base v.natAbs digits → (base = 10 → digits.length ≤ Numeral.limit) →
      number? (sign ++ (mark ++ digits)) = .ok (some v) := by
  refine ⟨fun t => beyondLimit_iff, fun t within => ⟨fun v => number?_eq_some within, number?_eq_none within⟩, ?_⟩
  intro v factor base sign mark digits signed turned marked rendered short
  rw [number?_of_renders signed marked rendered short, ← turned]

/-- Blanks behind the minus, zeros in front and letters of either case; a digit of another script is none here. -/
theorem number_read_signed_hexadecimal :
    number? "- 0x00fF" = .ok (some (-255)) ∧ ¬∃ v, IsNumber (Text.trim "٣") v := by
  have within : ¬BeyondLimit "٣" := by
    intro beyond
    exact absurd (beyondLimit_iff.2 beyond) (by decide)
  refine ⟨?_, ((number_read_iff_written.2.1 "٣" within).2).1 (by decide)⟩
  exact number_read_iff_written.2.2 (-255) (-1) 16 "- " "0x" "00fF" (.minus (by decide)) (by decide) (.hexadecimal (.inl rfl))
    ⟨2, "fF", rfl, by decide⟩ (by decide)

end AsmCheck.Source
