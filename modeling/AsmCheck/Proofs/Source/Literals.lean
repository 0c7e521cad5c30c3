import AsmCheck.Proofs.Program.Substitution
import AsmCheck.Proofs.Source.Names
import AsmCheck.Proofs.Source.Tokens
import AsmCheck.Proofs.Text.Trimming
import Mathlib.Data.Nat.Digits.Defs

/-! Literals as terms. A term that reads as a number is a word that starts with a digit, and a string is one quoted
part. -/

set_option autoImplicit false

namespace AsmCheck.Source

open Numeral (TooLong)

/-! ## What numerals are made of -/

theorem isNameChar_of_hexDigit? {c : CodePoint} {d : Nat} (digit : Numeral.hexDigit? c = some d) :
    isNameChar c = true := by
  simp only [Numeral.hexDigit?, Char.reduceToNat] at digit
  split at digit
  · next decimal => exact isNameChar_of_isDigit decimal
  · split at digit
    · next small => exact isNameChar_of_toNat (by omega)
    · split at digit
      · next capital => exact isNameChar_of_toNat (by omega)
      · cases digit

theorem isNameChar_of_binaryDigit? {c : CodePoint} {d : Nat} (digit : Numeral.binaryDigit? c = some d) :
    isNameChar c = true := by
  unfold Numeral.binaryDigit? at digit
  split at digit
  · next zero => rw [zero]; decide
  · split at digit
    · next one => rw [one]; decide
    · cases digit

theorem isDigit_of_decimalDigit? {c : CodePoint} {d : Nat} (digit : Numeral.decimalDigit? c = some d) :
    c.isDigit = true := by
  unfold Numeral.decimalDigit? at digit
  split at digit
  · assumption
  · cases digit

theorem digits?_eq_some {digit? : CodePoint → Option Nat} {t : Text} {digits : List Nat} :
    Numeral.digits? digit? t = some digits ↔ t ≠ [] ∧ List.Forall₂ (fun c d => digit? c = some d) t digits := by
  unfold Numeral.digits?
  cases t with
  | nil => simp
  | cons c rest => simp only [List.isEmpty_cons, Bool.false_eq_true, if_false, mapM_eq_some, ne_eq, reduceCtorEq,
      not_false_eq_true, true_and]

theorem forall_of_digits? {digit? : CodePoint → Option Nat} {P : CodePoint → Prop}
    (each : ∀ {c d}, digit? c = some d → P c) {t : Text} {digits : List Nat}
    (read : Numeral.digits? digit? t = some digits) : ∀ c ∈ t, P c := by
  intro c member
  obtain ⟨d, -, digit⟩ := exists_of_forall₂_of_mem_left (digits?_eq_some.1 read).2 member
  exact each digit

/-! ## Terms that read as numbers -/

theorem number?_of_inTerm {t : Text} (inside : ∀ c ∈ t, inTerm c = true) :
    number? t = (unsignedNumber? t).map (·.map fun n => (n : Int)) := by
  cases t with
  | nil => rfl
  | cons c rest =>
    have visible : ∀ d ∈ c :: rest, Text.isSpace d = false := fun d member => (inTerm_eq_true.1 (inside d member)).1
    have first : c ≠ .scalar '-' := (inTerm_eq_true.1 (inside c (by simp))).2.2
    rw [number?, (Text.Tight.of_visible (by simp) visible).trim_eq]
    split
    · next same =>
      cases same
      exact absurd rfl first
    · rfl

theorem basedNumber?_eq_some {t : Text} {n : Nat} (read : basedNumber? t = some n) :
    ∃ mark rest, t = .scalar '0' :: mark :: rest ∧ mark.isDigit = false ∧ ∀ c ∈ t, isNameChar c = true := by
  have all : ∀ {mark : CodePoint} {rest : Text}, isNameChar mark = true → (∀ c ∈ rest, isNameChar c = true) →
      ∀ c ∈ .scalar '0' :: mark :: rest, isNameChar c = true := by
    intro mark rest marked later c member
    rcases List.mem_cons.1 member with rfl | member
    · decide
    · rcases List.mem_cons.1 member with rfl | member
      · exact marked
      · exact later c member
  unfold basedNumber? at read
  split at read
  · next mark rest =>
    split at read
    · next hexadecimal =>
      obtain ⟨digits, found, -⟩ := Option.map_eq_some_iff.1 read
      have later := forall_of_digits? isNameChar_of_hexDigit? found
      rcases hexadecimal with rfl | rfl <;> exact ⟨_, rest, rfl, by decide, all (by decide) later⟩
    · split at read
      · next binary =>
        obtain ⟨digits, found, -⟩ := Option.map_eq_some_iff.1 read
        have later := forall_of_digits? isNameChar_of_binaryDigit? found
        rcases binary with rfl | rfl <;> exact ⟨_, rest, rfl, by decide, all (by decide) later⟩
      · cases read
  · cases read

/-- A term reads as no number, or it is a word that starts with a digit. -/
theorem number?_eq_none_or {t : Text} (inside : ∀ c ∈ t, inTerm c = true) :
    number? t = .ok none ∨ t.head?.any CodePoint.isDigit = true ∧ ∀ c ∈ t, isNameChar c = true := by
  rw [number?_of_inTerm inside]
  unfold unsignedNumber?
  cases based : basedNumber? t with
  | some n =>
    obtain ⟨mark, rest, rfl, -, name⟩ := basedNumber?_eq_some based
    exact .inr ⟨rfl, name⟩
  | none =>
    cases decimal : Numeral.digits? Numeral.decimalDigit? t with
    | none => exact .inl rfl
    | some digits =>
      have digit := forall_of_digits? isDigit_of_decimalDigit? decimal
      refine .inr ⟨?_, fun c member => isNameChar_of_isDigit (digit c member)⟩
      cases t with
      | nil => simp [Numeral.digits?] at decimal
      | cons c rest => simpa using digit c (by simp)

/-! ## Literals of three bases -/

/-- Digits, the most significant first, and the number they stand for. -/
def Positional (base : Nat) (digit? : CodePoint → Option Nat) (t : Text) (n : Nat) : Prop :=
  t ≠ [] ∧ ∃ digits, List.Forall₂ (fun c d => digit? c = some d) t digits ∧ n = Nat.ofDigits base digits.reverse

/-- A number without a sign as it may be written: decimal, or in another base behind a mark. -/
inductive Literal : Text → Nat → Prop where
  | decimal {t : Text} {n : Nat} : Positional 10 Numeral.decimalDigit? t n → Literal t n
  | hexadecimal {mark : CodePoint} {t : Text} {n : Nat} : mark = .scalar 'x' ∨ mark = .scalar 'X' →
      Positional 16 Numeral.hexDigit? t n → Literal (.scalar '0' :: mark :: t) n
  | binary {mark : CodePoint} {t : Text} {n : Nat} : mark = .scalar 'b' ∨ mark = .scalar 'B' →
      Positional 2 Numeral.binaryDigit? t n → Literal (.scalar '0' :: mark :: t) n

theorem value_eq_ofDigits (base : Nat) (digits : List Nat) :
    Numeral.value base digits = Nat.ofDigits base digits.reverse := by
  rw [Nat.ofDigits_eq_foldr, List.foldr_reverse, Numeral.value]
  congr 1
  funext total d
  rw [Nat.mul_comm, Nat.add_comm]
  rfl

theorem map_value_eq_some {base : Nat} {digit? : CodePoint → Option Nat} {t : Text} {n : Nat} :
    (Numeral.digits? digit? t).map (Numeral.value base) = some n ↔ Positional base digit? t n := by
  simp only [Option.map_eq_some_iff, digits?_eq_some, value_eq_ofDigits, Positional]
  constructor
  · rintro ⟨digits, ⟨some, each⟩, rfl⟩
    exact ⟨some, digits, each, rfl⟩
  · rintro ⟨some, digits, each, rfl⟩
    exact ⟨digits, ⟨some, each⟩, rfl⟩

theorem basedNumber?_of_digits {t : Text} (digits : ∀ c ∈ t, c.isDigit = true) : basedNumber? t = none := by
  cases found : basedNumber? t with
  | none => rfl
  | some n =>
    -- The mark of the base would be a digit.
    obtain ⟨mark, rest, same, noDigit, -⟩ := basedNumber?_eq_some found
    simp [digits mark (by simp [same])] at noDigit

theorem literal_of_basedNumber? {t : Text} {n : Nat} (read : basedNumber? t = some n) : Literal t n := by
  unfold basedNumber? at read
  split at read
  · split at read
    · next mark => exact .hexadecimal mark (map_value_eq_some.1 read)
    · split at read
      · next mark => exact .binary mark (map_value_eq_some.1 read)
      · cases read
  · cases read

theorem Literal.based_or_decimal {t : Text} {n : Nat} (literal : Literal t n) :
    basedNumber? t = some n ∨ Positional 10 Numeral.decimalDigit? t n := by
  cases literal with
  | decimal positional => exact .inr positional
  | hexadecimal mark positional => exact .inl (by simp [basedNumber?, mark, map_value_eq_some.2 positional])
  | @binary mark t n marked positional =>
    have other : ¬(mark = .scalar 'x' ∨ mark = .scalar 'X') := by
      rcases marked with rfl | rfl <;> decide
    exact .inl (by simp [basedNumber?, other, marked, map_value_eq_some.2 positional])

theorem Literal.isWord {t : Text} {n : Nat} (literal : Literal t n) : t ≠ [] ∧ ∀ c ∈ t, isNameChar c = true := by
  rcases literal.based_or_decimal with based | positional
  · obtain ⟨mark, rest, rfl, -, name⟩ := basedNumber?_eq_some based
    exact ⟨by simp, name⟩
  · obtain ⟨digits, decimal, -⟩ := Option.map_eq_some_iff.1 (map_value_eq_some.2 positional)
    have digit := forall_of_digits? isDigit_of_decimalDigit? decimal
    exact ⟨positional.1, fun c member => isNameChar_of_isDigit (digit c member)⟩

/-- Decimal literals are read up to the limit, and the others without one. -/
theorem unsignedNumber?_eq_some {t : Text} {n : Nat} :
    unsignedNumber? t = .ok (some n) ↔ Literal t n ∧ ((∀ c ∈ t, c.isDigit = true) → t.length ≤ Numeral.limit) := by
  constructor
  · intro read
    unfold unsignedNumber? at read
    cases based : basedNumber? t with
    | some m =>
      simp only [based] at read
      cases read
      refine ⟨literal_of_basedNumber? based, fun digits => ?_⟩
      simp [basedNumber?_of_digits digits] at based
    | none =>
      cases decimal : Numeral.digits? Numeral.decimalDigit? t with
      | none => simp [based, decimal] at read
      | some digits =>
        have count : t.length = digits.length := (digits?_eq_some.1 decimal).2.length_eq
        simp only [based, decimal, Numeral.ofDigits] at read
        split at read
        · cases read
        · next short =>
          cases read
          exact ⟨.decimal (map_value_eq_some.1 (by rw [decimal]; rfl)), fun _ => by omega⟩
  · rintro ⟨literal, short⟩
    unfold unsignedNumber?
    rcases literal.based_or_decimal with based | positional
    · rw [based]
    · obtain ⟨digits, decimal, rfl⟩ := Option.map_eq_some_iff.1 (map_value_eq_some.2 positional)
      have each := forall_of_digits? isDigit_of_decimalDigit? decimal
      have count : t.length = digits.length := (digits?_eq_some.1 decimal).2.length_eq
      have within := short each
      rw [basedNumber?_of_digits each, decimal]
      simp only [Numeral.ofDigits]
      rw [if_neg (by omega)]
      rfl

theorem unsignedNumber?_eq_error {t : Text} {e : TooLong} :
    unsignedNumber? t = .error e ↔ (∀ c ∈ t, c.isDigit = true) ∧ Numeral.limit < t.length := by
  constructor
  · intro read
    unfold unsignedNumber? at read
    cases based : basedNumber? t with
    | some m => simp [based] at read
    | none =>
      cases decimal : Numeral.digits? Numeral.decimalDigit? t with
      | none => simp [based, decimal] at read
      | some digits =>
        have count : t.length = digits.length := (digits?_eq_some.1 decimal).2.length_eq
        refine ⟨forall_of_digits? isDigit_of_decimalDigit? decimal, ?_⟩
        simp only [based, decimal, Numeral.ofDigits] at read
        split at read
        · omega
        · cases read
  · rintro ⟨digits, long⟩
    have filled : t ≠ [] := by
      rintro rfl
      simp at long
    have each : List.Forall₂ (fun c d => Numeral.decimalDigit? c = some d) t (t.map fun c => c.toNat - '0'.toNat) := by
      rw [List.forall₂_map_right_iff, List.forall₂_same]
      intro c member
      simp [Numeral.decimalDigit?, digits c member]
    have decimal := digits?_eq_some.2 ⟨filled, each⟩
    simp only [unsignedNumber?, basedNumber?_of_digits digits, decimal, Numeral.ofDigits, List.length_map, if_pos long]
    rfl

/-! ## Terms that read as no number -/

theorem number?_of_isName {t : Text} (name : isName t = true) : number? t = .ok none := by
  simp only [isName, Bool.and_eq_true, List.all_eq_true] at name
  rcases number?_eq_none_or fun d member => inTerm_of_isNameChar (name.2 d member) with none | ⟨digit, -⟩
  · exact none
  · cases t with
    | nil => simp at digit
    | cons c rest =>
      have start : isNameStart c = true := by simpa using name.1
      simp only [isNameStart, Bool.and_eq_true, Bool.not_eq_true'] at start
      simp [start.2] at digit

theorem number?_of_quoted {q : CodePoint} (quote : isQuote q = true) (inside : Text) :
    number? (q :: (inside ++ [q])) = .ok none := by
  have visible := isSpace_of_isQuote quote
  have tight : Text.Tight (q :: (inside ++ [q])) := ⟨⟨q, inside ++ [q], rfl, visible⟩, ⟨q :: inside, q, rfl, visible⟩⟩
  have noName := isNameChar_of_isQuote quote
  have unsigned : unsignedNumber? (q :: (inside ++ [q])) = .ok none := by
    cases read : unsignedNumber? (q :: (inside ++ [q])) with
    | error e => simp [isNameChar_of_isDigit ((unsignedNumber?_eq_error.1 read).1 q (by simp))] at noName
    | ok found =>
      cases found with
      | none => rfl
      | some n => simp [(unsignedNumber?_eq_some.1 read).1.isWord.2 q (by simp)] at noName
  rw [number?, tight.trim_eq]
  split
  · next same =>
    cases same
    exact absurd quote (by decide)
  · rw [unsigned]
    rfl

/-! ## Strings -/

theorem stringBody?_eq_some {t inside : Text} :
    stringBody? t = some inside ↔ ∃ q, isQuote q = true ∧ q ∉ inside ∧ t = q :: (inside ++ [q]) := by
  constructor
  · intro string
    cases t with
    | nil => cases string
    | cons q rest =>
      simp only [stringBody?] at string
      split at string
      · next quote =>
        split at string
        · next found =>
          cases string
          exact ⟨q, quote, not_mem_of_closeQuote? found, by rw [closeQuote?_eq_append found]⟩
        · cases string
      · cases string
  · rintro ⟨q, quote, absent, rfl⟩
    simp [stringBody?, quote, closeQuote?_append absent]

theorem charCode?_of_isName {t : Text} (name : isName t = true) : charCode? t = none := by
  have noString : stringBody? t = none := by
    cases string : stringBody? t with
    | none => rfl
    | some inside =>
      obtain ⟨q, quote, -, rfl⟩ := stringBody?_eq_some.1 string
      simp [isName, isNameStart, isNameChar_of_isQuote quote] at name
  rw [charCode?, noString]

theorem charCode?_eq_some {t : Text} {code : Nat} :
    charCode? t = some code ↔ ∃ q c, isQuote q = true ∧ c ≠ q ∧ t = [q, c, q] ∧ code = c.toNat := by
  constructor
  · intro char
    unfold charCode? at char
    split at char
    · next c string =>
      obtain ⟨q, quote, absent, same⟩ := stringBody?_eq_some.1 string
      cases char
      exact ⟨q, c, quote, fun equal => absent (by simp [equal]), same, rfl⟩
    · cases char
  · rintro ⟨q, c, quote, different, rfl, rfl⟩
    have string : stringBody? [q, c, q] = some [c] :=
      stringBody?_eq_some.2 ⟨q, quote, by simpa using Ne.symm different, rfl⟩
    rw [charCode?, string]

theorem stringBody?_of_unclosed {c : CodePoint} {w : Text} (unclosed : isQuote c = true → c ∉ w) :
    stringBody? (c :: w) = none := by
  cases string : stringBody? (c :: w) with
  | none => rfl
  | some inside =>
    obtain ⟨q, quote, -, same⟩ := stringBody?_eq_some.1 string
    cases same
    exact absurd (by simp) (unclosed quote)

end AsmCheck.Source
