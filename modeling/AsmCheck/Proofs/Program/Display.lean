import AsmCheck.Program.Display
import AsmCheck.Proofs.Sequence
import AsmCheck.Proofs.Source.Numbers
import AsmCheck.Proofs.Text.Words
import Mathlib.Order.Bounds.Basic

/-! The size of the display. Both kinds of addresses are said without the scan, by where they stand in an operand, and
all that is asked of constants and instructions is which of them there are. A constant may count twice: as the base
and, by its name, as the size. -/

set_option autoImplicit false

namespace AsmCheck.Program

open Numeral (TooLong)
open Source (IsDigit IsNumeral)

/-! ## What decides -/

/-- The value of the constant is a display address. -/
def IsBase (c : Text × Int) : Prop := 0xF000 ≤ c.2 ∧ c.2 ≤ 0xFFFF

/-- The constant is positive, and part of its name suggests a size. -/
def IsSize (c : Text × Int) : Prop := (∃ hint ∈ sizeHints, hint <:+: Text.upper c.1) ∧ 0 < c.2

/-- Digits of any script that make up a word of the text. -/
def DigitWord (t : Text) (digits : List Nat) : Prop :=
  ∃ before word after, t = before ++ (word ++ after) ∧ Text.endsWord before.reverse = true ∧
    Text.endsWord after = true ∧ word ≠ [] ∧ List.Forall₂ (fun c d => Text.digitValue? c = some d) word digits

/-- A display address that stands in an operand: hexadecimal with an F and three more digits up to the end of a word, or
a decimal word. -/
inductive IsAddress (operand : Text) : Int → Prop where
  | hexadecimal {before digits after : Text} {n : Nat} :
      Text.upper operand = before ++ (.scalar '0' :: .scalar 'X' :: .scalar 'F' :: (digits ++ after)) →
      digits.length = 3 → IsNumeral 16 digits n → Text.endsWord after = true → IsAddress operand (0xF000 + n)
  | decimal {digits : List Nat} {n : Nat} : DigitWord (Text.upper operand) digits →
      n = Nat.ofDigits 10 digits.reverse → 0xF000 ≤ n → n ≤ 0xFFFF → IsAddress operand n

/-- The address stands in some operand of some instruction. -/
def Touches (p : Program) (a : Int) : Prop := ∃ i ∈ p.instructions, ∃ operand ∈ i.operands, IsAddress operand a

/-- Some operand has a decimal word beyond the limit. -/
def Overlong (p : Program) : Prop :=
  ∃ i ∈ p.instructions, ∃ operand ∈ i.operands, ∃ digits, DigitWord (Text.upper operand) digits ∧
    Numeral.limit < digits.length

def HasBase (p : Program) : Prop := ∃ c ∈ p.constants, IsBase c

def SizeValues (p : Program) : Set Int := {n | ∃ c ∈ p.constants, IsSize c ∧ c.2 = n}

/-- There is a base, and there is a size. -/
def RolesTaken (p : Program) : Prop := p.HasBase ∧ p.SizeValues.Nonempty

/-- The greatest display address decides, if there is any. -/
inductive AddressSize (p : Program) : Int × Int → Prop where
  | untouched : (∀ a, ¬p.Touches a) → AddressSize p (8, 8)
  | near {a : Int} : IsGreatest {b | p.Touches b} a → a < 0xF100 → AddressSize p (16, 16)
  | far {a : Int} : IsGreatest {b | p.Touches b} a → 0xF100 ≤ a → AddressSize p (64, 64)

/-- What the size of the display comes to. -/
inductive Displays (p : Program) : Except TooLong (Int × Int) → Prop where
  | constants {n : Int} : p.HasBase → IsGreatest p.SizeValues n → Displays p (.ok (n, n))
  | addresses {size : Int × Int} : ¬p.RolesTaken → ¬p.Overlong → p.AddressSize size →
      Displays p (.ok size)
  | overlong : ¬p.RolesTaken → p.Overlong → Displays p (.error ⟨⟩)

variable {p : Program}

/-! ## Constants -/

theorem isGreatest_foldl_max (start : Int) (values : List Int) :
    IsGreatest {n | n = start ∨ n ∈ values} (values.foldl max start) := by
  induction values generalizing start with
  | nil => simp [IsGreatest, upperBounds]
  | cons n rest ih =>
    obtain ⟨reached, bound⟩ := ih (max start n)
    have most : max start n ≤ rest.foldl max (max start n) := bound (.inl rfl)
    refine ⟨?_, ?_⟩
    · rcases reached with same | later
      · rcases max_choice start n with first | second
        · exact .inl (same.trans first)
        · exact .inr (by simp [same.trans second])
      · exact .inr (by simp [later])
    · rintro m (rfl | member)
      · exact (le_max_left m n).trans most
      · rcases List.mem_cons.1 member with rfl | later
        · exact (le_max_right start m).trans most
        · exact bound (.inr later)

theorem inDisplay_eq_true {n : Int} : inDisplay n = true ↔ 0xF000 ≤ n ∧ n ≤ 0xFFFF := by
  simp only [inDisplay, Bool.and_eq_true, decide_eq_true_eq]
  rfl

theorem isSizeName_eq_true {name : Text} : isSizeName name = true ↔ ∃ hint ∈ sizeHints, hint <:+: Text.upper name := by
  simp only [isSizeName, List.any_eq_true, Text.contains_eq_true]

theorem any_inDisplay : (p.constants.any fun c => inDisplay c.2) = true ↔ p.HasBase := by
  simp only [List.any_eq_true, inDisplay_eq_true, HasBase, IsBase]

theorem isGreatest_sizeConstant (p : Program) :
    IsGreatest {n | n = 0 ∨ ∃ c ∈ p.constants, isSizeName c.1 = true ∧ c.2 = n} (sizeConstant p.constants) := by
  have greatest := isGreatest_foldl_max 0 ((p.constants.filter fun c => isSizeName c.1).map Prod.snd)
  simpa only [sizeConstant, List.foldl_map, List.mem_map, List.mem_filter, and_assoc] using greatest

theorem isGreatest_sizeValues (positive : 0 < sizeConstant p.constants) :
    IsGreatest p.SizeValues (sizeConstant p.constants) := by
  obtain ⟨reached, bound⟩ := isGreatest_sizeConstant p
  refine ⟨?_, ?_⟩
  · rcases reached with zero | ⟨c, member, named, same⟩
    · omega
    · exact ⟨c, member, ⟨isSizeName_eq_true.1 named, by omega⟩, same⟩
  · rintro n ⟨c, member, ⟨named, -⟩, rfl⟩
    exact bound (.inr ⟨c, member, isSizeName_eq_true.2 named, rfl⟩)

theorem sizeConstant_pos : 0 < sizeConstant p.constants ↔ p.SizeValues.Nonempty := by
  constructor
  · intro positive
    exact (isGreatest_sizeValues positive).nonempty
  · rintro ⟨n, c, member, ⟨named, positive⟩, rfl⟩
    exact lt_of_lt_of_le positive ((isGreatest_sizeConstant p).2 (.inr ⟨c, member, isSizeName_eq_true.2 named, rfl⟩))

/-! ## Decimal words -/

theorem forall₂_digits {word : Text} {digits : List Nat} :
    List.Forall₂ (fun c d => Text.digitValue? c = some d) word digits ↔
      (∀ c ∈ word, Text.isDigit c = true) ∧ digits = word.filterMap Text.digitValue? := by
  induction word generalizing digits with
  | nil => simp
  | cons c rest ih =>
    rw [List.forall₂_cons_left_iff]
    constructor
    · rintro ⟨d, more, first, later, rfl⟩
      obtain ⟨all, rfl⟩ := ih.1 later
      exact ⟨by simpa [Text.isDigit, first] using all, by simp [first]⟩
    · rintro ⟨all, rfl⟩
      obtain ⟨d, first⟩ := Option.isSome_iff_exists.1 (all c (by simp))
      exact ⟨d, rest.filterMap Text.digitValue?, first, ih.2 ⟨fun e member => all e (by simp [member]), rfl⟩, by simp [first]⟩

/-- A word of digits in front of a text is all the digits there. -/
theorem exists_word_iff {c : CodePoint} {rest : Text} {digits : List Nat} :
    (∃ word after, c :: rest = word ++ after ∧ Text.endsWord after = true ∧ word ≠ [] ∧
      List.Forall₂ (fun c d => Text.digitValue? c = some d) word digits) ↔
    Text.isDigit c = true ∧ Text.endsWord (rest.dropWhile Text.isDigit) = true ∧
      digits = ((c :: rest).takeWhile Text.isDigit).filterMap Text.digitValue? := by
  constructor
  · rintro ⟨word, after, same, ends, some, each⟩
    obtain ⟨d, more, rfl⟩ := List.exists_cons_of_ne_nil some
    obtain ⟨all, rfl⟩ := forall₂_digits.1 each
    obtain ⟨rfl, rfl⟩ := List.cons.inj same
    have stop : ∀ e ∈ after.head?, Text.isDigit e = false := by
      intro e first
      rw [Bool.eq_false_iff]
      intro digit
      exact absurd (Text.endsWord_eq_true.1 ends e first) (by simp [Text.isWordChar_of_isDigit digit])
    have taken := Source.takeWhile_append_stop all stop
    have left := Source.dropWhile_append_stop (fun e member => all e (List.mem_cons_of_mem c member)) stop
    exact ⟨all c (by simp), (congrArg Text.endsWord left).trans ends, congrArg _ taken.symm⟩
  · rintro ⟨digit, ends, rfl⟩
    refine ⟨(c :: rest).takeWhile Text.isDigit, (c :: rest).dropWhile Text.isDigit,
      List.takeWhile_append_dropWhile.symm, ?_, by simp [digit], forall₂_digits.2 ⟨?_, rfl⟩⟩
    · simpa [digit] using ends
    · intro e member
      exact List.mem_takeWhile_imp member

/-- The scan remembers of what it has passed whether a word goes on. -/
theorem mem_digitWordsFrom {inWord : Bool} {t : Text} {digits : List Nat} :
    digits ∈ digitWords inWord t ↔ ∃ before word after, t = before ++ (word ++ after) ∧
      before.foldl (fun _ c => Text.isWordChar c) inWord = false ∧ Text.endsWord after = true ∧ word ≠ [] ∧
      List.Forall₂ (fun c d => Text.digitValue? c = some d) word digits := by
  induction t generalizing inWord with
  | nil =>
    simp only [digitWords, List.not_mem_nil, false_iff]
    rintro ⟨before, word, after, same, -, -, some, -⟩
    simp [some] at same
  | cons c rest ih =>
    rw [digitWords, List.mem_append, ih]
    constructor
    · rintro (here | ⟨before, word, after, rfl, apart, shape⟩)
      · split at here
        · next first =>
          simp only [Bool.and_eq_true, Bool.not_eq_true'] at first
          obtain ⟨word, after, same, shape⟩ := exists_word_iff.2 ⟨first.1.2, first.2, List.mem_singleton.1 here⟩
          exact ⟨[], word, after, same, first.1.1, shape⟩
        · cases here
      · exact ⟨c :: before, word, after, rfl, apart, shape⟩
    · rintro ⟨before, word, after, same, apart, shape⟩
      cases before with
      | nil =>
        obtain ⟨digit, ends, all⟩ := exists_word_iff.1 ⟨word, after, same, shape⟩
        left
        simp only [List.foldl_nil] at apart
        simp [apart, digit, ends, all]
      | cons d before =>
        cases same
        exact .inr ⟨before, word, after, rfl, apart, shape⟩

theorem foldl_isWordChar (before : Text) :
    before.foldl (fun _ c => Text.isWordChar c) false = !Text.endsWord before.reverse := by
  rw [← List.foldr_reverse]
  cases before.reverse with
  | nil => rfl
  | cons c rest => simp [Text.endsWord]

theorem mem_digitWords {t : Text} {digits : List Nat} : digits ∈ digitWords false t ↔ DigitWord t digits := by
  simp only [mem_digitWordsFrom, foldl_isWordChar, Bool.not_eq_false', DigitWord]

/-! ## Hexadecimal addresses -/

theorem value_of_three {digits : List Nat} (three : digits.length = 3) :
    Numeral.value 16 (0xF :: digits) = 0xF000 + Nat.ofDigits 16 digits.reverse := by
  rw [Source.value_eq_ofDigits, List.reverse_cons, Nat.ofDigits_append, List.length_reverse, three,
    Nat.ofDigits_singleton]
  omega

theorem mem_hexAddresses {t : Text} {a : Int} :
    a ∈ hexAddresses t ↔ ∃ before digits after, ∃ n : Nat,
      t = before ++ (.scalar '0' :: .scalar 'X' :: .scalar 'F' :: (digits ++ after)) ∧ digits.length = 3 ∧
      IsNumeral 16 digits n ∧ Text.endsWord after = true ∧ a = 0xF000 + n := by
  induction t with
  | nil => simp [hexAddresses]
  | cons c rest ih =>
    rw [hexAddresses, List.mem_append, ih]
    constructor
    · rintro (here | ⟨before, digits, after, n, rfl, shape⟩)
      · split at here
        · next x y z after whole =>
          split at here
          · next ends =>
            split at here
            · next digits read =>
              have each := mapM_eq_some.1 read
              have three : digits.length = 3 := each.length_eq.symm
              refine ⟨[], [x, y, z], after, Nat.ofDigits 16 digits.reverse, whole, rfl, ?_, ends, ?_⟩
              · exact (Source.positional_iff Source.hexDigit?_eq_some).1 ⟨by simp, digits, each, rfl⟩
              · rw [List.mem_singleton.1 here, value_of_three three, Nat.cast_add]
                rfl
            · cases here
          · cases here
        · cases here
      · exact ⟨c :: before, digits, after, n, rfl, shape⟩
    · rintro ⟨before, digits, after, n, same, three, numeral, ends, rfl⟩
      cases before with
      | nil =>
        left
        obtain ⟨x, y, z, rfl⟩ := List.length_eq_three.1 three
        cases same
        obtain ⟨-, digits, each, rfl⟩ := (Source.positional_iff Source.hexDigit?_eq_some).2 numeral
        have value := value_of_three each.length_eq.symm
        simp [ends, mapM_eq_some.2 each, value]
      | cons d before =>
        cases same
        exact .inr ⟨before, digits, after, n, rfl, three, numeral, ends, rfl⟩

/-! ## Addresses of a program -/

theorem IsAddress.start_le {operand : Text} {a : Int} (address : IsAddress operand a) : 0xF000 ≤ a := by
  cases address <;> omega

theorem operandAddresses_eq_error {operand : Text} : operandAddresses operand = .error ⟨⟩ ↔
    ∃ digits, DigitWord (Text.upper operand) digits ∧ Numeral.limit < digits.length := by
  have long : ∀ digits, Numeral.ofDigits digits = .error ⟨⟩ ↔ Numeral.limit < digits.length := by
    intro digits
    unfold Numeral.ofDigits
    split <;> simp [*]
  simp only [operandAddresses, bind_eq_error, Numeral.mapM_eq_error, mem_digitWords, long, reduceCtorEq, and_false,
    exists_false, or_false]

theorem mem_operandAddresses {operand : Text} {addresses : List Int} {a : Int}
    (found : operandAddresses operand = .ok addresses) : a ∈ addresses ↔ IsAddress operand a := by
  obtain ⟨decimals, read, same⟩ := bind_eq_ok.1 found
  cases same
  have each := mapM_eq_ok.1 read
  have value : ∀ {digits n}, Numeral.ofDigits digits = .ok n → n = Nat.ofDigits 10 digits.reverse := by
    intro digits n within
    unfold Numeral.ofDigits at within
    split at within
    · cases within
    · rw [← Source.value_eq_ofDigits, Except.ok.inj within]
  simp only [List.mem_append, mem_hexAddresses, List.mem_filter, List.mem_map, inDisplay_eq_true]
  constructor
  · rintro (⟨before, digits, after, n, split, three, numeral, ends, rfl⟩ | ⟨⟨n, member, rfl⟩, low, high⟩)
    · exact .hexadecimal split three numeral ends
    · obtain ⟨digits, word, within⟩ := exists_of_forall₂_of_mem_right each member
      exact .decimal (mem_digitWords.1 word) (value within) (by simpa using low) (by simpa using high)
  · intro address
    cases address with
    | @hexadecimal before digits after n split three numeral ends =>
      exact .inl ⟨before, digits, after, n, split, three, numeral, ends, rfl⟩
    | @decimal digits n word same low high =>
      obtain ⟨m, member, within⟩ := exists_of_forall₂_of_mem_left each (mem_digitWords.2 word)
      have equal : m = n := (value within).trans same.symm
      exact .inr ⟨⟨n, equal ▸ member, rfl⟩, by simpa using low, by simpa using high⟩

theorem displayAddresses_eq_error : p.displayAddresses = .error ⟨⟩ ↔ p.Overlong := by
  simp only [displayAddresses, bind_eq_error, Numeral.mapM_eq_error, operandAddresses_eq_error, List.mem_flatMap,
    reduceCtorEq, and_false, exists_false, or_false, Overlong]
  constructor
  · rintro ⟨operand, ⟨i, instruction, own⟩, long⟩
    exact ⟨i, instruction, operand, own, long⟩
  · rintro ⟨i, instruction, operand, own, long⟩
    exact ⟨operand, ⟨i, instruction, own⟩, long⟩

theorem mem_displayAddresses {addresses : List Int} {a : Int}
    (found : p.displayAddresses = .ok addresses) : a ∈ addresses ↔ p.Touches a := by
  obtain ⟨lists, read, same⟩ := bind_eq_ok.1 found
  cases same
  have each := mapM_eq_ok.1 read
  rw [List.mem_flatten]
  constructor
  · rintro ⟨part, member, inside⟩
    obtain ⟨operand, written, one⟩ := exists_of_forall₂_of_mem_right each member
    obtain ⟨i, instruction, own⟩ := List.mem_flatMap.1 written
    exact ⟨i, instruction, operand, own, (mem_operandAddresses one).1 inside⟩
  · rintro ⟨i, instruction, operand, own, address⟩
    obtain ⟨part, member, one⟩ := exists_of_forall₂_of_mem_left each (List.mem_flatMap.2 ⟨i, instruction, own⟩)
    exact ⟨part, member, (mem_operandAddresses one).2 address⟩

/-! ## The size -/

theorem addressSize_of_found {addresses : List Int} (found : p.displayAddresses = .ok addresses) :
    p.AddressSize (if addresses.isEmpty then (8, 8)
      else if addresses.foldl max 0 - displayStart ≥ 256 then (64, 64) else (16, 16)) := by
  have touched : ∀ a, a ∈ addresses ↔ p.Touches a := fun a => mem_displayAddresses found
  cases addresses with
  | nil => exact .untouched fun a address => absurd ((touched a).2 address) (by simp)
  | cons first rest =>
    obtain ⟨reached, bound⟩ := isGreatest_foldl_max 0 (first :: rest)
    have low : ∀ a ∈ first :: rest, 0xF000 ≤ a := by
      intro a member
      obtain ⟨i, -, operand, -, address⟩ := (touched a).1 member
      exact address.start_le
    have greatest : IsGreatest {a | p.Touches a} ((first :: rest).foldl max 0) := by
      refine ⟨?_, fun a address => bound (.inr ((touched a).2 address))⟩
      rcases reached with zero | member
      · have more := low first (by simp)
        have most := bound (.inr (List.mem_cons_self (a := first) (l := rest)))
        omega
      · exact (touched _).1 member
    simp only [List.isEmpty_cons, Bool.false_eq_true, if_false]
    split
    · next far => exact .far greatest (by unfold displayStart at far; omega)
    · next near => exact .near greatest (by unfold displayStart at near; omega)

theorem displays_displaySize (p : Program) : p.Displays p.displaySize := by
  have fromConstants : ((p.constants.any fun c => inDisplay c.2) && decide (0 < sizeConstant p.constants)) = true ↔
      p.RolesTaken := by
    rw [Bool.and_eq_true, any_inDisplay, decide_eq_true_eq, sizeConstant_pos, RolesTaken]
  simp only [displaySize]
  split
  · next decided =>
    obtain ⟨base, some⟩ := fromConstants.1 decided
    exact .constants base (isGreatest_sizeValues (sizeConstant_pos.2 some))
  · next undecided =>
    have other : ¬p.RolesTaken := fun both => undecided (fromConstants.2 both)
    cases found : p.displayAddresses with
    | error e => exact .overlong other (displayAddresses_eq_error.1 found)
    | ok addresses =>
      have short : ¬p.Overlong := by
        intro long
        simp [displayAddresses_eq_error.2 long] at found
      have size := Displays.addresses other short (addressSize_of_found found)
      rw [apply_ite Except.ok, apply_ite Except.ok] at size
      exact size

theorem AddressSize.unique {size other : Int × Int} (left : p.AddressSize size)
    (right : p.AddressSize other) : size = other := by
  cases left with
  | untouched none =>
    cases right with
    | untouched => rfl
    | near greatest _ => exact absurd greatest.1 (none _)
    | far greatest _ => exact absurd greatest.1 (none _)
  | near greatest low =>
    cases right with
    | untouched none => exact absurd greatest.1 (none _)
    | near => rfl
    | far other high =>
      cases greatest.unique other
      omega
  | far greatest high =>
    cases right with
    | untouched none => exact absurd greatest.1 (none _)
    | near other low =>
      cases greatest.unique other
      omega
    | far => rfl

theorem Displays.unique {result other : Except TooLong (Int × Int)} (left : p.Displays result)
    (right : p.Displays other) : result = other := by
  cases left with
  | constants base greatest =>
    cases right with
    | constants _ same => rw [greatest.unique same]
    | addresses none | overlong none => exact absurd ⟨base, greatest.nonempty⟩ none
  | addresses none short size =>
    cases right with
    | constants base greatest => exact absurd ⟨base, greatest.nonempty⟩ none
    | addresses _ _ same => rw [size.unique same]
    | overlong _ long => exact absurd long short
  | overlong none long =>
    cases right with
    | constants base greatest => exact absurd ⟨base, greatest.nonempty⟩ none
    | addresses _ short _ => exact absurd long short
    | overlong => rfl

/-- Neither order nor repetition matters. -/
theorem displaySize_congr {p q : Program} (constants : ∀ c, c ∈ q.constants ↔ c ∈ p.constants)
    (instructions : ∀ i, i ∈ q.instructions ↔ i ∈ p.instructions) : q.displaySize = p.displaySize := by
  have base : q.HasBase ↔ p.HasBase := by simp only [HasBase, constants]
  have values : q.SizeValues = p.SizeValues := by simp only [SizeValues, constants]
  have roles : q.RolesTaken ↔ p.RolesTaken := by rw [RolesTaken, RolesTaken, base, values]
  have long : q.Overlong ↔ p.Overlong := by simp only [Overlong, instructions]
  have touched : ∀ a, q.Touches a ↔ p.Touches a := by simp only [Touches, instructions, implies_true]
  have size : ∀ {size}, p.AddressSize size → q.AddressSize size := by
    intro size address
    cases address with
    | untouched none => exact .untouched (by simpa only [touched] using none)
    | near greatest low => exact .near (by simpa only [touched] using greatest) low
    | far greatest high => exact .far (by simpa only [touched] using greatest) high
  refine (displays_displaySize q).unique ?_
  have result := displays_displaySize p
  generalize p.displaySize = outcome at result ⊢
  cases result with
  | constants own greatest => exact .constants (base.2 own) (values ▸ greatest)
  | addresses none short address => exact .addresses (mt roles.1 none) (mt long.1 short) (size address)
  | overlong none own => exact .overlong (mt roles.1 none) (long.2 own)

/-! ## One constant in both roles -/

/-- Values of the sizes beside which another constant is the base. -/
def SharedSizes (p : Program) : Set Int :=
  {n | ∃ base ∈ p.constants, ∃ size ∈ p.constants, base ≠ size ∧ IsBase base ∧ IsSize size ∧ size.2 = n}

/-- Two constants decide, one as the base and another one as the size, and otherwise the addresses do. -/
def Sized (p : Program) (result : Except TooLong (Int × Int)) : Prop :=
  (p.SharedSizes.Nonempty → ∃ n, IsGreatest p.SharedSizes n ∧ result = .ok (n, n)) ∧
    (¬p.SharedSizes.Nonempty → ∃ size, p.AddressSize size ∧ result = .ok size)

/-- The only base is named like a size, and it is greater than any other size. -/
structure BothRoles (p : Program) (c : Text × Int) : Prop where
  member : c ∈ p.constants
  base : IsBase c
  size : IsSize c
  only : ∀ other ∈ p.constants, IsBase other → other = c
  greater : ∀ other ∈ p.constants, IsSize other → other ≠ c → other.2 < c.2

theorem sharedSizes_subset : p.SharedSizes ⊆ p.SizeValues := by
  rintro n ⟨-, -, size, member, -, -, isSize, same⟩
  exact ⟨size, member, isSize, same⟩

theorem rolesTaken_of_nonempty (shared : p.SharedSizes.Nonempty) : p.RolesTaken := by
  obtain ⟨n, base, own, size, member, -, isBase, isSize, same⟩ := shared
  exact ⟨⟨base, own, isBase⟩, n, size, member, isSize, same⟩

/-- The greatest size is a shared one, unless the base itself is the greatest. -/
theorem isGreatest_sharedSizes {n : Int} (taken : p.HasBase) (greatest : IsGreatest p.SizeValues n)
    (apart : ∀ c, ¬p.BothRoles c) : IsGreatest p.SharedSizes n := by
  refine ⟨?_, fun m shared => greatest.2 (sharedSizes_subset shared)⟩
  obtain ⟨size, member, isSize, rfl⟩ := greatest.1
  obtain ⟨base, own, isBase⟩ := taken
  by_contra alone
  have only : ∀ other ∈ p.constants, IsBase other → other = size := by
    intro other found isBase
    by_contra different
    exact alone ⟨other, found, size, member, different, isBase, isSize, rfl⟩
  have sizeIsBase : IsBase size := only base own isBase ▸ isBase
  refine apart size ⟨member, sizeIsBase, isSize, only, ?_⟩
  intro other found otherSize different
  refine lt_of_le_of_ne (greatest.2 ⟨other, found, otherSize, rfl⟩) fun same => ?_
  exact alone ⟨size, member, other, found, different.symm, sizeIsBase, otherSize, same⟩

theorem BothRoles.displaySize_eq {c : Text × Int} (both : p.BothRoles c) : p.displaySize = .ok (c.2, c.2) := by
  refine (displays_displaySize p).unique (.constants ⟨c, both.member, both.base⟩ ⟨⟨c, both.member, both.size, rfl⟩, ?_⟩)
  rintro n ⟨other, member, size, rfl⟩
  by_cases same : other = c
  · rw [same]
  · exact (both.greater other member size same).le

theorem BothRoles.not_mem_sharedSizes {c : Text × Int} (both : p.BothRoles c) : c.2 ∉ p.SharedSizes := by
  rintro ⟨base, own, size, member, different, isBase, isSize, same⟩
  have isOnly := both.only base own isBase
  have less := both.greater size member isSize fun equal => different (isOnly.trans equal.symm)
  omega

theorem AddressSize.fst_lt {size : Int × Int} (address : p.AddressSize size) : size.1 < 0xF000 := by
  cases address <;> decide

theorem BothRoles.not_sized {c : Text × Int} (both : p.BothRoles c) : ¬p.Sized p.displaySize := by
  rintro ⟨shared, addresses⟩
  by_cases some : p.SharedSizes.Nonempty
  · obtain ⟨n, greatest, same⟩ := shared some
    cases both.displaySize_eq.symm.trans same
    exact both.not_mem_sharedSizes greatest.1
  · -- The base is far greater than any size that the addresses give.
    obtain ⟨size, address, same⟩ := addresses some
    cases both.displaySize_eq.symm.trans same
    have low := both.base.1
    have high := address.fst_lt
    omega

theorem sized_displaySize (apart : ∀ c, ¬p.BothRoles c) (fits : p.SharedSizes.Nonempty ∨ ¬p.Overlong) :
    p.Sized p.displaySize := by
  have result := displays_displaySize p
  generalize p.displaySize = outcome at result ⊢
  cases result with
  | constants base greatest =>
    have shared := isGreatest_sharedSizes base greatest apart
    exact ⟨fun _ => ⟨_, shared, rfl⟩, fun none => absurd shared.nonempty none⟩
  | addresses none _ address =>
    exact ⟨fun some => absurd (rolesTaken_of_nonempty some) none, fun _ => ⟨_, address, rfl⟩⟩
  | overlong none long => exact absurd long (fits.resolve_left (mt rolesTaken_of_nonempty none))

/-- The size is as it should be unless the base is taken for the size too, or the addresses are asked for and a decimal
word goes beyond the limit; and it depends on no order. -/
theorem display_size_of_separate_roles (p : Program) :
    (p.Sized p.displaySize ↔ (∀ c, ¬p.BothRoles c) ∧ (p.SharedSizes.Nonempty ∨ ¬p.Overlong)) ∧
    (∀ c, p.BothRoles c → p.displaySize = .ok (c.2, c.2)) ∧
    (¬p.RolesTaken → p.Overlong → p.displaySize = .error ⟨⟩) ∧
    ∀ q : Program, q.constants.Perm p.constants → q.instructions.Perm p.instructions →
      q.displaySize = p.displaySize := by
  have overlong : ¬p.RolesTaken → p.Overlong → p.displaySize = .error ⟨⟩ :=
    fun none long => (displays_displaySize p).unique (.overlong none long)
  refine ⟨⟨?_, fun ⟨apart, fits⟩ => sized_displaySize apart fits⟩, fun c both => both.displaySize_eq, overlong,
    fun q constants instructions => displaySize_congr (fun c => constants.mem_iff) fun i => instructions.mem_iff⟩
  intro sized
  have apart : ∀ c, ¬p.BothRoles c := fun c both => both.not_sized sized
  refine ⟨apart, ?_⟩
  by_contra neither
  rw [not_or, not_not] at neither
  have undecided : ¬p.RolesTaken := by
    rintro ⟨base, some⟩
    have greatest := isGreatest_sizeValues (sizeConstant_pos.2 some)
    exact neither.1 (isGreatest_sharedSizes base greatest apart).nonempty
  obtain ⟨size, -, same⟩ := sized.2 neither.1
  cases (overlong undecided neither.2).symm.trans same

/-- A size without a base, and the greater one of two addresses in decimal. -/
theorem display_size_of_decimal_address :
    let p : Program := ⟨[⟨1, "MOV", ["[0xf0Ff]", "61700"], "MOV [0xf0Ff], 61700"⟩], [], [("GRID", 16)], [], 0⟩
    p.Sized p.displaySize ∧ p.displaySize = .ok (64, 64) := by
  intro p
  have apart : ∀ c, ¬p.BothRoles c := by
    intro c both
    cases List.mem_singleton.1 both.member
    exact absurd both.base.1 (by decide)
  have short : ¬p.Overlong := fun long => absurd (displayAddresses_eq_error.2 long) (by decide +kernel)
  exact ⟨(display_size_of_separate_roles p).1.2 ⟨apart, .inr short⟩, by decide +kernel⟩

/-- The base by itself is taken for the size. -/
theorem display_size_of_single_constant :
    let p : Program := ⟨[], [], [("SCREEN", 0xF000)], [], 0⟩
    ¬p.SharedSizes.Nonempty ∧ p.displaySize = .ok (0xF000, 0xF000) ∧ ¬p.Sized p.displaySize := by
  intro p
  have only : ∀ c ∈ p.constants, c = (("SCREEN" : Text), 0xF000) := fun c member => List.mem_singleton.1 member
  have both : p.BothRoles ("SCREEN", 0xF000) :=
    { member := List.mem_singleton.2 rfl
      base := ⟨by decide, by decide⟩
      size := ⟨isSizeName_eq_true.1 (by decide +kernel), by decide⟩
      only := fun other member _ => only other member
      greater := fun other member _ different => absurd (only other member) different }
  refine ⟨?_, both.displaySize_eq, both.not_sized⟩
  rintro ⟨n, base, own, size, member, different, -⟩
  exact different ((only base own).trans (only size member).symm)

end AsmCheck.Program
