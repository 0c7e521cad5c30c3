import AsmCheck.Proofs.Program.Substitution
import AsmCheck.Proofs.Source.Names

/-! Names that a line can define and names that a text can use. A definition takes letters in any case, and four
letters beyond ASCII are case variants of ASCII letters; a word that is looked up has ASCII letters only. So a constant
with one of the four in its name is defined and never found. -/

set_option autoImplicit false

namespace AsmCheck

open Source (Piece Leads isQuote isNameChar isNameStart isName isConstantStart isConstantChar pieces)

/-! ## Characters of defined names -/

namespace Source

variable {c : CodePoint}

theorem isConstantStart_cases (start : isConstantStart c = true) :
    ((65 ≤ c.toNat ∧ c.toNat ≤ 90) ∨ (97 ≤ c.toNat ∧ c.toNat ≤ 122)) ∨ c = .scalar '_' ∨ 0x80 ≤ c.toNat := by
  simp only [isConstantStart, Bool.or_eq_true, beq_iff_eq] at start
  rcases start with ((((letter | rfl) | dotted) | dotless) | long) | kelvin
  · cases c with
    | surrogate index => simp [CodePoint.isAlpha, CodePoint.char?] at letter
    | scalar c => exact .inl (isAlpha_iff_toNat.1 letter)
  · exact .inr (.inl rfl)
  · exact .inr (.inr (by omega))
  · exact .inr (.inr (by omega))
  · exact .inr (.inr (by omega))
  · exact .inr (.inr (by omega))

/-- Within ASCII definitions and uses have the same characters. -/
theorem isNameChar_iff_of_isConstantChar (constant : isConstantChar c = true) : isNameChar c = true ↔ c.toNat < 0x80 := by
  constructor
  · intro name
    have range := isNameChar_toNat name
    omega
  · intro ascii
    simp only [isConstantChar, Bool.or_eq_true] at constant
    rcases constant with start | digit
    · rcases isConstantStart_cases start with letter | rfl | beyond
      · exact isNameChar_of_toNat (.inr letter)
      · decide
      · omega
    · exact isNameChar_of_isDigit digit

theorem isDigit_of_isConstantStart (start : isConstantStart c = true) : c.isDigit = false := by
  rw [Bool.eq_false_iff]
  intro digit
  have range := toNat_of_isDigit digit
  rcases isConstantStart_cases start with letter | rfl | beyond
  · omega
  · exact absurd digit (by decide)
  · omega

/-- A defined name can be looked up exactly if it is all ASCII. -/
theorem isName_iff_of_classify {line name value : Text} (defined : classify line = .constant name value) :
    isName name = true ↔ ∀ c ∈ name, c.toNat < 0x80 := by
  have constant := isConstantChar_of_mem_name defined
  constructor
  · intro named c member
    simp only [isName, Bool.and_eq_true, List.all_eq_true] at named
    exact (isNameChar_iff_of_isConstantChar (constant c member)).1 (named.2 c member)
  · intro ascii
    have inside : ∀ c ∈ name, isNameChar c = true :=
      fun c member => (isNameChar_iff_of_isConstantChar (constant c member)).2 (ascii c member)
    obtain ⟨c, more, rfl, start⟩ := isConstantStart_of_classify defined
    simp only [isName, Bool.and_eq_true, List.all_eq_true]
    exact ⟨by simp [isNameStart, inside c (by simp), isDigit_of_isConstantStart start], inside⟩

end Source

/-! ## Looking a defined name up -/

namespace Program

variable {constants : Bindings Int} {t name : Text} {v : Int}

/-- A text none of whose pieces is bound stays as it is. -/
theorem substituted_self (unbound : ∀ p ∈ pieces t, canName p = true → constants.get? p.text = none) :
    Substituted constants t t := by
  induction t using Source.pieces_induction with
  | nil => exact .nil
  | @cons p rest leads ih =>
    rw [Source.pieces_append leads] at unbound
    exact .kept leads (unbound p (by simp)) (ih fun q later => unbound q (by simp [later]))

theorem substitute_name (free : QuoteFree [(name, v)]) (named : isName name = true)
    (short : (Text.ofNat v.natAbs).length ≤ Numeral.limit) : substitute [(name, v)] name = .ok (Text.ofInt v) := by
  simp only [isName, Bool.and_eq_true, List.all_eq_true] at named
  have some : name ≠ [] := by
    rintro rfl
    simp at named
  have leads : Leads (.word name) [] := .word some named.2 (by simp)
  have related : Substituted [(name, v)] (name ++ []) (Text.ofInt v ++ []) :=
    .replaced leads named.1 (by simp [Bindings.get?]) short .nil
  rw [List.append_nil, List.append_nil] at related
  exact (substitute_eq_ok free).2 related

/-- What is no name is cut into pieces that are all shorter, and none of them is bound. -/
theorem substitute_of_not_isName (free : QuoteFree [(name, v)]) {c : CodePoint} (member : c ∈ name)
    (noName : isNameChar c = false) : substitute [(name, v)] name = .ok name := by
  apply (substitute_eq_ok free).2
  apply substituted_self
  intro p piece named
  have different : p.text ≠ name := by
    intro same
    obtain ⟨rest, leads⟩ := Source.leads_of_mem_pieces piece
    cases leads with
    | @quoted q inside _ quote _ =>
      have noQuote := free name (by simp [Bindings.names]) q (by simp [← same, Piece.text])
      simp [quote] at noQuote
    | word _ inside _ =>
      rw [← same] at member
      simp [inside c member] at noName
    | lone _ _ | plain _ _ => cases named
  rw [Bindings.get?_eq_none]
  simpa [Bindings.names] using different

/-- A constant that a line defines gives way to its numeral exactly if its name is all ASCII, and otherwise stays as it
is written. -/
theorem defined_constant_replaced_iff {line name value : Text} (defined : Source.classify line = .constant name value)
    {v : Int} (short : (Text.ofNat v.natAbs).length ≤ Numeral.limit) :
    (substitute [(name, v)] name = .ok (Text.ofInt v) ↔ ∀ c ∈ name, c.toNat < 0x80) ∧
      ((∃ c ∈ name, 0x80 ≤ c.toNat) → substitute [(name, v)] name = .ok name) := by
  have constant := Source.isConstantChar_of_mem_name defined
  have free : QuoteFree [(name, v)] := by
    intro other bound c member
    simp only [Bindings.names, List.map_cons, List.map_nil, List.mem_singleton] at bound
    exact Source.isQuote_of_isConstantChar (constant c (bound ▸ member))
  have stays : (∃ c ∈ name, 0x80 ≤ c.toNat) → substitute [(name, v)] name = .ok name := by
    rintro ⟨c, member, beyond⟩
    refine substitute_of_not_isName free member (Bool.eq_false_iff.2 fun inName => ?_)
    have ascii := (Source.isNameChar_iff_of_isConstantChar (constant c member)).1 inName
    omega
  refine ⟨⟨?_, fun ascii => substitute_name free ((Source.isName_iff_of_classify defined).2 ascii) short⟩, stays⟩
  intro replaced
  by_contra beyond
  simp only [not_forall, Nat.not_lt, exists_prop] at beyond
  -- The name itself would be a numeral, but a numeral starts with no letter.
  obtain ⟨c, more, rfl, start⟩ := Source.isConstantStart_of_classify defined
  have same : c :: more = Text.ofInt v := Except.ok.inj ((stays beyond).symm.trans replaced)
  have numeral := isNumeralChar_of_mem_ofInt (show c ∈ Text.ofInt v by simp [← same])
  simp only [isNumeralChar, Source.isDigit_of_isConstantStart start, Bool.false_or, beq_iff_eq] at numeral
  rw [numeral] at start
  exact absurd start (by decide)

/-- A name with an underscore and a digit, and a negative value. -/
theorem defined_constant_replaced_negative :
    Source.classify "  _max2:\teQu 0x10 ; limit" = .constant "_max2" "0x10" ∧
      substitute [("_max2", -16)] "_max2" = .ok "-16" := by
  have defined : Source.classify "  _max2:\teQu 0x10 ; limit" = .constant "_max2" "0x10" := by decide +kernel
  exact ⟨defined, (defined_constant_replaced_iff defined (by decide)).1.2 (by decide)⟩

/-- The long s is a case variant of an ASCII letter. -/
theorem defined_constant_kept_long_s :
    Source.classify "\u017f EQU 5" = .constant "\u017f" "5" ∧ substitute [("\u017f", 5)] "\u017f" = .ok "\u017f" ∧
      ("\u017f" : Text) ≠ Text.ofInt 5 := by
  decide +kernel

end Program

end AsmCheck
