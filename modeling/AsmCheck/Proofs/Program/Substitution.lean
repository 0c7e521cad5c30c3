import AsmCheck.Program.Substitution
import AsmCheck.Proofs.Bindings
import AsmCheck.Proofs.Sequence
import AsmCheck.Proofs.Source.Pieces

/-! Putting constants in, piece by piece. Every piece stays as it is or is a word that gives way to a
numeral, provided that no constant has a quote in its name. -/

set_option autoImplicit false

namespace AsmCheck

open Source (Piece Leads isQuote isNameChar isNameStart pieces)
open Numeral (TooLong)

/-! ## Numerals -/

/-- What a numeral is written with. -/
def isNumeralChar (c : CodePoint) : Bool := c.isDigit || c == '-'

theorem isDigit_of_mem_ofNat {n : Nat} {c : CodePoint} (member : c ∈ Text.ofNat n) : c.isDigit = true := by
  obtain ⟨d, digit, rfl⟩ := List.mem_map.1 member
  exact Nat.isDigit_of_mem_toDigits (by decide) (by decide) digit

theorem ofNat_ne_nil (n : Nat) : Text.ofNat n ≠ [] := by
  simp [Text.ofNat, Text.ofChars, Nat.toDigits_ne_nil]

theorem isNumeralChar_cases {c : CodePoint} (numeral : isNumeralChar c = true) :
    isNameChar c = true ∨ c = .scalar '-' := by
  simp only [isNumeralChar, Bool.or_eq_true, beq_iff_eq] at numeral
  rcases numeral with digit | rfl
  · exact .inl (Source.isNameChar_of_isDigit digit)
  · exact .inr rfl

theorem isSpace_of_isNumeralChar {c : CodePoint} (numeral : isNumeralChar c = true) : Text.isSpace c = false := by
  rcases isNumeralChar_cases numeral with name | rfl
  · exact Source.isSpace_of_isNameChar name
  · decide

theorem isQuote_of_isNumeralChar {c : CodePoint} (numeral : isNumeralChar c = true) : isQuote c = false := by
  rcases isNumeralChar_cases numeral with name | rfl
  · exact Source.isQuote_of_isNameChar name
  · decide

theorem isNumeralChar_of_mem_ofInt {v : Int} {c : CodePoint} (member : c ∈ Text.ofInt v) :
    isNumeralChar c = true := by
  have digit : c ∈ Text.ofNat v.natAbs → isNumeralChar c = true := fun found => by
    simp [isNumeralChar, isDigit_of_mem_ofNat found]
  unfold Text.ofInt at member
  split at member
  · rcases List.mem_cons.1 member with rfl | found
    · rfl
    · exact digit found
  · exact digit member

theorem ofInt_ne_nil (v : Int) : Text.ofInt v ≠ [] := by
  unfold Text.ofInt
  split
  · simp
  · exact ofNat_ne_nil _

theorem Numeral.write_eq_ok {v : Int} {t : Text} :
    write v = .ok t ↔ (Text.ofNat v.natAbs).length ≤ limit ∧ t = Text.ofInt v := by
  unfold write
  split
  · next long => simp [Nat.not_le.2 long]
  · next short => simp [Nat.not_lt.1 short, eq_comm]

namespace Program

variable {constants : Bindings Int} {t s : Text}

/-- No name has a quote in it. -/
def QuoteFree (constants : Bindings Int) : Prop := ∀ name ∈ constants.names, ∀ c ∈ name, isQuote c = false

/-- How a text comes out when the constants are put in. -/
inductive Substituted (constants : Bindings Int) : Text → Text → Prop where
  | nil : Substituted constants [] []
  | kept {p : Piece} {rest tail : Text} : Leads p rest → (canName p = true → constants.get? p.text = none) →
      Substituted constants rest tail → Substituted constants (p.text ++ rest) (p.text ++ tail)
  | replaced {letters rest tail : Text} {v : Int} : Leads (.word letters) rest → canName (.word letters) = true →
      constants.get? letters = some v → (Text.ofNat v.natAbs).length ≤ Numeral.limit →
      Substituted constants rest tail → Substituted constants (letters ++ rest) (Text.ofInt v ++ tail)

theorem substitute_nil : substitute constants [] = .ok [] := by
  simp [substitute, pieces, bind, Except.bind, pure, Except.pure]

theorem substitute_append {p : Piece} {rest : Text} (leads : Leads p rest) :
    substitute constants (p.text ++ rest) = .ok s ↔
      ∃ head tail, substitutePiece constants p = .ok head ∧ substitute constants rest = .ok tail ∧ s = head ++ tail := by
  simp only [substitute, Source.pieces_append leads, bind_eq_ok, mapM_eq_ok, List.forall₂_cons_left_iff]
  constructor
  · rintro ⟨parts, ⟨head, more, first, later, rfl⟩, result⟩
    cases result
    exact ⟨head, more.flatten, first, ⟨more, later, rfl⟩, rfl⟩
  · rintro ⟨head, tail, first, ⟨more, later, result⟩, rfl⟩
    cases result
    exact ⟨head :: more, ⟨head, more, first, later, rfl⟩, rfl⟩

theorem get?_quoted (free : QuoteFree constants) {q : CodePoint} (quote : isQuote q = true) (inside : Text) :
    constants.get? (q :: (inside ++ [q])) = none := by
  rw [Bindings.get?, List.lookup_eq_none_iff]
  rintro ⟨name, v⟩ member
  have noQuote := free name (List.mem_map_of_mem member)
  simp only [bne_iff_ne, ne_eq]
  rintro rfl
  simp [noQuote q (by simp)] at quote

theorem substitutePiece_eq_ok (free : QuoteFree constants) {p : Piece} {rest head : Text} (leads : Leads p rest) :
    substitutePiece constants p = .ok head ↔
      ((canName p = true → constants.get? p.text = none) ∧ head = p.text) ∨
      ∃ letters v, p = .word letters ∧ canName p = true ∧ constants.get? letters = some v ∧
        (Text.ofNat v.natAbs).length ≤ Numeral.limit ∧ head = Text.ofInt v := by
  unfold substitutePiece
  cases named : canName p with
  | false => simp [eq_comm]
  | true =>
    cases found : constants.get? p.text with
    | none =>
      simp only [if_true, Except.ok.injEq, true_implies, true_and]
      constructor
      · rintro rfl
        exact .inl rfl
      · rintro (rfl | ⟨letters, v, rfl, other, -⟩)
        · rfl
        · simp [Piece.text, other] at found
    | some v =>
      simp only [if_true, Numeral.write_eq_ok, reduceCtorEq, imp_false, not_true_eq_false, false_and, false_or,
        true_and]
      -- A quoted part is looked up as well, but no constant is called so.
      cases leads with
      | quoted quote absent => simp [Piece.text, get?_quoted free quote] at found
      | lone _ _ | plain _ _ => simp [canName] at named
      | @word letters rest some inside stop =>
        constructor
        · rintro ⟨short, rfl⟩
          exact ⟨letters, v, rfl, found, short, rfl⟩
        · rintro ⟨other, w, same, held, short, rfl⟩
          cases same
          rw [Piece.text, held] at found
          cases found
          exact ⟨short, rfl⟩

theorem substitute_eq_ok (free : QuoteFree constants) :
    substitute constants t = .ok s ↔ Substituted constants t s := by
  constructor
  · intro done
    induction t using Source.pieces_induction generalizing s with
    | nil =>
      rw [substitute_nil] at done
      cases done
      exact .nil
    | @cons p rest leads ih =>
      obtain ⟨head, tail, first, later, rfl⟩ := (substitute_append leads).1 done
      rcases (substitutePiece_eq_ok free leads).1 first with ⟨unbound, rfl⟩ | ⟨letters, v, rfl, named, found, short, rfl⟩
      · exact .kept leads unbound (ih later)
      · exact .replaced leads named found short (ih later)
  · intro related
    induction related with
    | nil => exact substitute_nil
    | kept leads unbound _ ih =>
      exact (substitute_append leads).2 ⟨_, _, (substitutePiece_eq_ok free leads).2 (.inl ⟨unbound, rfl⟩), ih, rfl⟩
    | replaced leads named found short _ ih =>
      refine (substitute_append leads).2 ⟨_, _, (substitutePiece_eq_ok free leads).2 (.inr ?_), ih, rfl⟩
      exact ⟨_, _, rfl, named, found, short, rfl⟩

/-- Every value is within the limit of numerals. -/
def Writable (constants : Bindings Int) : Prop := ∀ c ∈ constants, (Text.ofNat c.2.natAbs).length ≤ Numeral.limit

theorem exists_substitutePiece (writable : Writable constants) (p : Piece) :
    ∃ head, substitutePiece constants p = .ok head := by
  unfold substitutePiece
  split
  · split
    · next v found => exact ⟨_, Numeral.write_eq_ok.2 ⟨writable _ (Bindings.mem_of_get? found), rfl⟩⟩
    · exact ⟨_, rfl⟩
  · exact ⟨_, rfl⟩

theorem exists_substitute (writable : Writable constants) (t : Text) : ∃ s, substitute constants t = .ok s := by
  induction t using Source.pieces_induction with
  | nil => exact ⟨[], substitute_nil⟩
  | @cons p rest leads ih =>
    obtain ⟨tail, later⟩ := ih
    obtain ⟨head, first⟩ := exists_substitutePiece writable p
    exact ⟨head ++ tail, (substitute_append leads).2 ⟨head, tail, first, later, rfl⟩⟩

theorem Substituted.eq_nil_iff (related : Substituted constants t s) : t = [] ↔ s = [] := by
  cases related with
  | nil => simp
  | kept leads _ _ => simp [leads.text_ne_nil]
  | @replaced letters _ _ _ leads _ _ _ _ =>
    have some : letters ≠ [] := leads.text_ne_nil
    simp [some, ofInt_ne_nil]

/-- What becomes of a text is what becomes of its leading piece, followed by what becomes of the rest. -/
theorem Substituted.of_append (free : QuoteFree constants) {p : Piece} {rest : Text} (leads : Leads p rest)
    (related : Substituted constants (p.text ++ rest) s) :
    ∃ tail, Substituted constants rest tail ∧
      (((canName p = true → constants.get? p.text = none) ∧ s = p.text ++ tail) ∨
        ∃ letters v, p = .word letters ∧ canName p = true ∧ constants.get? letters = some v ∧
          (Text.ofNat v.natAbs).length ≤ Numeral.limit ∧ s = Text.ofInt v ++ tail) := by
  obtain ⟨head, tail, first, later, rfl⟩ := (substitute_append leads).1 ((substitute_eq_ok free).2 related)
  refine ⟨tail, (substitute_eq_ok free).1 later, ?_⟩
  rcases (substitutePiece_eq_ok free leads).1 first with ⟨unbound, rfl⟩ | ⟨letters, v, word, named, found, short, rfl⟩
  · exact .inl ⟨unbound, rfl⟩
  · exact .inr ⟨letters, v, word, named, found, short, rfl⟩

theorem Substituted.of_kept (free : QuoteFree constants) {p : Piece} {rest : Text} (leads : Leads p rest)
    (unbound : canName p = true → constants.get? p.text = none) (related : Substituted constants (p.text ++ rest) s) :
    ∃ tail, s = p.text ++ tail ∧ Substituted constants rest tail := by
  obtain ⟨tail, later, ⟨-, rfl⟩ | ⟨letters, v, rfl, named, found, -⟩⟩ := related.of_append free leads
  · exact ⟨tail, rfl, later⟩
  · have missing := unbound named
    rw [Piece.text, found] at missing
    cases missing

theorem Substituted.of_other (free : QuoteFree constants) {c : CodePoint} {rest : Text} (leads : Leads (.other c) rest)
    (related : Substituted constants (c :: rest) s) : ∃ tail, s = c :: tail ∧ Substituted constants rest tail :=
  Substituted.of_kept free leads (by simp [canName]) related

/-! ## Words that give way to numerals -/

/-- Some stretches of name characters have given way to numerals. Unlike a substitution this does not care where
quoted parts start, so it can be cut at any character that is none of a name. -/
inductive Edited : Text → Text → Prop where
  | nil : Edited [] []
  | keep {c : CodePoint} {rest tail : Text} : Edited rest tail → Edited (c :: rest) (c :: tail)
  | swap {letters rest tail : Text} {v : Int} : letters ≠ [] → (∀ c ∈ letters, isNameChar c = true) →
      Edited rest tail → Edited (letters ++ rest) (Text.ofInt v ++ tail)

theorem Edited.keep_append {rest tail : Text} (edited : Edited rest tail) (front : Text) :
    Edited (front ++ rest) (front ++ tail) := by
  induction front with
  | nil => exact edited
  | cons c more ih => exact .keep ih

theorem Substituted.edited (related : Substituted constants t s) : Edited t s := by
  induction related with
  | nil => exact .nil
  | kept _ _ _ ih => exact ih.keep_append _
  | replaced leads _ _ _ _ ih =>
    cases leads with
    | word some inside _ => exact .swap some inside ih

/-- Every new character is an old one or one of a numeral. -/
theorem Edited.mem (edited : Edited t s) {c : CodePoint} (member : c ∈ s) : c ∈ t ∨ isNumeralChar c = true := by
  induction edited with
  | nil => exact .inl member
  | keep _ ih =>
    rcases List.mem_cons.1 member with rfl | later
    · exact .inl (by simp)
    · exact (ih later).imp_left (List.mem_cons_of_mem _)
  | swap _ _ _ ih =>
    rcases List.mem_append.1 member with numeral | later
    · exact .inr (isNumeralChar_of_mem_ofInt numeral)
    · exact (ih later).imp_left (List.mem_append_right _)

theorem Edited.mem_of_not_isNameChar (edited : Edited t s) {c : CodePoint} (member : c ∈ t)
    (noName : isNameChar c = false) : c ∈ s := by
  induction edited with
  | nil => exact member
  | keep _ ih =>
    rcases List.mem_cons.1 member with rfl | later
    · simp
    · exact List.mem_cons_of_mem _ (ih later)
  | swap _ inside _ ih =>
    rcases List.mem_append.1 member with name | later
    · simp [inside c name] at noName
    · exact List.mem_append_right _ (ih later)

theorem Edited.not_mem_quote (edited : Edited t s) {q : CodePoint} (quote : isQuote q = true) (absent : q ∉ t) :
    q ∉ s := by
  intro member
  rcases edited.mem member with old | numeral
  · exact absent old
  · simp [isQuote_of_isNumeralChar numeral] at quote

theorem Edited.of_cons {c : CodePoint} {rest : Text} (edited : Edited (c :: rest) s) (noName : isNameChar c = false) :
    ∃ tail, s = c :: tail ∧ Edited rest tail := by
  generalize whole : c :: rest = t at edited
  cases edited with
  | nil => cases whole
  | keep edited =>
    cases whole
    exact ⟨_, rfl, edited⟩
  | @swap letters more tail v some name edited =>
    obtain ⟨d, others, rfl⟩ := List.exists_cons_of_ne_nil some
    cases whole
    simp [name c (by simp)] at noName

theorem Edited.split {first second : Text} (edited : Edited (first ++ second) s)
    (stop : ∀ c ∈ second.head?, isNameChar c = false) :
    ∃ front back, s = front ++ back ∧ Edited first front ∧ Edited second back := by
  generalize whole : first ++ second = t at edited
  induction edited generalizing first with
  | nil =>
    obtain ⟨rfl, rfl⟩ := List.append_eq_nil_iff.1 whole
    exact ⟨[], [], rfl, .nil, .nil⟩
  | @keep c rest tail edited ih =>
    cases first with
    | nil =>
      rw [List.nil_append] at whole
      subst whole
      exact ⟨[], c :: tail, rfl, .nil, .keep edited⟩
    | cons d more =>
      obtain ⟨rfl, later⟩ := List.cons.inj whole
      obtain ⟨front, back, rfl, before, after⟩ := ih later
      exact ⟨d :: front, back, rfl, .keep before, after⟩
  | @swap letters rest tail v some inside edited ih =>
    rcases List.append_eq_append_iff.1 whole with ⟨more, same, later⟩ | ⟨more, same, later⟩
    · cases more with
      | nil =>
        rw [List.append_nil] at same
        rw [List.nil_append] at later
        subst same later
        have alone : Edited (letters ++ []) (Text.ofInt v ++ []) := .swap some inside .nil
        exact ⟨Text.ofInt v, tail, rfl, by simpa using alone, edited⟩
      | cons d more =>
        -- The word goes on behind the cut, where no name goes on.
        have name := inside d (by simp [same])
        have noName := stop d (by simp [later])
        simp [name] at noName
    · subst same
      obtain ⟨front, back, rfl, before, after⟩ := ih later.symm
      exact ⟨Text.ofInt v ++ front, back, by simp, .swap some inside before, after⟩

end Program

end AsmCheck
