import AsmCheck.Proofs.Source.Evaluation
import AsmCheck.Proofs.Source.Literals
import Mathlib.Algebra.Group.Int.Even
import Mathlib.Algebra.Ring.Int.Defs

/-! Expressions as sums. A text has a value exactly when it is written as a sum: terms one after another, each behind
a run of signs, where only the first may do without a sign. The value is the sum of the terms, each with its sign
turned once for every minus in front of it. -/

set_option autoImplicit false

namespace AsmCheck.Source

/-! ## Sums as they are written -/

/-- A literal, a quoted character or a name that stands for something. -/
inductive IsTerm (resolve : Text → Option Int) : Text → Int → Prop where
  | literal {t : Text} {n : Nat} : Literal t n → IsTerm resolve t n
  | char {q c : CodePoint} : isQuote q = true → c ≠ q → (Text.isSpace c = true → c = .scalar ' ') →
      IsTerm resolve [q, c, q] c.toNat
  | name {t : Text} {v : Int} : resolve t = some v → IsTerm resolve t v

/-- What may stand between terms: white space and signs. -/
def BetweenTerms (c : CodePoint) : Prop := Text.isSpace c = true ∨ c = .scalar '+' ∨ c = .scalar '-'

/-- A term with its value and with the signs in front of it. White space may stand around each sign. -/
structure Summand where
  signs : Text
  term : Text
  value : Int

namespace Summand

def text (s : Summand) : Text := s.signs ++ s.term

/-- Each minus turns the sign of the term. -/
def amount (s : Summand) : Int := (-1) ^ s.signs.count (.scalar '-') * s.value

def HasSign (s : Summand) : Prop := .scalar '+' ∈ s.signs ∨ .scalar '-' ∈ s.signs

structure Fits (resolve : Text → Option Int) (s : Summand) : Prop where
  signs : ∀ c ∈ s.signs, BetweenTerms c
  term : IsTerm resolve s.term s.value

end Summand

/-- What may follow a term, and what it adds: further terms, each behind a sign, and white space in the end. -/
inductive Follows (resolve : Text → Option Int) : Text → Int → Prop where
  | blank {t : Text} : Text.isBlank t = true → Follows resolve t 0
  | next {s : Summand} {rest : Text} {more : Int} : s.Fits resolve → s.HasSign → Follows resolve rest more →
      Follows resolve (s.text ++ rest) (s.amount + more)

/-- The text is a first term, with or without signs, and what follows it. -/
def IsSum (resolve : Text → Option Int) (t : Text) (total : Int) : Prop :=
  ∃ (first : Summand) (rest : Text) (more : Int), first.Fits resolve ∧ Follows resolve rest more ∧
    t = first.text ++ rest ∧ total = first.amount + more

/-- No term of the text is a decimal literal beyond the limit. -/
def WithinLimit (t : Text) : Prop :=
  ∀ w, Token.term w ∈ tokens t → (∀ c ∈ w, c.isDigit = true) → w.length ≤ Numeral.limit

/-- Only names stand for something. -/
def NamesOnly (resolve : Text → Option Int) : Prop := ∀ name v, resolve name = some v → isName name = true

variable {resolve : Text → Option Int} {t w rest : Text} {v : Int}

/-! ## Terms -/

theorem IsTerm.termValue_eq (names : NamesOnly resolve) (term : IsTerm resolve w v)
    (short : (∀ c ∈ w, c.isDigit = true) → w.length ≤ Numeral.limit) : termValue resolve w = .ok (some v) := by
  cases term with
  | @literal t n literal =>
    have inside : ∀ c ∈ w, inTerm c = true := fun c member => inTerm_of_isNameChar (literal.isWord.2 c member)
    apply termValue_of_number
    rw [number?_of_inTerm inside, unsignedNumber?_eq_some.2 ⟨literal, short⟩]
    rfl
  | @char q c quote different plain =>
    have char : charCode? [q, c, q] = some c.toNat := charCode?_eq_some.2 ⟨q, c, quote, different, rfl, rfl⟩
    exact termValue_of_char (number?_of_quoted quote [c]) char
  | name found =>
    have name := names _ _ found
    rw [termValue_of_neither (number?_of_isName name) (charCode?_of_isName name), found]

/-- A term is a word or a quoted character. -/
theorem IsTerm.word_or_char (names : NamesOnly resolve) (term : IsTerm resolve w v) :
    (w ≠ [] ∧ ∀ c ∈ w, isNameChar c = true) ∨
      ∃ q c, isQuote q = true ∧ c ≠ q ∧ (Text.isSpace c = true → c = .scalar ' ') ∧ w = [q, c, q] := by
  cases term with
  | literal literal => exact .inl literal.isWord
  | @char q c quote different plain => exact .inr ⟨q, c, quote, different, plain, rfl⟩
  | name found =>
    have name := names _ _ found
    simp only [isName, Bool.and_eq_true, List.all_eq_true] at name
    refine .inl ⟨?_, name.2⟩
    rintro rfl
    simp at name

theorem IsTerm.tokens_append (names : NamesOnly resolve) (term : IsTerm resolve w v)
    (stop : ∀ c ∈ rest.head?, inTerm c = false) : tokens (w ++ rest) = .term w :: tokens rest := by
  rcases term.word_or_char names with ⟨some, name⟩ | ⟨q, c, quote, different, -, rfl⟩
  · exact tokens_word some name stop
  · have absent : q ∉ [c] := by simpa using Ne.symm different
    exact tokens_quoted quote absent

theorem IsTerm.isPlain (names : NamesOnly resolve) (term : IsTerm resolve w v) : Token.isPlain (.term w) = true := by
  simp only [Token.isPlain, List.all_eq_true, Bool.or_eq_true, beq_iff_eq, Bool.not_eq_true']
  rcases term.word_or_char names with ⟨-, name⟩ | ⟨q, c, quote, -, plain, rfl⟩
  · exact fun d member => .inr (isSpace_of_isNameChar (name d member))
  · intro d member
    cases space : Text.isSpace d with
    | false => exact .inr rfl
    | true =>
      -- The quotes are visible, so the space is the character between them.
      have same : d = c := by
        simp only [List.mem_cons, List.not_mem_nil, or_false] at member
        rcases member with rfl | rfl | rfl
        · simp [isSpace_of_isQuote quote] at space
        · rfl
        · simp [isSpace_of_isQuote quote] at space
      subst same
      exact .inl (plain space)

/-- A term that is not quoted has a value as a literal or as a name. -/
theorem isTerm_of_unquoted {c : CodePoint} (inside : ∀ d ∈ c :: w, inTerm d = true) (unclosed : isQuote c = true → c ∉ w)
    (valued : termValue resolve (c :: w) = .ok (some v)) : IsTerm resolve (c :: w) v := by
  have char : charCode? (c :: w) = none := by
    rw [charCode?, stringBody?_of_unclosed unclosed]
  have number := number?_of_inTerm inside
  cases read : unsignedNumber? (c :: w) with
  | error e =>
    rw [read] at number
    rw [termValue, number] at valued
    cases valued
  | ok found =>
    rw [read] at number
    cases found with
    | some n =>
      rw [termValue_of_number number] at valued
      cases valued
      exact .literal (unsignedNumber?_eq_some.1 read).1
    | none =>
      rw [termValue_of_neither number char] at valued
      exact .name (Except.ok.inj valued)

/-- A quoted term has a value as a single character, unless the quoted text itself stands for something. -/
theorem isTerm_of_quoted {q : CodePoint} {inside : Text} (quote : isQuote q = true)
    (plain : Token.isPlain (.term (q :: (inside ++ [q]))) = true)
    (valued : termValue resolve (q :: (inside ++ [q])) = .ok (some v)) : IsTerm resolve (q :: (inside ++ [q])) v := by
  have number := number?_of_quoted quote inside
  cases char : charCode? (q :: (inside ++ [q])) with
  | none =>
    rw [termValue_of_neither number char] at valued
    exact .name (Except.ok.inj valued)
  | some code =>
    rw [termValue_of_char number char] at valued
    cases valued
    obtain ⟨other, c, otherQuote, different, same, rfl⟩ := charCode?_eq_some.1 char
    rw [same] at plain ⊢
    refine .char otherQuote different fun space => ?_
    simpa [Token.isPlain, isSpace_of_isQuote otherQuote, space] using plain

/-! ## Signs -/

/-- The sign that a character is. -/
def sign? (c : CodePoint) : Option Token :=
  if c = .scalar '+' then some .plus else if c = .scalar '-' then some .minus else none

theorem tokens_signs {signs : Text} (each : ∀ c ∈ signs, BetweenTerms c) (rest : Text) :
    tokens (signs ++ rest) = signs.filterMap sign? ++ tokens rest := by
  induction signs with
  | nil => rfl
  | cons c more ih =>
    have later := ih fun d member => each d (by simp [member])
    rcases each c (by simp) with space | rfl | rfl
    · have noSign : sign? c = none := by
        have plus : c ≠ .scalar '+' := by
          rintro rfl
          exact absurd space (by decide)
        have minus : c ≠ .scalar '-' := by
          rintro rfl
          exact absurd space (by decide)
        simp [sign?, plus, minus]
      rw [List.cons_append, tokens_space space, later, List.filterMap_cons_none noSign]
    · rw [List.cons_append, tokens_plus, later]
      rfl
    · rw [List.cons_append, tokens_minus, later]
      rfl

theorem sumTokens_signs (total sign : Int) (signs : Text) (ts : List Token) :
    sumTokens resolve total (some sign) (signs.filterMap sign? ++ ts) =
      sumTokens resolve total (some (sign * (-1) ^ signs.count (.scalar '-'))) ts := by
  induction signs generalizing sign with
  | nil => simp
  | cons c more ih =>
    by_cases plus : c = .scalar '+'
    · subst plus
      rw [List.count_cons_of_ne (by decide)]
      exact ih sign
    · by_cases minus : c = .scalar '-'
      · subst minus
        rw [List.count_cons_self, pow_succ, mul_neg_one, mul_neg, ← neg_mul]
        exact ih (-sign)
      · rw [List.filterMap_cons_none (by simp [sign?, plus, minus]), List.count_cons_of_ne minus]
        exact ih sign

theorem eq_of_sign? {c : CodePoint} {token : Token} (sign : sign? c = some token) : token = .plus ∨ token = .minus := by
  unfold sign? at sign
  split at sign
  · cases sign
    exact .inl rfl
  · split at sign
    · cases sign
      exact .inr rfl
    · cases sign

/-- Behind a term the first sign makes a term due, and from there on the signs count as they do in front. -/
theorem sumTokens_signs_behind (total : Int) {signs : Text} (signed : .scalar '+' ∈ signs ∨ .scalar '-' ∈ signs)
    (ts : List Token) :
    sumTokens resolve total none (signs.filterMap sign? ++ ts) =
      sumTokens resolve total (some ((-1) ^ signs.count (.scalar '-'))) ts := by
  have counted : sumTokens resolve total (some 1) (signs.filterMap sign? ++ ts) = _ := sumTokens_signs total 1 signs ts
  rw [one_mul] at counted
  rw [← counted]
  cases found : signs.filterMap sign? with
  | nil =>
    have none := List.filterMap_eq_nil_iff.1 found
    rcases signed with plus | minus
    · cases none _ plus
    · cases none _ minus
  | cons token more =>
    obtain ⟨c, -, sign⟩ := List.mem_filterMap.1 (show token ∈ signs.filterMap sign? by simp [found])
    rcases eq_of_sign? sign with rfl | rfl <;> rfl

/-! ## Sums have values -/

theorem BetweenTerms.not_inTerm {c : CodePoint} (between : BetweenTerms c) : inTerm c = false := by
  rcases between with space | rfl | rfl
  · simp [inTerm, space]
  · decide
  · decide

/-- What follows a term does not go on with it. -/
theorem Follows.stop (follows : Follows resolve t v) : ∀ c ∈ t.head?, inTerm c = false := by
  intro c first
  cases follows with
  | blank blank =>
    have space := Text.isBlank_eq_true.1 blank c (List.mem_of_mem_head? first)
    exact BetweenTerms.not_inTerm (.inl space)
  | @next s rest more fits signed follows =>
    have some : s.signs ≠ [] := by
      intro none
      simp [Summand.HasSign, none] at signed
    obtain ⟨d, others, split⟩ := List.exists_cons_of_ne_nil some
    simp only [Summand.text, split, List.cons_append, List.head?_cons, Option.mem_def, Option.some.injEq] at first
    subst first
    exact (fits.signs d (by simp [split])).not_inTerm

theorem Summand.Fits.tokens_append {s : Summand} (names : NamesOnly resolve) (fits : s.Fits resolve)
    (stop : ∀ c ∈ rest.head?, inTerm c = false) :
    tokens (s.text ++ rest) = s.signs.filterMap sign? ++ .term s.term :: tokens rest := by
  rw [Summand.text, List.append_assoc, tokens_signs fits.signs, fits.term.tokens_append names stop]

theorem isPlain_of_sign {signs : Text} : ∀ token ∈ signs.filterMap sign?, token.isPlain = true := by
  intro token member
  obtain ⟨c, -, sign⟩ := List.mem_filterMap.1 member
  rcases eq_of_sign? sign with rfl | rfl <;> rfl

/-- A term that is due counts with its sign. -/
theorem sumTokens_term {sign total : Int} {ts : List Token} (valued : termValue resolve w = .ok (some v)) :
    sumTokens resolve total (some sign) (.term w :: ts) = sumTokens resolve (total + sign * v) none ts := by
  simp [sumTokens, valued, bind, Except.bind]

theorem tokens_blank (blank : Text.isBlank t = true) : tokens t = [] := by
  induction t with
  | nil => exact tokens_nil
  | cons c rest ih =>
    simp only [Text.isBlank, List.all_cons, Bool.and_eq_true] at blank
    rw [tokens_space blank.1]
    exact ih blank.2

theorem WithinLimit.of_append {signs : List Token} (within : WithinLimit t)
    (split : tokens t = signs ++ .term w :: tokens rest) :
    ((∀ c ∈ w, c.isDigit = true) → w.length ≤ Numeral.limit) ∧ WithinLimit rest := by
  constructor
  · exact within w (by simp [split])
  · intro other member
    exact within other (by simp [split, member])

theorem Follows.sumTokens_eq (names : NamesOnly resolve) (follows : Follows resolve t v) (within : WithinLimit t)
    (total : Int) : sumTokens resolve total none (tokens t) = .ok (some (total + v)) := by
  induction follows generalizing total with
  | blank blank =>
    rw [tokens_blank blank, add_zero]
    rfl
  | @next s rest more fits signed follows ih =>
    have split := fits.tokens_append names follows.stop
    obtain ⟨short, later⟩ := within.of_append split
    rw [split, sumTokens_signs_behind total signed, sumTokens_term (fits.term.termValue_eq names short), ih later,
      Summand.amount, add_assoc]

theorem Follows.plain (names : NamesOnly resolve) (follows : Follows resolve t v) :
    ∀ token ∈ tokens t, token.isPlain = true := by
  induction follows with
  | blank blank => simp [tokens_blank blank]
  | @next s rest more fits signed follows ih =>
    rw [fits.tokens_append names follows.stop]
    simp only [List.forall_mem_append, List.forall_mem_cons]
    exact ⟨isPlain_of_sign, fits.term.isPlain names, ih⟩

theorem IsSum.evaluate_eq (names : NamesOnly resolve) (sum : IsSum resolve t v) (within : WithinLimit t) :
    evaluate resolve t = .ok (some v) := by
  obtain ⟨first, rest, more, fits, follows, rfl, rfl⟩ := sum
  have split := fits.tokens_append names follows.stop
  obtain ⟨short, later⟩ := within.of_append split
  have plain : (tokens (first.text ++ rest)).all Token.isPlain = true := by
    rw [List.all_eq_true, split]
    simp only [List.forall_mem_append, List.forall_mem_cons]
    exact ⟨isPlain_of_sign, fits.term.isPlain names, follows.plain names⟩
  rw [evaluate, if_pos plain, split, sumTokens_signs, sumTokens_term (fits.term.termValue_eq names short),
    follows.sumTokens_eq names later, Summand.amount, zero_add, one_mul]

/-! ## What has a value is a sum -/

/-- A further character in front of the signs of a term. -/
def Summand.behind (c : CodePoint) (s : Summand) : Summand := { s with signs := c :: s.signs }

theorem Summand.amount_behind_minus (s : Summand) : (s.behind (.scalar '-')).amount = -s.amount := by
  simp only [amount, behind, List.count_cons_self, pow_succ, mul_neg_one, neg_mul]

theorem Summand.amount_behind_other (s : Summand) {c : CodePoint} (different : c ≠ .scalar '-') :
    (s.behind c).amount = s.amount := by
  simp only [amount, behind, List.count_cons_of_ne different]

theorem Summand.Fits.behind {s : Summand} (fits : s.Fits resolve) {c : CodePoint} (between : BetweenTerms c) :
    (s.behind c).Fits resolve where
  signs := by
    intro d member
    rcases List.mem_cons.1 member with rfl | later
    · exact between
    · exact fits.signs d later
  term := fits.term

/-- What completes a sum: what follows a term, or, while a term is due with a sign, that term and what follows it. -/
def Completes (resolve : Text → Option Int) : Option Int → Text → Int → Prop
  | none, t, x => Follows resolve t x
  | some sign, t, x => ∃ (first : Summand) (rest : Text) (more : Int), first.Fits resolve ∧ Follows resolve rest more ∧
      t = first.text ++ rest ∧ x = sign * first.amount + more

theorem Completes.space {due : Option Int} {c : CodePoint} (space : Text.isSpace c = true)
    (completes : Completes resolve due t v) : Completes resolve due (c :: t) v := by
  have different : c ≠ .scalar '-' := by
    rintro rfl
    exact absurd space (by decide)
  cases due with
  | none =>
    cases completes with
    | blank blank =>
      refine .blank ?_
      simpa [Text.isBlank, space] using blank
    | @next s rest more fits signed follows =>
      rw [← s.amount_behind_other different]
      exact .next (fits.behind (.inl space)) (signed.imp (List.mem_cons_of_mem _) (List.mem_cons_of_mem _)) follows
  | some sign =>
    obtain ⟨first, rest, more, fits, follows, rfl, rfl⟩ := completes
    refine ⟨first.behind c, rest, more, fits.behind (.inl space), follows, rfl, ?_⟩
    rw [first.amount_behind_other different]

theorem Completes.plus {due : Option Int} (completes : Completes resolve (some (due.getD 1)) t v) :
    Completes resolve due (.scalar '+' :: t) v := by
  obtain ⟨first, rest, more, fits, follows, rfl, rfl⟩ := completes
  have same : (first.behind (.scalar '+')).amount = first.amount := first.amount_behind_other (by decide)
  have later := fits.behind (.inr (.inl rfl))
  rw [← same]
  cases due with
  | none =>
    rw [Option.getD_none, one_mul]
    exact .next later (.inl List.mem_cons_self) follows
  | some sign => exact ⟨_, rest, more, later, follows, rfl, rfl⟩

theorem Completes.minus {due : Option Int} (completes : Completes resolve (some (-due.getD 1)) t v) :
    Completes resolve due (.scalar '-' :: t) v := by
  obtain ⟨first, rest, more, fits, follows, rfl, rfl⟩ := completes
  have turned := first.amount_behind_minus
  have later := fits.behind (.inr (.inr rfl))
  rw [neg_mul, ← mul_neg, ← turned]
  cases due with
  | none =>
    rw [Option.getD_none, one_mul]
    exact .next later (.inr List.mem_cons_self) follows
  | some sign => exact ⟨_, rest, more, later, follows, rfl, rfl⟩

/-- Where a term is due and has a value, the sum goes on behind it. -/
theorem Completes.of_term {due : Option Int} {total : Int} {ts : List Token}
    (summed : sumTokens resolve total due (.term w :: ts) = .ok (some v))
    (term : ∀ {x}, termValue resolve w = .ok (some x) → IsTerm resolve w x)
    (later : ∀ {total}, sumTokens resolve total none ts = .ok (some v) → Completes resolve none rest (v - total)) :
    Completes resolve due (w ++ rest) (v - total) := by
  cases due with
  | none => cases summed
  | some sign =>
    obtain ⟨value, here, summed⟩ := bind_eq_ok.1 summed
    cases value with
    | none => cases summed
    | some x =>
      refine ⟨⟨[], w, x⟩, rest, _, ⟨by simp, term here⟩, later summed, rfl, ?_⟩
      simp only [Summand.amount, List.count_nil, pow_zero, one_mul]
      ring

theorem completes_of_sumTokens {due : Option Int} {total : Int} (plain : ∀ token ∈ tokens t, token.isPlain = true)
    (summed : sumTokens resolve total due (tokens t) = .ok (some v)) : Completes resolve due t (v - total) := by
  induction t using tokens_induction generalizing due total with
  | nil =>
    rw [tokens_nil] at summed
    cases due with
    | none =>
      cases summed
      rw [sub_self]
      exact .blank rfl
    | some sign => cases summed
  | @space c rest space ih =>
    rw [tokens_space space] at plain summed
    exact (ih plain summed).space space
  | @plus rest ih =>
    rw [tokens_plus] at plain summed
    exact (ih (fun token member => plain token (by simp [member])) summed).plus
  | @minus rest ih =>
    rw [tokens_minus] at plain summed
    exact (ih (fun token member => plain token (by simp [member])) summed).minus
  | @quoted q inside rest quote absent ih =>
    rw [tokens_quoted quote absent] at plain summed
    have whole : q :: (inside ++ q :: rest) = q :: (inside ++ [q]) ++ rest := by simp
    rw [whole]
    exact .of_term summed (isTerm_of_quoted quote (plain _ (by simp)))
      (ih fun token member => plain token (by simp [member]))
  | @term c w rest inside stop unclosed ih =>
    rw [tokens_term inside stop unclosed] at plain summed
    refine .of_term summed (isTerm_of_unquoted inside fun quote member => unclosed quote ?_)
      (ih fun token member => plain token (by simp [member]))
    exact List.mem_append_left _ member

theorem isSum_of_evaluate (evaluated : evaluate resolve t = .ok (some v)) : IsSum resolve t v := by
  unfold evaluate at evaluated
  split at evaluated
  · next plain =>
    have completes := completes_of_sumTokens (List.all_eq_true.1 plain) evaluated
    rw [sub_zero] at completes
    obtain ⟨first, rest, more, fits, follows, same, rfl⟩ := completes
    exact ⟨first, rest, more, fits, follows, same, by rw [one_mul]⟩
  · cases evaluated

/-! ## Evaluation comes to an end -/

/-- A term of a text is a stretch of it, and it is quoted or has neither white space nor signs. -/
theorem infix_of_mem_tokens (member : Token.term w ∈ tokens t) :
    w <:+: t ∧ ((∀ c ∈ w, inTerm c = true) ∨ ∃ q inside, isQuote q = true ∧ w = q :: (inside ++ [q])) := by
  induction t using tokens_induction with
  | nil => simp [tokens_nil] at member
  | space space ih =>
    rw [tokens_space space] at member
    exact (ih member).imp_left List.infix_cons
  | plus ih =>
    rw [tokens_plus] at member
    exact (ih (by simpa using member)).imp_left List.infix_cons
  | minus ih =>
    rw [tokens_minus] at member
    exact (ih (by simpa using member)).imp_left List.infix_cons
  | @quoted q inside rest quote absent ih =>
    have whole : q :: (inside ++ q :: rest) = q :: (inside ++ [q]) ++ rest := by simp
    rw [tokens_quoted quote absent, List.mem_cons] at member
    rw [whole]
    rcases member with same | later
    · cases same
      exact ⟨(List.prefix_append _ _).isInfix, .inr ⟨q, inside, quote, rfl⟩⟩
    · exact (ih later).imp_left fun part => part.trans (List.suffix_append _ _).isInfix
  | term inside stop unclosed ih =>
    rw [tokens_term inside stop unclosed, List.mem_cons] at member
    rcases member with same | later
    · cases same
      exact ⟨(List.prefix_append _ _).isInfix, .inl inside⟩
    · exact (ih later).imp_left fun part => part.trans (List.suffix_append _ _).isInfix

/-- A text that is itself within the limit has no literal beyond it. -/
theorem withinLimit_of_length (short : t.length ≤ Numeral.limit) : WithinLimit t :=
  fun _ member _ => (infix_of_mem_tokens member).1.length_le.trans short

theorem exists_number_of_withinLimit (within : WithinLimit t) (member : Token.term w ∈ tokens t) :
    ∃ found, number? w = .ok found := by
  rcases (infix_of_mem_tokens member).2 with inside | ⟨q, inside, quote, rfl⟩
  · rw [number?_of_inTerm inside]
    cases read : unsignedNumber? w with
    | ok found => exact ⟨_, rfl⟩
    | error e =>
      obtain ⟨digits, long⟩ := unsignedNumber?_eq_error.1 read
      have short := within w member digits
      omega
  · exact ⟨none, number?_of_quoted quote inside⟩

theorem exists_termValue {read : Option Int} (number : number? w = .ok read) :
    ∃ found, termValue resolve w = .ok found := by
  cases read with
  | some n => exact ⟨_, termValue_of_number number⟩
  | none =>
    cases char : charCode? w with
    | some code => exact ⟨_, termValue_of_char number char⟩
    | none => exact ⟨_, termValue_of_neither number char⟩

theorem exists_sumTokens {ts : List Token} (read : ∀ w, Token.term w ∈ ts → ∃ found, number? w = .ok found)
    (total : Int) (due : Option Int) : ∃ found, sumTokens resolve total due ts = .ok found := by
  induction ts generalizing total due with
  | nil => exact ⟨_, rfl⟩
  | cons token rest ih =>
    have later := ih fun w member => read w (by simp [member])
    cases token with
    | plus => exact later _ _
    | minus => exact later _ _
    | term w =>
      cases due with
      | none => exact ⟨none, rfl⟩
      | some sign =>
        obtain ⟨number, here⟩ := read w (by simp)
        obtain ⟨found, valued⟩ : ∃ found, termValue resolve w = .ok found := exists_termValue here
        cases found with
        | none => exact ⟨none, bind_eq_ok.2 ⟨none, valued, rfl⟩⟩
        | some x =>
          rw [sumTokens_term valued]
          exact later _ _

theorem exists_evaluate (within : WithinLimit t) : ∃ found, evaluate resolve t = .ok found := by
  unfold evaluate
  split
  · exact exists_sumTokens (fun w member => exists_number_of_withinLimit within member) 0 (some 1)
  · exact ⟨none, rfl⟩

/-- Where only names stand for something and no decimal literal is too long, an expression has a value exactly if it
is written as a sum, and then the value is the sum of its terms, each with its sign turned by every minus in front of
it. In every other case the evaluation says that there is none. -/
theorem expression_value_iff_sum {resolve : Text → Option Int} (names : NamesOnly resolve) {t : Text}
    (within : WithinLimit t) :
    (∀ v, evaluate resolve t = .ok (some v) ↔ IsSum resolve t v) ∧
      (evaluate resolve t = .ok none ↔ ¬∃ v, IsSum resolve t v) := by
  have valued : ∀ v, evaluate resolve t = .ok (some v) ↔ IsSum resolve t v :=
    fun v => ⟨isSum_of_evaluate, fun sum => sum.evaluate_eq names within⟩
  refine ⟨valued, ?_⟩
  obtain ⟨found, evaluated⟩ : ∃ found, evaluate resolve t = .ok found := exists_evaluate within
  cases found with
  | none => simp [← valued, evaluated]
  | some v => simpa [evaluated] using ⟨v, (valued v).1 evaluated⟩

/-- Signs in a row, a quoted space and a quoted minus, digits of every base, and white space between all of them. -/
theorem expression_value_stacked_signs :
    IsSum (Bindings.get? [("n", 3)]) "\t- -0x1F+' ' - + n-'-' --0b11-007 " 11 ∧
      ¬∃ v, IsSum (Bindings.get? [("n", 3)]) "1 + n 'a'" v := by
  have names : NamesOnly (Bindings.get? [("n", 3)]) := by
    intro name v found
    obtain ⟨rfl, -⟩ := Prod.mk.inj (List.mem_singleton.1 (Bindings.mem_of_get? found))
    decide
  have within : WithinLimit "\t- -0x1F+' ' - + n-'-' --0b11-007 " := withinLimit_of_length (by decide)
  have withinOther : WithinLimit "1 + n 'a'" := withinLimit_of_length (by decide)
  constructor
  · exact ((expression_value_iff_sum names within).1 11).1 (by decide +kernel)
  · exact (expression_value_iff_sum names withinOther).2.1 (by decide +kernel)

end AsmCheck.Source
