import AsmCheck.Proofs.Source.Pieces
import AsmCheck.Proofs.Text.Trimming
import AsmCheck.Source.Operands

/-! Fields between separating commas. A stretch without quotes, brackets and commas stays in one field, so
does a quoted part, and a quote that is never closed takes the rest of the text into its field. -/

set_option autoImplicit false

namespace AsmCheck

namespace Source

/-- A piece is a space or starts and ends with something visible. -/
theorem Leads.space_or_tight {p : Piece} {rest : Text} (leads : Leads p rest) :
    (∃ c, p = .other c ∧ Text.isSpace c = true) ∨ Text.Tight p.text := by
  cases leads with
  | @quoted q inside rest quote absent =>
    have visible := isSpace_of_isQuote quote
    exact .inr ⟨⟨q, inside ++ [q], rfl, visible⟩, ⟨q :: inside, q, rfl, visible⟩⟩
  | word some inside stop =>
    exact .inr (.of_visible some fun c member => isSpace_of_isNameChar (inside c member))
  | @lone q rest quote absent =>
    exact .inr (.of_visible (by simp [Piece.text]) (by simpa [Piece.text] using isSpace_of_isQuote quote))
  | @plain c rest noQuote noName =>
    cases space : Text.isSpace c with
    | true => exact .inl ⟨c, rfl, space⟩
    | false => exact .inr (.of_visible (by simp [Piece.text]) (by simpa [Piece.text] using space))

/-! ## Fields -/

/-- The character neither opens nor closes anything and separates nothing. -/
def isNeutral (c : CodePoint) : Bool :=
  !isQuote c && c != '[' && c != '(' && c != ']' && c != ')' && c != ','

/-- A kind of characters that has none of the special ones among it is neutral. -/
theorem isNeutral_of_kind {kind : CodePoint → Bool} {c : CodePoint} (own : kind c = true)
    (free : ∀ special ∈ Text.ofString "'\"[(]),", kind special = false) : isNeutral c = true := by
  have different : ∀ special ∈ Text.ofString "'\"[(]),", c ≠ special := by
    rintro special listed rfl
    simp [free c listed] at own
  have noQuote : isQuote c = false := by
    cases quote : isQuote c with
    | false => rfl
    | true => rcases eq_of_isQuote quote with rfl | rfl <;> exact absurd rfl (different _ (by decide))
  simp only [isNeutral, noQuote, Bool.not_false, Bool.true_and, Bool.and_eq_true, bne_iff_ne]
  exact ⟨⟨⟨⟨different _ (by decide), different _ (by decide)⟩, different _ (by decide)⟩, different _ (by decide)⟩,
    different _ (by decide)⟩

theorem isNeutral_of_isNameChar {c : CodePoint} (name : isNameChar c = true) : isNeutral c = true :=
  isNeutral_of_kind name (by decide)

theorem isNeutral_of_isSpace {c : CodePoint} (space : Text.isSpace c = true) : isNeutral c = true :=
  isNeutral_of_kind space (by decide)

theorem Nesting.after_neutral {n : Nesting} {c : CodePoint} (outside : n.quote = none)
    (neutral : isNeutral c = true) : n.after c = n := by
  simp only [isNeutral, Bool.and_eq_true, Bool.not_eq_true', bne_iff_ne] at neutral
  obtain ⟨⟨⟨⟨⟨quote, square⟩, round⟩, squareEnd⟩, roundEnd⟩, -⟩ := neutral
  cases n with
  | mk open? depth =>
    subst outside
    simp [Nesting.after, openAfter, quote, square, round, squareEnd, roundEnd]

theorem Nesting.separates_neutral {n : Nesting} {c : CodePoint} (neutral : isNeutral c = true) :
    n.separates c = false := by
  simp only [isNeutral, Bool.and_eq_true, bne_iff_ne] at neutral
  simp [Nesting.separates, neutral.2]

theorem Nesting.after_quote {n : Nesting} {c : CodePoint} (outside : n.quote = none) (quote : isQuote c = true) :
    n.after c = { n with quote := some c } := by
  rcases eq_of_isQuote quote with rfl | rfl <;> simp [Nesting.after, openAfter, outside, isQuote]

theorem Nesting.separates_quote {n : Nesting} {c : CodePoint} (quote : isQuote c = true) :
    n.separates c = false := by
  rcases eq_of_isQuote quote with rfl | rfl <;> simp [Nesting.separates]

theorem Nesting.after_inside {n : Nesting} {q c : CodePoint} (inside : n.quote = some q) (different : c ≠ q) :
    n.after c = n := by
  cases n with
  | mk open? depth =>
    subst inside
    simp [Nesting.after, openAfter, different]

theorem Nesting.after_close {n : Nesting} {q : CodePoint} (inside : n.quote = some q) :
    n.after q = { n with quote := none } := by
  simp [Nesting.after, openAfter, inside]

theorem Nesting.separates_inside {n : Nesting} {q : CodePoint} (inside : n.quote = some q) (c : CodePoint) :
    n.separates c = false := by
  simp [Nesting.separates, inside]

theorem fieldsFrom_cons {n : Nesting} {c : CodePoint} (joined : n.separates c = false) {rest field : Text}
    {fields : List Text} (split : fieldsFrom (n.after c) rest = field :: fields) :
    fieldsFrom n (c :: rest) = (c :: field) :: fields := by
  simp [fieldsFrom, joined, split, Text.consHead]

/-- The first field is a beginning of the text. -/
theorem exists_first_field (n : Nesting) (t : Text) :
    ∃ field fields, fieldsFrom n t = field :: fields ∧ field <+: t := by
  induction t generalizing n with
  | nil => exact ⟨[], [], rfl, List.nil_prefix⟩
  | cons c rest ih =>
    by_cases cut : n.separates c = true
    · exact ⟨[], fieldsFrom (n.after c) rest, by simp [fieldsFrom, cut], List.nil_prefix⟩
    · obtain ⟨field, fields, split, start⟩ := ih (n.after c)
      exact ⟨c :: field, fields, fieldsFrom_cons (by simpa using cut) split, List.cons_prefix_cons.2 ⟨rfl, start⟩⟩

/-! ## Texts that stay in one field -/

/-- A scan goes over the text, from one nesting to another, and meets no comma that separates. -/
inductive Passes : Nesting → Text → Nesting → Prop where
  | nil {n : Nesting} : Passes n [] n
  | cons {n m : Nesting} {c : CodePoint} {rest : Text} : n.separates c = false → Passes (n.after c) rest m →
      Passes n (c :: rest) m

namespace Passes

variable {n m k : Nesting} {t rest : Text}

theorem append (first : Passes n t m) (second : Passes m rest k) : Passes n (t ++ rest) k := by
  induction first with
  | nil => exact second
  | cons joined _ ih => exact .cons joined (ih second)

/-- What is passed over joins the first field of the rest. -/
theorem fieldsFrom_append (passes : Passes n t m) {field : Text} {fields : List Text}
    (split : fieldsFrom m rest = field :: fields) : fieldsFrom n (t ++ rest) = (t ++ field) :: fields := by
  induction passes with
  | nil => exact split
  | cons joined _ ih => exact fieldsFrom_cons joined (ih split)

theorem fieldsFrom_eq (passes : Passes n t m) : fieldsFrom n t = [t] := by
  have whole : fieldsFrom n (t ++ []) = [t ++ []] := passes.fieldsFrom_append rfl
  rwa [List.append_nil] at whole

theorem neutral (outside : n.quote = none) (neutral : ∀ c ∈ t, isNeutral c = true) : Passes n t n := by
  induction t with
  | nil => exact .nil
  | cons c rest ih =>
    have first : isNeutral c = true := neutral c (by simp)
    refine .cons (Nesting.separates_neutral first) ?_
    rw [Nesting.after_neutral outside first]
    exact ih fun d member => neutral d (by simp [member])

theorem unclosed {q : CodePoint} (open? : n.quote = some q) (absent : q ∉ t) : Passes n t n := by
  induction t with
  | nil => exact .nil
  | cons c rest ih =>
    have different : c ≠ q := fun same => absent (by simp [same])
    refine .cons (Nesting.separates_inside open? c) ?_
    rw [Nesting.after_inside open? different]
    exact ih fun member => absent (by simp [member])

theorem opened {q : CodePoint} (outside : n.quote = none) (quote : isQuote q = true)
    (inside : Passes { n with quote := some q } t m) : Passes n (q :: t) m := by
  refine .cons (Nesting.separates_quote quote) ?_
  rwa [Nesting.after_quote outside quote]

theorem quoted {q : CodePoint} {inside : Text} (outside : n.quote = none) (quote : isQuote q = true)
    (absent : q ∉ inside) : Passes n (Piece.quoted q inside).text n := by
  refine .opened outside quote ((Passes.unclosed rfl absent).append (.cons (Nesting.separates_inside rfl q) ?_))
  rw [Nesting.after_close rfl, ← outside]
  exact .nil

end Passes

end Source

end AsmCheck
