import AsmCheck.Proofs.Source.Pieces
import AsmCheck.Source.Expression

/-! Tokens of an expression. White space and signs stand alone, a closed quoted part is one term, and any
other term goes on for as long as it can. -/

set_option autoImplicit false

namespace AsmCheck.Source

open Numeral (TooLong)

/-! ## Where terms end -/

theorem inTerm_eq_true {c : CodePoint} :
    inTerm c = true ↔ Text.isSpace c = false ∧ c ≠ .scalar '+' ∧ c ≠ .scalar '-' := by
  simp [inTerm, and_assoc]

theorem inTerm_of_isNameChar {c : CodePoint} (name : isNameChar c = true) : inTerm c = true := by
  refine inTerm_eq_true.2 ⟨isSpace_of_isNameChar name, ?_, ?_⟩ <;>
    · rintro rfl
      exact absurd name (by decide)

theorem isNameChar_of_inTerm {c : CodePoint} (outside : inTerm c = false) : isNameChar c = false := by
  cases name : isNameChar c with
  | false => rfl
  | true => simp [inTerm_of_isNameChar name] at outside

theorem inTerm_of_isQuote {c : CodePoint} (quote : isQuote c = true) : inTerm c = true := by
  rcases eq_of_isQuote quote with rfl | rfl <;> decide

/-- The characters between two terms are the pieces that are never touched. -/
theorem leads_of_inTerm {c : CodePoint} (outside : inTerm c = false) (rest : Text) : Leads (.other c) rest := by
  refine .plain ?_ (isNameChar_of_inTerm outside)
  cases quote : isQuote c with
  | false => rfl
  | true => simp [inTerm_of_isQuote quote] at outside

/-! ## Taking off the first token -/

variable {c q : CodePoint} {t w rest inside : Text}

theorem tokens_nil : tokens [] = [] := by rw [tokens.eq_def]

theorem tokens_space (space : Text.isSpace c = true) : tokens (c :: rest) = tokens rest := by
  rw [tokens.eq_def]
  simp [space]

theorem tokens_plus : tokens (.scalar '+' :: rest) = .plus :: tokens rest := by
  rw [tokens.eq_def]
  simp [show Text.isSpace (.scalar '+') = false by decide]

theorem tokens_minus : tokens (.scalar '-' :: rest) = .minus :: tokens rest := by
  rw [tokens.eq_def]
  simp [show Text.isSpace (.scalar '-') = false by decide]

theorem tokens_quoted (quote : isQuote q = true) (absent : q ∉ inside) :
    tokens (q :: (inside ++ q :: rest)) = .term (q :: (inside ++ [q])) :: tokens rest := by
  obtain ⟨visible, noPlus, noMinus⟩ := inTerm_eq_true.1 (inTerm_of_isQuote quote)
  have closed := closeQuote?_append absent rest
  rw [tokens.eq_def]
  simp only [visible, noPlus, noMinus, if_false, Bool.false_eq_true]
  split
  · next found =>
    rw [if_pos quote, closed] at found
    cases found
    rfl
  · next found => simp [quote, closed] at found

theorem tokens_term (inside : ∀ d ∈ c :: w, inTerm d = true) (stop : ∀ d ∈ rest.head?, inTerm d = false)
    (unclosed : isQuote c = true → c ∉ w ++ rest) : tokens (c :: w ++ rest) = .term (c :: w) :: tokens rest := by
  obtain ⟨visible, noPlus, noMinus⟩ := inTerm_eq_true.1 (inside c (by simp))
  have noClose : (if isQuote c then closeQuote? c (w ++ rest) else none) = none := by
    split
    · next quote => exact closeQuote?_eq_none.2 (unclosed quote)
    · rfl
  have later : ∀ d ∈ w, inTerm d = true := fun d member => inside d (by simp [member])
  rw [List.cons_append, tokens.eq_def]
  simp only [visible, noPlus, noMinus, if_false, Bool.false_eq_true]
  split
  · next found => simp [noClose] at found
  · rw [takeWhile_append_stop later stop, dropWhile_append_stop later stop]

theorem tokens_word (some : w ≠ []) (name : ∀ d ∈ w, isNameChar d = true) (stop : ∀ d ∈ rest.head?, inTerm d = false) :
    tokens (w ++ rest) = .term w :: tokens rest := by
  obtain ⟨c, more, rfl⟩ := List.exists_cons_of_ne_nil some
  refine tokens_term (fun d member => inTerm_of_isNameChar (name d member)) stop ?_
  intro quote
  simp [isQuote_of_isNameChar (name c (by simp))] at quote

/-- A text is empty or starts with white space, a sign, a closed quoted part or another term. -/
@[elab_as_elim] theorem tokens_induction {motive : Text → Prop} (nil : motive [])
    (space : ∀ {c : CodePoint} {rest : Text}, Text.isSpace c = true → motive rest → motive (c :: rest))
    (plus : ∀ {rest : Text}, motive rest → motive (.scalar '+' :: rest))
    (minus : ∀ {rest : Text}, motive rest → motive (.scalar '-' :: rest))
    (quoted : ∀ {q : CodePoint} {inside rest : Text}, isQuote q = true → q ∉ inside → motive rest →
      motive (q :: (inside ++ q :: rest)))
    (term : ∀ {c : CodePoint} {w rest : Text}, (∀ d ∈ c :: w, inTerm d = true) →
      (∀ d ∈ rest.head?, inTerm d = false) → (isQuote c = true → c ∉ w ++ rest) → motive rest →
      motive (c :: w ++ rest)) (t : Text) : motive t := by
  induction t using tokens.induct with
  | case1 => exact nil
  | case2 c rest isSpace ih => exact space isSpace ih
  | case3 rest _ ih => exact plus ih
  | case4 rest _ _ ih => exact minus ih
  | case5 c rest _ _ _ inside after found ih =>
    split at found
    · next quote =>
      rw [closeQuote?_eq_append found]
      exact quoted quote (not_mem_of_closeQuote? found) ih
    · cases found
  | case6 c rest visible noPlus noMinus found ih =>
    -- What is left is a term that runs up to white space or a sign.
    have whole : rest = rest.takeWhile inTerm ++ rest.dropWhile inTerm := List.takeWhile_append_dropWhile.symm
    rw [whole]
    refine term ?_ (head?_dropWhile_stop inTerm rest) ?_ ih
    · intro d member
      rcases List.mem_cons.1 member with rfl | later
      · exact inTerm_eq_true.2 ⟨by simpa using visible, noPlus, noMinus⟩
      · exact List.mem_takeWhile_imp later
    · intro quote
      rw [List.takeWhile_append_dropWhile]
      simpa [quote, closeQuote?_eq_none] using found

end AsmCheck.Source
