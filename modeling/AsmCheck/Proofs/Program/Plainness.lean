import AsmCheck.Proofs.Program.Substitution
import AsmCheck.Proofs.Source.Tokens

/-! White space in quoted terms. Putting constants in adds and takes none: a quoted part stays at the start of a term or
behind other characters of its term, and numerals have neither quotes nor white space. -/

set_option autoImplicit false

namespace AsmCheck

open Source (Token tokens inTerm isQuote isNameChar)

/-! ## Scanning for quoted terms -/

namespace Source

/-- Every quoted term is plain, for a scan that starts inside a term or between terms. -/
def isPlainFrom (inside : Bool) (t : Text) : Bool :=
  (tokens (if inside then t.dropWhile inTerm else t)).all Token.isPlain

variable {c q : CodePoint} {t w rest : Text}

theorem isPlainFrom_between (outside : inTerm c = false) (inside : Bool) :
    isPlainFrom inside (c :: rest) = isPlainFrom false rest := by
  have stays : (if inside then (c :: rest).dropWhile inTerm else c :: rest) = c :: rest := by
    cases inside <;> simp [outside]
  simp only [isPlainFrom, stays, Bool.false_eq_true, if_false]
  cases space : Text.isSpace c with
  | true => rw [tokens_space space]
  | false =>
    by_cases plus : c = .scalar '+'
    · rw [plus, tokens_plus]
      simp [Token.isPlain]
    · have minus : c = .scalar '-' := by
        by_contra minus
        simp [inTerm_eq_true.2 ⟨space, plus, minus⟩] at outside
      rw [minus, tokens_minus]
      simp [Token.isPlain]

theorem isPlainFrom_within (here : inTerm c = true) : isPlainFrom true (c :: rest) = isPlainFrom true rest := by
  simp [isPlainFrom, here]

theorem isPlainFrom_start (here : inTerm c = true) (unclosed : isQuote c = true → c ∉ rest) :
    isPlainFrom false (c :: rest) = isPlainFrom true rest := by
  have whole : c :: rest = c :: rest.takeWhile inTerm ++ rest.dropWhile inTerm := by simp
  have inside : ∀ d ∈ c :: rest.takeWhile inTerm, inTerm d = true := by
    intro d member
    rcases List.mem_cons.1 member with rfl | later
    · exact here
    · exact List.mem_takeWhile_imp later
  have plain : Token.isPlain (.term (c :: rest.takeWhile inTerm)) = true := by
    simp only [Token.isPlain, List.all_eq_true, Bool.or_eq_true, Bool.not_eq_true']
    exact fun d member => .inr (inTerm_eq_true.1 (inside d member)).1
  simp only [isPlainFrom, Bool.false_eq_true, if_false, if_true]
  rw [whole, tokens_term inside (head?_dropWhile_stop inTerm rest) (by simpa using unclosed)]
  simp [plain]

theorem isPlainFrom_quoted {inside : Text} (quote : isQuote q = true) (absent : q ∉ inside) :
    isPlainFrom false (q :: (inside ++ q :: rest)) =
      (Token.isPlain (.term (q :: (inside ++ [q]))) && isPlainFrom false rest) := by
  simp only [isPlainFrom, Bool.false_eq_true, if_false, tokens_quoted quote absent, List.all_cons]

theorem isPlainFrom_word (some : w ≠ []) (name : ∀ d ∈ w, isNameChar d = true) (inside : Bool) :
    isPlainFrom inside (w ++ rest) = isPlainFrom true rest := by
  have behind : isPlainFrom true (w ++ rest) = isPlainFrom true rest := by
    simp only [isPlainFrom, if_true]
    rw [List.dropWhile_append_of_pos fun d member => inTerm_of_isNameChar (name d member)]
  cases inside with
  | true => exact behind
  | false =>
    obtain ⟨c, more, rfl⟩ := List.exists_cons_of_ne_nil some
    have first := name c (by simp)
    rw [← behind, List.cons_append, isPlainFrom_within (inTerm_of_isNameChar first)]
    refine isPlainFrom_start (inTerm_of_isNameChar first) ?_
    intro quote
    simp [isQuote_of_isNameChar first] at quote

theorem isPlainFrom_ofInt (v : Int) (inside : Bool) : isPlainFrom inside (Text.ofInt v ++ rest) = isPlainFrom true rest := by
  have digits : ∀ inside, isPlainFrom inside (Text.ofNat v.natAbs ++ rest) = isPlainFrom true rest :=
    isPlainFrom_word (ofNat_ne_nil _) fun d member => isNameChar_of_isDigit (isDigit_of_mem_ofNat member)
  unfold Text.ofInt
  split
  · rw [List.cons_append, isPlainFrom_between (by decide), digits]
  · rw [digits]

end Source

/-! ## Editing -/

namespace Program

variable {constants : Bindings Int} {t s : Text}

theorem Edited.isPlain_quoted {q : CodePoint} {inside other : Text} (edited : Edited inside other) :
    Token.isPlain (.term (q :: (other ++ [q]))) = Token.isPlain (.term (q :: (inside ++ [q]))) := by
  -- White space is part of neither a name nor a numeral, so both quoted parts hold the same.
  have same : ∀ {c : CodePoint}, Text.isSpace c = true → (c ∈ other ↔ c ∈ inside) := by
    intro c space
    constructor
    · intro new
      refine (edited.mem new).resolve_right fun numeral => ?_
      simp [isSpace_of_isNumeralChar numeral] at space
    · intro old
      refine edited.mem_of_not_isNameChar old (Bool.eq_false_iff.2 fun name => ?_)
      simp [Source.isSpace_of_isNameChar name] at space
  rw [Bool.eq_iff_iff]
  simp only [Token.isPlain, List.all_eq_true, Bool.or_eq_true, Bool.not_eq_true', List.mem_cons, List.mem_append]
  constructor <;>
    · intro plain c member
      cases space : Text.isSpace c with
      | false => exact .inr rfl
      | true => simpa [space] using plain c (by simpa [same space] using member)

/-- The scans of the old and of the new text stand inside terms at the same places, so what starts a quoted term
in the one starts a quoted term in the other. -/
theorem Edited.isPlainFrom_eq (edited : Edited t s) (inside : Bool) :
    Source.isPlainFrom inside s = Source.isPlainFrom inside t := by
  -- A quoted term is taken off as a whole, so the induction is on the length and not on the editing.
  generalize size : t.length = n
  induction n using Nat.strong_induction_on generalizing t s inside with
  | _ n ih =>
    cases edited with
    | nil => rfl
    | @swap letters rest tail v some name edited =>
      have shorter : rest.length < n := by
        have := List.length_pos_iff.2 some
        rw [List.length_append] at size
        omega
      rw [Source.isPlainFrom_word some name, Source.isPlainFrom_ofInt]
      exact ih _ shorter edited true rfl
    | @keep c rest tail edited =>
      have shorter : rest.length < n := by
        rw [List.length_cons] at size
        omega
      cases here : inTerm c with
      | false =>
        rw [Source.isPlainFrom_between here, Source.isPlainFrom_between here]
        exact ih _ shorter edited false rfl
      | true =>
        cases inside with
        | true =>
          rw [Source.isPlainFrom_within here, Source.isPlainFrom_within here]
          exact ih _ shorter edited true rfl
        | false =>
          by_cases closed : isQuote c = true ∧ c ∈ rest
          · obtain ⟨quote, member⟩ := closed
            obtain ⟨within, after, rfl, absent⟩ := List.eq_append_cons_of_mem member
            have noName := Source.isNameChar_of_isQuote quote
            -- The closing quote is no character of a name, so the editing can be cut there.
            obtain ⟨front, back, rfl, before, behind⟩ := edited.split (by simpa using noName)
            obtain ⟨later, rfl, editedLater⟩ := behind.of_cons noName
            have shorterLater : after.length < n := by
              simp only [List.length_append, List.length_cons] at shorter
              omega
            rw [Source.isPlainFrom_quoted quote absent,
              Source.isPlainFrom_quoted quote (before.not_mem_quote quote absent), before.isPlain_quoted,
              ih _ shorterLater editedLater false rfl]
          · have unclosed : isQuote c = true → c ∉ rest := fun quote member => closed ⟨quote, member⟩
            have still : isQuote c = true → c ∉ tail := fun quote => edited.not_mem_quote quote (unclosed quote)
            rw [Source.isPlainFrom_start here unclosed, Source.isPlainFrom_start here still]
            exact ih _ shorter edited true rfl

/-- Putting constants in brings no white space into quoted terms and takes none out of them. -/
theorem Substituted.plain_eq (related : Substituted constants t s) :
    (tokens s).all Token.isPlain = (tokens t).all Token.isPlain := by
  change Source.isPlainFrom false s = Source.isPlainFrom false t
  exact related.edited.isPlainFrom_eq false

end Program

end AsmCheck
