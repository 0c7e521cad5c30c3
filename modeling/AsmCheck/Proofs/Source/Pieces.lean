import AsmCheck.Source.Piece
import Mathlib.Data.List.TakeWhile

/-! Pieces of a text. What may stand in front of what is said without the scan: a piece leads a text if
the scan takes it off first, and a piece that leads a text leads every shorter beginning of it too. -/

set_option autoImplicit false

namespace AsmCheck.Source

/-! ## Kinds of characters -/

theorem isAlpha_iff_toNat {c : Char} : c.isAlpha = true ↔
    (65 ≤ c.toNat ∧ c.toNat ≤ 90) ∨ (97 ≤ c.toNat ∧ c.toNat ≤ 122) := by
  change (decide (65 ≤ c.val ∧ c.val ≤ 90) || (97 ≤ c.val && c.val ≤ 122)) = true ↔ _
  simp only [Bool.or_eq_true, Bool.and_eq_true, decide_eq_true_eq, UInt32.le_iff_toNat_le]
  rfl

theorem isAlphanum_iff_toNat {c : Char} : c.isAlphanum = true ↔
    (48 ≤ c.toNat ∧ c.toNat ≤ 57) ∨ (65 ≤ c.toNat ∧ c.toNat ≤ 90) ∨ (97 ≤ c.toNat ∧ c.toNat ≤ 122) := by
  have digit : c.isDigit = true ↔ 48 ≤ c.toNat ∧ c.toNat ≤ 57 := Char.isDigit_iff_toNat
  rw [Char.isAlphanum, Bool.or_eq_true, isAlpha_iff_toNat, digit]
  omega

theorem isNameChar_toNat {c : CodePoint} (name : isNameChar c = true) :
    (48 ≤ c.toNat ∧ c.toNat ≤ 57) ∨ (65 ≤ c.toNat ∧ c.toNat ≤ 90) ∨ (97 ≤ c.toNat ∧ c.toNat ≤ 122) ∨
      c.toNat = 95 ∨ c.toNat = 46 ∨ c.toNat = 36 ∨ c.toNat = 64 := by
  simp only [isNameChar, Bool.or_eq_true, beq_iff_eq] at name
  rcases name with (((letter | rfl) | rfl) | rfl) | rfl
  · cases c with
    | surrogate index => simp [CodePoint.isAlphanum, CodePoint.char?] at letter
    | scalar c =>
      have range := isAlphanum_iff_toNat.1 letter
      simp only [CodePoint.toNat]
      omega
  · decide
  · decide
  · decide
  · decide

theorem isNameChar_of_toNat {c : CodePoint} (range : (48 ≤ c.toNat ∧ c.toNat ≤ 57) ∨ (65 ≤ c.toNat ∧ c.toNat ≤ 90) ∨
    (97 ≤ c.toNat ∧ c.toNat ≤ 122)) : isNameChar c = true := by
  cases c with
  | surrogate index =>
    simp only [CodePoint.toNat] at range
    omega
  | scalar c =>
    have alphanumeric : c.isAlphanum = true := isAlphanum_iff_toNat.2 range
    simp [isNameChar, CodePoint.isAlphanum, CodePoint.char?, alphanumeric]

theorem toNat_of_isDigit {c : CodePoint} (digit : c.isDigit = true) : 48 ≤ c.toNat ∧ c.toNat ≤ 57 := by
  cases c with
  | surrogate index => simp [CodePoint.isDigit, CodePoint.char?] at digit
  | scalar c => exact Char.isDigit_iff_toNat.1 digit

theorem isNameChar_of_isDigit {c : CodePoint} (digit : c.isDigit = true) : isNameChar c = true :=
  isNameChar_of_toNat (.inl (toNat_of_isDigit digit))

theorem isSpace_of_isNameChar {c : CodePoint} (name : isNameChar c = true) : Text.isSpace c = false := by
  have range := isNameChar_toNat name
  simp only [Text.isSpace, Bool.or_eq_false_iff, Bool.and_eq_false_iff, decide_eq_false_iff_not, beq_eq_false_iff_ne]
  omega

theorem eq_of_isQuote {c : CodePoint} (quote : isQuote c = true) : c = .scalar '\'' ∨ c = .scalar '"' := by
  simpa [isQuote] using quote

theorem isNameChar_of_isQuote {c : CodePoint} (quote : isQuote c = true) : isNameChar c = false := by
  rcases eq_of_isQuote quote with rfl | rfl <;> decide

theorem isQuote_of_isNameChar {c : CodePoint} (name : isNameChar c = true) : isQuote c = false := by
  cases quote : isQuote c with
  | false => rfl
  | true => simp [isNameChar_of_isQuote quote] at name

theorem isSpace_of_isQuote {c : CodePoint} (quote : isQuote c = true) : Text.isSpace c = false := by
  rcases eq_of_isQuote quote with rfl | rfl <;> decide

/-! ## Closing quotes -/

theorem closeQuote?_eq_none {q : CodePoint} {t : Text} : closeQuote? q t = none ↔ q ∉ t := by
  induction t with
  | nil => simp [closeQuote?]
  | cons c rest ih =>
    rw [closeQuote?]
    by_cases same : c = q
    · simp [same]
    · simp [same, ih, Ne.symm same]

theorem closeQuote?_append {q : CodePoint} {inside : Text} (absent : q ∉ inside) (after : Text) :
    closeQuote? q (inside ++ q :: after) = some (inside, after) := by
  induction inside with
  | nil => simp [closeQuote?]
  | cons c rest ih =>
    have different : c ≠ q := fun same => absent (by simp [same])
    simp [closeQuote?, different, ih fun member => absent (by simp [member])]

theorem not_mem_of_closeQuote? {q : CodePoint} {t inside after : Text}
    (closed : closeQuote? q t = some (inside, after)) : q ∉ inside := by
  induction t generalizing inside with
  | nil => simp [closeQuote?] at closed
  | cons c rest ih =>
    rw [closeQuote?] at closed
    split at closed
    · simp_all
    · next different =>
      obtain ⟨⟨more, last⟩, found, same⟩ := Option.map_eq_some_iff.1 closed
      obtain ⟨rfl, rfl⟩ := Prod.mk.inj same
      simp [Ne.symm different, ih found]

/-! ## Runs of characters of one kind -/

theorem takeWhile_append_stop {p : CodePoint → Bool} {run rest : Text} (inside : ∀ c ∈ run, p c = true)
    (stop : ∀ c ∈ rest.head?, p c = false) : (run ++ rest).takeWhile p = run := by
  rw [List.takeWhile_append_of_pos inside]
  cases rest with
  | nil => simp
  | cons c more => simp [stop c rfl]

theorem dropWhile_append_stop {p : CodePoint → Bool} {run rest : Text} (inside : ∀ c ∈ run, p c = true)
    (stop : ∀ c ∈ rest.head?, p c = false) : (run ++ rest).dropWhile p = rest := by
  rw [List.dropWhile_append_of_pos inside]
  cases rest with
  | nil => rfl
  | cons c more => simp [stop c rfl]

theorem head?_dropWhile_stop (p : CodePoint → Bool) (t : Text) : ∀ c ∈ (t.dropWhile p).head?, p c = false := by
  intro c first
  have stop := List.head?_dropWhile_not p t
  rw [Option.mem_def.1 first] at stop
  simpa using stop

/-! ## Leading pieces -/

/-- The piece is the first one of a text that goes on with the given rest. -/
inductive Leads : Piece → Text → Prop where
  | quoted {q : CodePoint} {inside rest : Text} : isQuote q = true → q ∉ inside → Leads (.quoted q inside) rest
  | word {letters rest : Text} : letters ≠ [] → (∀ c ∈ letters, isNameChar c = true) →
      (∀ c ∈ rest.head?, isNameChar c = false) → Leads (.word letters) rest
  | lone {q : CodePoint} {rest : Text} : isQuote q = true → q ∉ rest → Leads (.other q) rest
  | plain {c : CodePoint} {rest : Text} : isQuote c = false → isNameChar c = false → Leads (.other c) rest

theorem Leads.of_prefix {p : Piece} {rest shorter : Text} (leads : Leads p rest) (start : shorter <+: rest) :
    Leads p shorter := by
  obtain ⟨more, rfl⟩ := start
  cases leads with
  | quoted quote absent => exact .quoted quote absent
  | word some inside stop =>
    refine .word some inside ?_
    intro c first
    apply stop
    cases shorter with
    | nil => simp at first
    | cons d tail => exact first
  | lone quote absent => exact .lone quote fun member => absent (List.mem_append_left _ member)
  | plain noQuote noName => exact .plain noQuote noName

theorem Leads.text_ne_nil {p : Piece} {rest : Text} (leads : Leads p rest) : p.text ≠ [] := by
  cases leads with
  | word some inside stop => exact some
  | quoted _ _ | lone _ _ | plain _ _ => simp [Piece.text]

theorem pieces_append {p : Piece} {rest : Text} (leads : Leads p rest) :
    pieces (p.text ++ rest) = p :: pieces rest := by
  cases leads with
  | @quoted q inside rest quote absent =>
    have closed : closeQuote? q (inside ++ q :: rest) = some (inside, rest) := closeQuote?_append absent rest
    have whole : (Piece.quoted q inside).text ++ rest = q :: (inside ++ q :: rest) := by simp [Piece.text]
    rw [whole, pieces]
    simp only [quote, if_true]
    split
    · next inner after found =>
      -- The quote that closes is the next one, since none stands inside.
      rw [closed] at found
      cases found
      rfl
    · next found => simp [closed] at found
  | @word letters rest some inside stop =>
    obtain ⟨c, more, rfl⟩ := List.exists_cons_of_ne_nil some
    have first : isNameChar c = true := inside c (by simp)
    have noQuote : isQuote c = false := isQuote_of_isNameChar first
    have later : ∀ d ∈ more, isNameChar d = true := fun d member => inside d (by simp [member])
    simp only [Piece.text, List.cons_append]
    rw [pieces]
    simp only [noQuote, first, if_true, Bool.false_eq_true, if_false]
    rw [takeWhile_append_stop later stop, dropWhile_append_stop later stop]
  | @lone q rest quote absent =>
    simp only [Piece.text, List.singleton_append]
    rw [pieces]
    simp only [quote, if_true]
    split
    · next inner after found => simp [closeQuote?_eq_none.2 absent] at found
    · rfl
  | @plain c rest noQuote noName =>
    simp only [Piece.text, List.singleton_append]
    rw [pieces]
    simp [noQuote, noName]

/-- Every text is empty or has a leading piece. -/
theorem exists_leads {t : Text} (some : t ≠ []) : ∃ p rest, Leads p rest ∧ t = p.text ++ rest := by
  obtain ⟨c, rest, rfl⟩ := List.exists_cons_of_ne_nil some
  cases quote : isQuote c with
  | true =>
    cases closed : closeQuote? c rest with
    | none => exact ⟨.other c, rest, .lone quote (closeQuote?_eq_none.1 closed), rfl⟩
    | some split =>
      refine ⟨.quoted c split.1, split.2, .quoted quote (not_mem_of_closeQuote? closed), ?_⟩
      rw [closeQuote?_eq_append closed]
      simp [Piece.text]
  | false =>
    cases name : isNameChar c with
    | false => exact ⟨.other c, rest, .plain quote name, rfl⟩
    | true =>
      refine ⟨.word (c :: rest.takeWhile isNameChar), rest.dropWhile isNameChar, ?_, ?_⟩
      · refine .word (by simp) ?_ (head?_dropWhile_stop isNameChar rest)
        intro d member
        rcases List.mem_cons.1 member with rfl | later
        · exact name
        · exact List.mem_takeWhile_imp later
      · simp [Piece.text]

@[elab_as_elim] theorem pieces_induction {motive : Text → Prop} (nil : motive [])
    (cons : ∀ {p : Piece} {rest : Text}, Leads p rest → motive rest → motive (p.text ++ rest)) (t : Text) :
    motive t := by
  by_cases empty : t = []
  · exact empty ▸ nil
  · -- A leading piece takes something off, so the rest is shorter.
    obtain ⟨p, rest, leads, same⟩ := exists_leads empty
    have shorter : rest.length < t.length := by
      have := List.length_pos_iff.2 leads.text_ne_nil
      rw [same, List.length_append]
      omega
    exact same ▸ cons leads (pieces_induction nil cons rest)
termination_by t.length

/-- Every piece of a text leads what is left of the text there. -/
theorem leads_of_mem_pieces {t : Text} {p : Piece} (member : p ∈ pieces t) : ∃ rest, Leads p rest := by
  induction t using pieces_induction with
  | nil => simp [pieces] at member
  | @cons first rest leads ih =>
    rw [pieces_append leads] at member
    rcases List.mem_cons.1 member with rfl | later
    · exact ⟨rest, leads⟩
    · exact ih later

end AsmCheck.Source
