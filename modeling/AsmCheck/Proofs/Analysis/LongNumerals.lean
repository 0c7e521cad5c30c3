import AsmCheck.Proofs.Analysis.Reports
import AsmCheck.Proofs.Source.Comments
import AsmCheck.Proofs.Source.Evaluation
import AsmCheck.Proofs.Source.Literals
import AsmCheck.Proofs.Source.Operands

/-! A data line whose value is a decimal numeral beyond the limit. What the line says is clear, but its value is never
read, so a text with such a line cannot be analysed, whatever the instruction set. -/

set_option autoImplicit false

namespace AsmCheck

namespace Source

/-- A data directive and its value. -/
def dataLine (width : Width) (value : Text) : Text := width.keyword ++ .scalar ' ' :: value

/-! ## What the line says -/

variable {t digits : Text} {c : CodePoint}

theorem stripComment_plain_text (plain : ∀ c ∈ t, isQuote c = false ∧ c ≠ ';') : stripComment t = t := by
  induction t with
  | nil => rfl
  | cons c rest ih =>
    obtain ⟨quote, semicolon⟩ := plain c (by simp)
    rw [stripComment_plain quote semicolon, ih fun d member => plain d (by simp [member])]

theorem unquoted_plain (plain : ∀ c ∈ t, isQuote c = false) : unquoted t = t := by
  induction t using pieces_induction with
  | nil => rw [unquoted, pieces.eq_def]; rfl
  | @cons p rest leads ih =>
    have later := ih fun c member => plain c (List.mem_append_right _ member)
    unfold unquoted at later ⊢
    rw [pieces_append leads, List.flatMap_cons, later]
    cases leads with
    | @quoted q inside _ quote _ => simp [plain q (by simp [Piece.text])] at quote
    | word | lone | plain => rfl

/-- The defining keyword starts with a letter E. -/
theorem afterEqu?_eq_none (other : c.toUpper ≠ 'E') (rest : Text) : afterEqu? (c :: rest) = none := by
  have different : ¬((c :: rest).take 3).map CodePoint.toUpper = "EQU" := by
    intro same
    exact other (List.cons.inj same).1
  rw [afterEqu?, if_neg different]

theorem mentionsEquFrom_eq_false (other : ∀ c ∈ t, c.toUpper ≠ 'E') (inWord : Bool) :
    mentionsEquFrom inWord t = false := by
  induction t generalizing inWord with
  | nil => rfl
  | cons c rest ih =>
    rw [mentionsEquFrom, afterEqu?_eq_none (other c (by simp)), ih fun d member => other d (by simp [member])]
    simp

theorem toUpper_of_isDigit (digit : c.isDigit = true) : c.toUpper = c := by
  have range := toNat_of_isDigit digit
  cases c with
  | surrogate index => rfl
  | scalar c =>
    simp only [CodePoint.toNat] at range
    have lower : ∀ i < 58, (Char.ofNat i).toUpper = Char.ofNat i := by decide
    have same := lower c.toNat (by omega)
    rw [Char.ofNat_toNat] at same
    rw [CodePoint.toUpper, same]

/-- What the scanners ask of the characters of a data line with a numeral. -/
theorem plain_dataLine (width : Width) (each : ∀ c ∈ digits, c.isDigit = true) :
    ∀ c ∈ dataLine width digits, (isQuote c = false ∧ c ≠ ';') ∧ c.toUpper ≠ 'E' ∧ Text.isBreak c = false := by
  have front : ∀ c ∈ width.keyword ++ [.scalar ' '],
      (isQuote c = false ∧ c ≠ ';') ∧ c.toUpper ≠ 'E' ∧ Text.isBreak c = false := by
    cases width <;> decide
  intro c member
  rw [dataLine, List.append_cons] at member
  rcases List.mem_append.1 member with keyword | value
  · exact front c keyword
  · have digit := each c value
    have name := isNameChar_of_isDigit digit
    refine ⟨⟨isQuote_of_isNameChar name, ?_⟩, ?_, ?_⟩
    · rintro rfl
      cases digit
    · rw [toUpper_of_isDigit digit]
      rintro rfl
      cases digit
    · have range := toNat_of_isDigit digit
      simp only [Text.isBreak, Bool.or_eq_false_iff, Bool.and_eq_false_iff, decide_eq_false_iff_not,
        beq_eq_false_iff_ne]
      omega

theorem tight_dataLine (width : Width) (some : digits ≠ []) (each : ∀ c ∈ digits, c.isDigit = true) :
    Text.Tight (dataLine width digits) where
  first := by
    cases width <;> exact ⟨.scalar 'D', _, rfl, by decide⟩
  last := by
    have visible := isSpace_of_isNameChar (isNameChar_of_isDigit (each _ (List.getLast_mem some)))
    refine ⟨width.keyword ++ .scalar ' ' :: digits.dropLast, digits.getLast some, ?_, visible⟩
    simp [dataLine, List.dropLast_concat_getLast]

theorem body_dataLine (width : Width) (some : digits ≠ []) (each : ∀ c ∈ digits, c.isDigit = true) :
    body (dataLine width digits) = dataLine width digits := by
  have uncommented := stripComment_plain_text fun c member => (plain_dataLine width each c member).1
  rw [body, uncommented, (tight_dataLine width some each).trim_eq]

/-- A scan that stops at white space takes the keyword and leaves the value. -/
theorem dataLine_cut (width : Width) (p : CodePoint → Bool) (inside : ∀ c ∈ width.keyword, p c = true)
    (stop : p ' ' = false) (value : Text) : (dataLine width value).takeWhile p = width.keyword ∧
      (dataLine width value).dropWhile p = .scalar ' ' :: value := by
  have next : ∀ c ∈ (CodePoint.scalar ' ' :: value).head?, p c = false := by simpa using stop
  exact ⟨takeWhile_append_stop inside next, dropWhile_append_stop inside next⟩

theorem trimStart_value (some : digits ≠ []) (each : ∀ c ∈ digits, c.isDigit = true) :
    Text.trimStart (.scalar ' ' :: digits) = digits := by
  obtain ⟨first, rest, rfl⟩ := List.exists_cons_of_ne_nil some
  have visible := isSpace_of_isNameChar (isNameChar_of_isDigit (each first (by simp)))
  rw [Text.trimStart_cons_space (by decide), Text.trimStart_cons_visible visible]

theorem definition?_dataLine (width : Width) (some : digits ≠ []) (each : ∀ c ∈ digits, c.isDigit = true) :
    definition? (dataLine width digits) = none := by
  have after := (dataLine_cut width isConstantChar (by cases width <;> decide) (by decide) digits).2
  have noEqu : afterEqu? digits = none := by
    obtain ⟨first, rest, rfl⟩ := List.exists_cons_of_ne_nil some
    exact afterEqu?_eq_none (plain_dataLine .byte each first (by simp [dataLine])).2.1 rest
  have space : Text.isSpace (.scalar ' ') = true := by decide
  unfold definition?
  rw [after]
  simp [afterColon, afterSpace?, space, trimStart_value some each, noEqu]

theorem splitLabel?_dataLine (width : Width) (some : digits ≠ []) (each : ∀ c ∈ digits, c.isDigit = true) :
    splitLabel? (dataLine width digits) = none := by
  have after := (dataLine_cut width isNameChar (by cases width <;> decide) (by decide) digits).2
  have noColon : digits.head? ≠ .some ':' := by
    intro first
    cases each _ (List.mem_of_mem_head? first)
  unfold splitLabel?
  rw [after, trimStart_value some each]
  split
  · split
    · next rest => simp at noColon
    · rfl
  · rfl

theorem keywordStatement_dataLine (width : Width) (some : digits ≠ []) (each : ∀ c ∈ digits, c.isDigit = true) :
    keywordStatement none (dataLine width digits) = .data none width digits := by
  obtain ⟨keyword, after⟩ :=
    dataLine_cut width (!Text.isSpace ·) (by cases width <;> decide) (by decide) digits
  have tight : Text.Tight digits :=
    .of_visible some fun c member => isSpace_of_isNameChar (isNameChar_of_isDigit (each c member))
  have value : Text.trim (.scalar ' ' :: digits) = digits := by
    rw [Text.trim, trimStart_value some each, tight.trimEnd_eq]
  unfold keywordStatement
  rw [keyword, after, value]
  cases width <;> rfl

theorem classify_dataLine (width : Width) (some : digits ≠ []) (each : ∀ c ∈ digits, c.isDigit = true) :
    classify (dataLine width digits) = .data none width digits := by
  -- Each test that comes before the keyword fails: definition, section, label.
  have plain := plain_dataLine width each
  have filled : (dataLine width digits).isEmpty = false := by cases width <;> rfl
  have noMention : mentionsEqu (dataLine width digits) = false := by
    rw [mentionsEqu, unquoted_plain fun c member => (plain c member).1.1]
    exact mentionsEquFrom_eq_false (fun c member => (plain c member).2.1) false
  have noSection : Section.ofKeyword? (Text.upper (dataLine width digits)) = none := by cases width <;> rfl
  simp only [classify, body_dataLine width some each, filled, Bool.false_eq_true, if_false, statementOf,
    definition?_dataLine width some each, noMention, noSection, splitLabel?_dataLine width some each]
  exact keywordStatement_dataLine width some each

/-! ## Its value -/

theorem operands_digits (some : digits ≠ []) (each : ∀ c ∈ digits, c.isDigit = true) : operands digits = [digits] := by
  have names : ∀ c ∈ digits, isNameChar c = true := fun c member => isNameChar_of_isDigit (each c member)
  have passes : Passes {} digits {} := .neutral rfl fun c member => isNeutral_of_isNameChar (names c member)
  have tight : Text.Tight digits := .of_visible some fun c member => isSpace_of_isNameChar (names c member)
  simp [operands, passes.fieldsFrom_eq, tight.trim_eq, some]

theorem evaluate_digits_beyond (each : ∀ c ∈ digits, c.isDigit = true) (long : Numeral.limit < digits.length)
    (resolve : Text → Option Int) : evaluate resolve digits = .error ⟨⟩ := by
  have some : digits ≠ [] := List.ne_nil_of_length_pos (Nat.zero_lt_of_lt long)
  have names : ∀ c ∈ digits, isNameChar c = true := fun c member => isNameChar_of_isDigit (each c member)
  have read : number? digits = .error ⟨⟩ := by
    rw [number?_of_inTerm fun c member => inTerm_of_isNameChar (names c member),
      unsignedNumber?_eq_error.2 ⟨each, long⟩]
    rfl
  have single : tokens digits = [.term digits] := by
    have front : tokens (digits ++ []) = .term digits :: tokens [] := tokens_word some names (by simp)
    rwa [List.append_nil, tokens_nil] at front
  have plain : (tokens digits).all Token.isPlain = true := by
    have visible : ∀ c ∈ digits, Text.isSpace c = false := fun c member => isSpace_of_isNameChar (names c member)
    simpa [single, Token.isPlain] using fun c member => Or.inr (visible c member)
  rw [evaluate, if_pos plain, single]
  simp [sumTokens, termValue, read, bind, Except.bind]

end Source

namespace Analysis

variable {digits : Text} {set : InstructionSet} {symbols : Symbols} {width : Source.Width}

theorem statementIssues_of_long (each : ∀ c ∈ digits, c.isDigit = true) (long : Numeral.limit < digits.length) :
    statementIssues set symbols .data (.data none width digits) = .error ⟨⟩ := by
  have some : digits ≠ [] := List.ne_nil_of_length_pos (Nat.zero_lt_of_lt long)
  have noString : Source.isString digits = false := by
    obtain ⟨first, rest, rfl⟩ := List.exists_cons_of_ne_nil some
    have noQuote := Source.isQuote_of_isNameChar (Source.isNameChar_of_isDigit (each first (by simp)))
    rw [Source.isString, Source.stringBody?_of_unclosed fun quote => by simp [noQuote] at quote]
    rfl
  have unread : isInvalidValue symbols digits = .error ⟨⟩ := by
    rw [isInvalidValue, noString, Source.evaluate_digits_beyond each long]
    rfl
  simp [statementIssues, some, invalidValues, Source.operands_digits some each, selectM, unread, bind, Except.bind]

/-- Whatever the instruction set, the analysis stops at the value. -/
theorem analyze_eq_error_of_long (set : InstructionSet) (width : Source.Width) (each : ∀ c ∈ digits, c.isDigit = true)
    (long : Numeral.limit < digits.length) :
    analyze set (Text.terminated [(".data" : Text), Source.dataLine width digits]) = .error ⟨⟩ := by
  have some : digits ≠ [] := List.ne_nil_of_length_pos (Nat.zero_lt_of_lt long)
  have lines : Text.lines (Text.terminated [(".data" : Text), Source.dataLine width digits]) =
      [(".data" : Text), Source.dataLine width digits] := by
    apply Text.lines_terminated
    simp only [List.mem_cons, List.not_mem_nil, or_false]
    rintro line (rfl | rfl)
    · decide
    · exact fun c member => (Source.plain_dataLine width each c member).2.2
  -- An analysis that ends has checked both lines, and the second one cannot be checked.
  have entered : Source.classify ".data" = .enter .data := by decide +kernel
  cases analyzed : analyze set (Text.terminated [(".data" : Text), Source.dataLine width digits]) with
  | error limit => rfl
  | ok diagnostics =>
    obtain ⟨a, found, -⟩ := analyze_eq_ok.1 analyzed
    have checked := ofText_eq_ok found
    rw [lines] at checked
    obtain ⟨-, more, -, later, -⟩ := checkInstructionsFrom_cons.1 checked
    obtain ⟨issues, -, here, -, -⟩ := checkInstructionsFrom_cons.1 later
    rw [entered, Source.classify_dataLine width some each] at here
    cases (statementIssues_of_long each long).symm.trans here

end Analysis

end AsmCheck
