import AsmCheck.Proofs.Analysis.Reports
import AsmCheck.Proofs.Source.Columns
import AsmCheck.Proofs.Source.Operands
import AsmCheck.Proofs.Source.Sums

/-! The values that an analysis reads are stretches of the text as it is written. So a text without a long run of digits
is analysed to its end. -/

set_option autoImplicit false

namespace AsmCheck

namespace Text

/-- Each of the pieces is a stretch of the text, and the first one starts it. -/
structure CutInto (t : Text) (pieces : List Text) : Prop where
  first : ∀ piece ∈ pieces.head?, piece <+: t
  each : ∀ piece ∈ pieces, piece <:+: t

theorem CutInto.nil : CutInto [] [] := ⟨by simp, by simp⟩

/-- The text is cut in front of what is left of it. -/
theorem CutInto.cut {t rest : Text} {pieces : List Text} (cut : CutInto rest pieces) (suffix : rest <:+ t) :
    CutInto t ([] :: pieces) where
  first := by simp
  each := by
    intro piece member
    rcases List.mem_cons.1 member with rfl | later
    · exact List.nil_infix
    · exact (cut.each piece later).trans suffix.isInfix

theorem CutInto.consHead {t : Text} {pieces : List Text} (cut : CutInto t pieces) (c : CodePoint) :
    CutInto (c :: t) (consHead c pieces) := by
  cases pieces with
  | nil =>
    have start : [c] <+: c :: t := List.cons_prefix_cons.2 ⟨rfl, List.nil_prefix⟩
    exact ⟨by simp [Text.consHead], by simpa [Text.consHead] using start.isInfix⟩
  | cons first others =>
    have start : c :: first <+: c :: t := List.cons_prefix_cons.2 ⟨rfl, cut.first first rfl⟩
    refine ⟨by simpa [Text.consHead] using start, ?_⟩
    intro piece member
    rcases List.mem_cons.1 member with rfl | later
    · exact start.isInfix
    · exact List.infix_cons (cut.each piece (List.mem_cons_of_mem first later))

theorem cutInto_lines (t : Text) : CutInto t (lines t) := by
  induction t using lines.induct with
  | case1 => exact .nil
  | case2 rest ih =>
    rw [lines]
    exact ih.cut ⟨['\r', '\n'], rfl⟩
  | case3 c rest other broken ih =>
    rw [lines, if_pos broken]
    · exact ih.cut (List.suffix_cons c rest)
    · exact other
  | case4 c rest other unbroken ih =>
    rw [lines, if_neg unbroken]
    · exact ih.consHead c
    · exact other

theorem isInfix_trim (t : Text) : trim t <:+: t := by
  have start : trim t <+: trimStart t := trimEnd_prefix _
  exact start.isInfix.trans (List.dropWhile_suffix isSpace).isInfix

end Text

namespace Source

/-! ## Lines and their operands -/

theorem cutInto_fieldsFrom (n : Nesting) (t : Text) : t.CutInto (fieldsFrom n t) := by
  induction t generalizing n with
  | nil => exact ⟨by simp [fieldsFrom], by simp [fieldsFrom]⟩
  | cons c rest ih =>
    rw [fieldsFrom]
    split
    · exact (ih _).cut (List.suffix_cons c rest)
    · exact (ih _).consHead c

theorem infix_of_mem_operands {t operand : Text} (member : operand ∈ operands t) : operand <:+: t := by
  obtain ⟨field, found, rfl⟩ := List.mem_map.1 (List.mem_filter.1 member).1
  exact (Text.isInfix_trim field).trans ((cutInto_fieldsFrom {} t).each field found)

theorem isInfix_body (line : Text) : body line <:+: line :=
  (Text.isInfix_trim _).trans (isPrefix_stripCommentFrom none line).isInfix

theorem suffix_of_splitLabel? {t name after : Text} (labelled : splitLabel? t = some (name, after)) : after <:+ t := by
  obtain ⟨-, gap, -, rfl⟩ := exists_of_splitLabel? labelled
  exact ⟨name ++ gap ++ [.scalar ':'], by simp⟩

theorem isInfix_rest_keywordStatement (label : Option Text) (t : Text) : (keywordStatement label t).rest <:+: t := by
  have stretch : Text.trim (t.dropWhile (!Text.isSpace ·)) <:+: t :=
    (Text.isInfix_trim _).trans (List.dropWhile_suffix _).isInfix
  unfold keywordStatement
  simp only
  split
  · exact stretch
  · split <;> exact stretch

theorem isInfix_rest_statementOf (t : Text) : (statementOf t).rest <:+: t := by
  unfold statementOf
  split
  · exact List.nil_infix
  · split
    · exact List.nil_infix
    · split
      · exact List.nil_infix
      · split
        · exact isInfix_rest_keywordStatement none t
        · next labelled =>
          split
          · exact List.nil_infix
          · have trimmed := (Text.isInfix_trim _).trans (suffix_of_splitLabel? labelled).isInfix
            exact (isInfix_rest_keywordStatement _ _).trans trimmed

/-- What stands after the keyword of a line is a stretch of the line. -/
theorem isInfix_rest_classify (line : Text) : (classify line).rest <:+: line := by
  unfold classify
  split
  · split <;> exact List.nil_infix
  · exact (isInfix_rest_statementOf _).trans (isInfix_body line)

/-! ## Runs of digits -/

/-- No run of decimal digits in the text is beyond the limit. -/
def ShortRuns (t : Text) : Prop := ∀ run, run <:+: t → (∀ c ∈ run, c.isDigit = true) → run.length ≤ Numeral.limit

theorem ShortRuns.of_infix {t part : Text} (short : ShortRuns t) (inside : part <:+: t) : ShortRuns part :=
  fun run found => short run (found.trans inside)

theorem ShortRuns.withinLimit {t : Text} (short : ShortRuns t) : WithinLimit t :=
  fun w member => short w (infix_of_mem_tokens member).1

end Source

namespace Analysis

open Source (ShortRuns)

theorem exists_isInvalidValue (symbols : Symbols) {operand : Text} (short : ShortRuns operand) :
    ∃ invalid, isInvalidValue symbols operand = .ok invalid := by
  unfold isInvalidValue
  split
  · exact ⟨false, rfl⟩
  · obtain ⟨found, evaluated⟩ : ∃ found, Source.evaluate symbols.resolve operand = .ok found :=
      Source.exists_evaluate short.withinLimit
    exact ⟨_, bind_eq_ok.2 ⟨found, evaluated, rfl⟩⟩

theorem exists_analyze_of_shortRuns (set : InstructionSet) {t : Text} (short : ShortRuns t) :
    ∃ diagnostics, analyze set t = .ok diagnostics := by
  have checks : ∃ reports, checkInstructionsFrom set (Symbols.ofText t) .code (Source.number (Text.lines t)) =
      .ok reports := by
    apply exists_checked
    intro before line after split
    apply exists_statementIssues
    intro label width rest stated _ operand member
    apply exists_isInvalidValue
    -- The operand is a stretch of the line, and the line one of the text.
    have numbered : line ∈ Source.number (Text.lines t) := by simp [split]
    have listed : line.text ∈ Text.lines t := List.mem_of_getElem? (Source.text_of_mem_number numbered)
    have inside : rest <:+: line.text := by
      have stretch := Source.isInfix_rest_classify line.text
      rw [← Source.statement_of_mem_numberFrom numbered, stated] at stretch
      exact stretch
    have inLine := (Source.infix_of_mem_operands member).trans inside
    exact short.of_infix (inLine.trans ((Text.cutInto_lines t).each _ listed))
  obtain ⟨reports, checked⟩ := checks
  exact exists_analyze checked

end Analysis

end AsmCheck
