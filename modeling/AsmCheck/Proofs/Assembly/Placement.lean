import AsmCheck.InstructionSet.Bundled
import AsmCheck.Proofs.Analysis.Instructions
import AsmCheck.Proofs.Assembly.Run
import AsmCheck.Proofs.Source.Lines
import Mathlib.Order.Bounds.Basic

/-! Lines in the wrong section. Assembly stops at the first of them, and the check of instructions reports
all of them: the line that assembly names is the first that the check reports. -/

set_option autoImplicit false

namespace AsmCheck

/-- The check objects to the section that a statement stands in. -/
def Analysis.Issue.isMisplacement : Issue → Bool
  | .dataInCode _ | .codeInData _ => true
  | _ => false

namespace Assembly

open Analysis (Symbols Report Issue checkInstructions checkInstructionsFrom statementIssues instructionIssues
  sectionAfter)
open Source (Line Section Statement)

/-- Why a statement cannot stand in a section, if it cannot. -/
def misplaced? : Section → Statement → Option Misplaced
  | .code, .data _ width _ => some (.dataInCode width.keyword)
  | .data, .instruction none mnemonic _ => some (.codeInData mnemonic)
  | _, _ => none

/-! ## One line -/

theorem step_of_misplaced {s : State} {line : Line} {cause : Misplaced}
    (misplaced : misplaced? s.active line.statement = some cause) :
    step s line = .error (.rejected ⟨line.index + 1, line.text, cause⟩) := by
  unfold misplaced? at misplaced
  split at misplaced
  · next active statement =>
    cases misplaced
    simp only [step, statement, active, reject]
  · next active statement =>
    cases misplaced
    simp [step, statement, active, reject]
  · cases misplaced

theorem step_error_of_placed {s : State} {line : Line} {failure : Failure}
    (placed : misplaced? s.active line.statement = none) (stopped : step s line = .error failure) :
    failure = .numeral := by
  unfold step at stopped
  cases statement : line.statement with
  | blank | comment | malformedConstant | enter sec | label name => simp [statement] at stopped
  | constant name value =>
    simp only [statement] at stopped
    rcases bind_eq_error.1 stopped with limit | ⟨found, -, result⟩
    · exact (Numeral.failWith_eq_error.1 limit).2
    · cases found <;> cases result
  | origin label rest =>
    simp only [statement] at stopped
    rcases bind_eq_error.1 stopped with limit | ⟨found, -, result⟩
    · exact (Numeral.failWith_eq_error.1 limit).2
    · cases found <;> cases result
  | data label width rest =>
    cases active : s.active with
    | code => simp [misplaced?, statement, active] at placed
    | data =>
      simp only [statement, active] at stopped
      rcases bind_eq_error.1 stopped with limit | ⟨found, -, result⟩
      · exact (Numeral.failWith_eq_error.1 limit).2
      · cases result
  | instruction label mnemonic rest =>
    cases active : s.active with
    | data =>
      cases label with
      | none => simp [misplaced?, statement, active] at placed
      | some name => simp [statement, active] at stopped
    | code =>
      simp only [statement, active] at stopped
      rcases bind_eq_error.1 stopped with limit | ⟨found, -, result⟩
      · exact (Numeral.failWith_eq_error.1 limit).2
      · cases result

theorem Advances.active {s next : State} {line : Line} {events : List Event}
    (advanced : Advances s line next events) : next.active = sectionAfter s.active line.statement := by
  cases advanced with
  | skipped statement =>
    cases shape : line.statement <;> simp_all [sectionAfter, Statement.isCode]
  | malformed statement | defined statement _ | undefined statement _ | entered statement | labelled statement
  | moved statement _ | unmoved statement _ | placed statement _ _ | ignored statement _ | issued statement _ _ =>
    simp [statement, sectionAfter]

/-- Assembly and the check reach the same section. -/
theorem run_active {lines : List Line} {s reached : State} (done : (run s lines).outcome = .ok reached) :
    reached.active = Analysis.sectionAt s.active lines := by
  induction lines generalizing s with
  | nil =>
    simp only [run, Except.ok.injEq] at done
    rw [← done]
    rfl
  | cons line rest ih =>
    cases taken : step s line with
    | error failure => simp [run, taken] at done
    | ok result =>
      obtain ⟨next, events⟩ := result
      simp only [run, taken] at done
      rw [ih done, (step_advances taken).active]
      rfl

theorem not_isMisplacement_of_mem_instructionIssues {set : InstructionSet} {symbols : Symbols} {mnemonic : Text}
    {operands : List Text} {issue : Issue} (member : issue ∈ instructionIssues set symbols mnemonic operands) :
    issue.isMisplacement = false := by
  unfold instructionIssues at member
  split at member
  · simp only [List.mem_singleton] at member
    subst member
    rfl
  · split at member
    · simp only [List.mem_append, List.mem_map] at member
      rcases member with ⟨operand, -, rfl⟩ | target
      · rfl
      · split at target
        · obtain ⟨operand, -, rfl⟩ := List.mem_map.1 target
          rfl
        · simp at target
    · simp only [List.mem_singleton] at member
      subst member
      rfl

/-- The check objects to the section of a statement exactly where assembly does. -/
theorem exists_isMisplacement_iff {set : InstructionSet} {symbols : Symbols} {active : Section}
    {statement : Statement} {issues : List Issue}
    (checked : statementIssues set symbols active statement = .ok issues) :
    (∃ issue ∈ issues, issue.isMisplacement = true) ↔ (misplaced? active statement).isSome := by
  cases statement with
  | blank | comment | label name | constant name value | enter sec | origin label rest =>
    cases checked
    simp [misplaced?]
  | malformedConstant =>
    cases checked
    simp [misplaced?, Issue.isMisplacement]
  | data label width rest =>
    cases active with
    | code =>
      cases checked
      simp [misplaced?, Issue.isMisplacement]
    | data =>
      simp only [statementIssues] at checked
      split at checked
      · cases checked
        simp [misplaced?, Issue.isMisplacement]
      · obtain ⟨items, -, result⟩ := bind_eq_ok.1 checked
        cases result
        simp [misplaced?, Issue.isMisplacement]
  | instruction label mnemonic rest =>
    cases active with
    | code =>
      cases checked
      simp only [misplaced?, Option.isSome_none, Bool.false_eq_true, iff_false, not_exists, not_and]
      intro issue member
      simp [not_isMisplacement_of_mem_instructionIssues member]
    | data =>
      cases label with
      | none =>
        cases checked
        simp [misplaced?, Issue.isMisplacement]
      | some name =>
        cases checked
        simp [misplaced?, Issue.isMisplacement]

/-! ## A whole text -/

/-- The lines with a report that objects to their section, counted from zero. -/
def misplacementLines (reports : List Report) : Set Int :=
  {index | ∃ report ∈ reports, report.issue.isMisplacement = true ∧ report.range.startLine = index}

theorem misplacementLines_append (first second : List Report) :
    misplacementLines (first ++ second) = misplacementLines first ∪ misplacementLines second := by
  ext index
  simp [misplacementLines, or_and_right, exists_or]

theorem misplacementLines_line {set : InstructionSet} {symbols : Symbols} {active : Section} {line : Line}
    {issues : List Issue} (checked : statementIssues set symbols active line.statement = .ok issues) :
    misplacementLines (issues.map (⟨line.range, ·⟩)) =
      {index : Int | index = line.index ∧ (misplaced? active line.statement).isSome} := by
  ext index
  rw [Set.mem_ofPred, ← exists_isMisplacement_iff checked]
  constructor
  · rintro ⟨report, member, misplaced, rfl⟩
    obtain ⟨issue, listed, rfl⟩ := List.mem_map.1 member
    exact ⟨rfl, issue, listed, misplaced⟩
  · rintro ⟨rfl, issue, listed, misplaced⟩
    exact ⟨⟨line.range, issue⟩, List.mem_map_of_mem listed, misplaced, rfl⟩

theorem lt_of_mem_misplacementLines {set : InstructionSet} {symbols : Symbols} {active : Section}
    {lines : List Line} {reports : List Report} {bound : Nat}
    (checked : checkInstructionsFrom set symbols active lines = .ok reports)
    (later : ∀ line ∈ lines, bound < line.index) : ∀ index ∈ misplacementLines reports, (bound : Int) < index := by
  rintro index ⟨report, member, -, rfl⟩
  obtain ⟨before, line, after, issues, rfl, -, range, -⟩ := Analysis.exists_of_mem_reports checked member
  have beyond := later line (by simp)
  rw [range]
  exact Int.ofNat_lt.2 beyond

/-- A run that goes through has no misplaced line, and one that is rejected stops at the first. The
invariant is that assembly and the check have reached the same section. -/
theorem run_misplacements {set : InstructionSet} {symbols : Symbols} {lines : List Line} {reports : List Report}
    (sorted : lines.Pairwise (·.index < ·.index)) {s : State}
    (checked : checkInstructionsFrom set symbols s.active lines = .ok reports) :
    (∀ reached, (run s lines).outcome = .ok reached → misplacementLines reports = ∅) ∧
    ∀ r, (run s lines).outcome = .error (.rejected r) → IsLeast (misplacementLines reports) (r.line - 1) := by
  induction lines generalizing s reports with
  | nil =>
    cases checked
    exact ⟨fun _ _ => by simp [misplacementLines], fun r stopped => by simp [run] at stopped⟩
  | cons line rest ih =>
    obtain ⟨issues, more, here, later, rfl⟩ := Analysis.checkInstructionsFrom_cons.1 checked
    obtain ⟨beyond, restSorted⟩ := List.pairwise_cons.1 sorted
    rw [misplacementLines_append, misplacementLines_line here]
    cases misplaced : misplaced? s.active line.statement with
    | some cause =>
      -- The reports on this line come first, and the lines after it have greater numbers.
      have stopped := step_of_misplaced misplaced
      simp only [run, stopped, reduceCtorEq, false_implies, implies_true, true_and, Except.error.injEq,
        Failure.rejected.injEq]
      rintro r rfl
      refine ⟨Or.inl ⟨by simp, rfl⟩, ?_⟩
      rintro index (⟨rfl, -⟩ | found)
      · simp
      · have farther := lt_of_mem_misplacementLines later beyond index found
        change ((line.index + 1 : Nat) : Int) - 1 ≤ index
        omega
    | none =>
      have nothing : {index : Int | index = line.index ∧ (none : Option Misplaced).isSome} = ∅ := by simp
      rw [nothing, Set.empty_union]
      cases taken : step s line with
      | error failure =>
        -- A line in its place fails only at a numeral, and that is no rejection.
        have limit := step_error_of_placed misplaced taken
        simp [run, taken, limit]
      | ok result =>
        obtain ⟨next, events⟩ := result
        have active := (step_advances taken).active
        simp only [run, taken]
        exact ih restSorted (active ▸ later)

/-- Assembly rejects a line exactly if it is the first that the check reports as misplaced, and a text
without such a line is assembled. -/
theorem rejected_iff_first_misplacement {set : InstructionSet} {symbols : Symbols} {t : Text}
    {reports : List Report} (checked : checkInstructions set symbols (Source.number (Text.lines t)) = .ok reports)
    (converted : (assemble t).program ≠ .error .numeral) :
    (∀ k : Nat, (∃ r, (assemble t).program = .error (.rejected r) ∧ r.line = k) ↔
      IsLeast (misplacementLines reports) (k - 1)) ∧
    ((∀ report ∈ reports, report.issue.isMisplacement = false) → ∃ p, (assemble t).program = .ok p) := by
  obtain ⟨through, first⟩ := run_misplacements (Source.numberFrom_sorted none 0 (Text.lines t)) (s := {}) checked
  have outcomes : (∃ p, (assemble t).program = .ok p ∧ misplacementLines reports = ∅) ∨
      ∃ r, (assemble t).program = .error (.rejected r) ∧ IsLeast (misplacementLines reports) (r.line - 1) := by
    cases outcome : (run {} (Source.number (Text.lines t))).outcome with
    | ok reached =>
      exact .inl ⟨_, program_eq_ok.2 ⟨reached, outcome, rfl⟩, through reached outcome⟩
    | error failure =>
      cases failure with
      | numeral => exact absurd (program_eq_error.2 outcome) converted
      | rejected r => exact .inr ⟨r, program_eq_error.2 outcome, first r outcome⟩
  rcases outcomes with ⟨p, assembled, none⟩ | ⟨r, rejected, least⟩
  · refine ⟨fun k => ?_, fun _ => ⟨p, assembled⟩⟩
    simp [assembled, none, IsLeast]
  · refine ⟨fun k => ?_, fun placed => ?_⟩
    · constructor
      · rintro ⟨other, same, rfl⟩
        rw [rejected] at same
        cases same
        exact least
      · intro other
        have same := least.unique other
        exact ⟨r, rejected, by omega⟩
    · obtain ⟨report, member, misplaced, -⟩ := least.1
      simp [placed report member] at misplaced

/-- An instruction after a data label is passed over; the next one without a label is rejected. -/
theorem first_misplacement_after_labelled_instruction :
    (assemble ".data\nx: MOV\nDB 1\nRET\n.text\nDB 2").program =
      .error (.rejected ⟨4, "RET", .codeInData "RET"⟩) ∧
    IsLeast (misplacementLines [⟨⟨1, 0, 1, 6⟩, .codeAfterDataLabel "MOV" "x"⟩, ⟨⟨3, 0, 3, 3⟩, .codeInData "RET"⟩,
      ⟨⟨5, 0, 5, 4⟩, .dataInCode .byte⟩]) 3 := by
  have rejected : (assemble ".data\nx: MOV\nDB 1\nRET\n.text\nDB 2").program =
      .error (.rejected ⟨4, "RET", .codeInData "RET"⟩) := by decide +kernel
  have checked : checkInstructions InstructionSet.bundled {}
      (Source.number (Text.lines ".data\nx: MOV\nDB 1\nRET\n.text\nDB 2")) =
      .ok [⟨⟨1, 0, 1, 6⟩, .codeAfterDataLabel "MOV" "x"⟩, ⟨⟨3, 0, 3, 3⟩, .codeInData "RET"⟩,
        ⟨⟨5, 0, 5, 4⟩, .dataInCode .byte⟩] := by decide +kernel
  have converted : (assemble ".data\nx: MOV\nDB 1\nRET\n.text\nDB 2").program ≠ .error .numeral := by
    simp [rejected]
  have least := ((rejected_iff_first_misplacement checked converted).1 4).1 ⟨_, rejected, rfl⟩
  exact ⟨rejected, by simpa using least⟩

end Assembly

end AsmCheck
