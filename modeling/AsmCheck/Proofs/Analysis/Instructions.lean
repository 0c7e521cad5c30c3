import AsmCheck.Analysis.Instructions
import AsmCheck.Proofs.Sequence

/-! Reports of the check of instructions. Each of them is an issue of one line, found in the section that
the lines before it lead to, and each issue found there is reported. -/

set_option autoImplicit false

namespace AsmCheck.Analysis

open Source (Line Section)
open Numeral (TooLong)

/-- The section that some lines lead to. -/
def sectionAt (active : Section) (lines : List Line) : Section :=
  lines.foldl (fun current line => sectionAfter current line.statement) active

variable {set : InstructionSet} {symbols : Symbols} {active : Section} {lines : List Line}

theorem checkInstructionsFrom_cons {line : Line} {rest : List Line} {reports : List Report} :
    checkInstructionsFrom set symbols active (line :: rest) = .ok reports ↔
      ∃ issues more, statementIssues set symbols active line.statement = .ok issues ∧
        checkInstructionsFrom set symbols (sectionAfter active line.statement) rest = .ok more ∧
        reports = issues.map (⟨line.range, ·⟩) ++ more := by
  rw [checkInstructionsFrom, bind_eq_ok]
  constructor
  · rintro ⟨issues, first, joined⟩
    obtain ⟨more, later, result⟩ := bind_eq_ok.1 joined
    exact ⟨issues, more, first, later, (Except.ok.inj result).symm⟩
  · rintro ⟨issues, more, first, later, rfl⟩
    exact ⟨issues, first, bind_eq_ok.2 ⟨more, later, rfl⟩⟩

theorem exists_of_mem_reports {reports : List Report} {report : Report}
    (checked : checkInstructionsFrom set symbols active lines = .ok reports) (member : report ∈ reports) :
    ∃ before line after issues, lines = before ++ line :: after ∧
      statementIssues set symbols (sectionAt active before) line.statement = .ok issues ∧
      report.range = line.range ∧ report.issue ∈ issues := by
  induction lines generalizing active reports with
  | nil =>
    cases checked
    simp at member
  | cons first rest ih =>
    obtain ⟨issues, more, here, later, rfl⟩ := checkInstructionsFrom_cons.1 checked
    rcases List.mem_append.1 member with found | found
    · obtain ⟨issue, listed, rfl⟩ := List.mem_map.1 found
      exact ⟨[], first, rest, issues, rfl, here, rfl, listed⟩
    · obtain ⟨before, line, after, others, rfl, issued, range, listed⟩ := ih later found
      exact ⟨first :: before, line, after, others, rfl, issued, range, listed⟩

theorem exists_issues_of_checked {before after : List Line} {line : Line} {reports : List Report}
    (checked : checkInstructionsFrom set symbols active (before ++ line :: after) = .ok reports) :
    ∃ issues, statementIssues set symbols (sectionAt active before) line.statement = .ok issues ∧
      ∀ issue ∈ issues, ⟨line.range, issue⟩ ∈ reports := by
  induction before generalizing active reports with
  | nil =>
    obtain ⟨issues, more, here, -, rfl⟩ := checkInstructionsFrom_cons.1 checked
    refine ⟨issues, here, ?_⟩
    intro issue member
    exact List.mem_append_left _ (List.mem_map_of_mem member)
  | cons first rest ih =>
    obtain ⟨-, more, -, later, rfl⟩ := checkInstructionsFrom_cons.1 checked
    obtain ⟨issues, here, reported⟩ := ih later
    exact ⟨issues, here, fun issue member => List.mem_append_right _ (reported issue member)⟩

/-- The check goes through if it can be made at every line. -/
theorem exists_checked
    (each : ∀ before line after, lines = before ++ line :: after →
      ∃ issues, statementIssues set symbols (sectionAt active before) line.statement = .ok issues) :
    ∃ reports, checkInstructionsFrom set symbols active lines = .ok reports := by
  induction lines generalizing active with
  | nil => exact ⟨[], rfl⟩
  | cons line rest ih =>
    obtain ⟨issues, here⟩ := each [] line rest rfl
    have later : ∃ more, checkInstructionsFrom set symbols (sectionAfter active line.statement) rest = .ok more := by
      apply ih
      rintro before other after rfl
      exact each (line :: before) other after rfl
    obtain ⟨more, checked⟩ := later
    exact ⟨_, checkInstructionsFrom_cons.2 ⟨issues, more, here, checked, rfl⟩⟩

/-! ## Values that are tested one by one -/

theorem mem_selectM {α ε : Type} {test : α → Except ε Bool} {l found : List α} (selected : selectM test l = .ok found)
    {a : α} : a ∈ found ↔ a ∈ l ∧ test a = .ok true := by
  induction l generalizing found with
  | nil =>
    cases selected
    simp
  | cons first rest ih =>
    simp only [selectM, bind_eq_ok] at selected
    obtain ⟨here, tested, more, later, result⟩ := selected
    cases result
    cases here with
    | true =>
      simp only [if_true, List.mem_cons, ih later]
      constructor
      · rintro (rfl | ⟨member, positive⟩)
        · exact ⟨.inl rfl, tested⟩
        · exact ⟨.inr member, positive⟩
      · rintro ⟨rfl | member, positive⟩
        · exact .inl rfl
        · exact .inr ⟨member, positive⟩
    | false =>
      simp only [Bool.false_eq_true, if_false, List.mem_cons, ih later]
      constructor
      · rintro ⟨member, positive⟩
        exact ⟨.inr member, positive⟩
      · rintro ⟨rfl | member, positive⟩
        · simp [tested] at positive
        · exact ⟨member, positive⟩

theorem exists_of_selectM {α ε : Type} {test : α → Except ε Bool} {l found : List α}
    (selected : selectM test l = .ok found) : ∀ a ∈ l, ∃ b, test a = .ok b := by
  induction l generalizing found with
  | nil => simp
  | cons first rest ih =>
    simp only [selectM, bind_eq_ok] at selected
    obtain ⟨here, tested, more, later, -⟩ := selected
    intro a member
    rcases List.mem_cons.1 member with rfl | inside
    · exact ⟨here, tested⟩
    · exact ih later a inside

theorem exists_selectM {α ε : Type} {test : α → Except ε Bool} {l : List α} (each : ∀ a ∈ l, ∃ b, test a = .ok b) :
    ∃ found, selectM test l = .ok found := by
  induction l with
  | nil => exact ⟨[], rfl⟩
  | cons first rest ih =>
    obtain ⟨here, tested⟩ := each first (by simp)
    obtain ⟨more, later⟩ := ih fun a member => each a (by simp [member])
    exact ⟨if here then first :: more else more, by simp [selectM, tested, later, bind, Except.bind]⟩

/-- Only the values of a data directive can keep a statement from being checked. -/
theorem exists_statementIssues {statement : Source.Statement}
    (each : ∀ label width rest, statement = .data label width rest → active = .data →
      ∀ operand ∈ Source.operands rest, ∃ invalid, isInvalidValue symbols operand = .ok invalid) :
    ∃ issues, statementIssues set symbols active statement = .ok issues := by
  cases statement with
  | data label width rest =>
    cases active with
    | code => exact ⟨_, rfl⟩
    | data =>
      obtain ⟨found, selected⟩ := exists_selectM (each label width rest rfl rfl)
      simp only [statementIssues]
      split
      · exact ⟨_, rfl⟩
      · exact ⟨_, bind_eq_ok.2 ⟨found, selected, rfl⟩⟩
  | instruction label mnemonic rest =>
    cases active with
    | code => exact ⟨_, rfl⟩
    | data => cases label <;> exact ⟨_, rfl⟩
  | _ => exact ⟨_, rfl⟩

/-! ## Other instruction sets -/

/-- Whether a statement can be checked does not depend on the instruction set. -/
theorem exists_statementIssues_of_set {statement : Source.Statement} {issues : List Issue}
    (found : statementIssues set symbols active statement = .ok issues) (other : InstructionSet) :
    ∃ issues, statementIssues other symbols active statement = .ok issues := by
  cases statement with
  | data label width rest => exact ⟨issues, found⟩
  | instruction label mnemonic rest =>
    cases active with
    | code => exact ⟨_, rfl⟩
    | data => cases label <;> exact ⟨_, rfl⟩
  | _ => exact ⟨_, rfl⟩

theorem exists_checked_of_set {reports : List Report}
    (checked : checkInstructionsFrom set symbols active lines = .ok reports) (other : InstructionSet) :
    ∃ reports, checkInstructionsFrom other symbols active lines = .ok reports := by
  apply exists_checked
  rintro before line after rfl
  obtain ⟨issues, found, -⟩ := exists_issues_of_checked checked
  exact exists_statementIssues_of_set found other

end AsmCheck.Analysis
