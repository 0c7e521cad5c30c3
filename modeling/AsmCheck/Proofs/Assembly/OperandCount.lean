import AsmCheck.Proofs.Assembly.Names
import AsmCheck.Proofs.Assembly.Placement
import AsmCheck.Proofs.Program.Operands

/-! Instructions of a text that passes the check. The check counts the operands as they are written, assembly
takes them apart after the constants have been put in, and both find the same number. -/

set_option autoImplicit false

namespace AsmCheck.Assembly

open Analysis (Symbols Report Issue checkInstructions instructionIssues)
open Source (Line)

/-- Putting constants in keeps the number of operands. -/
theorem length_operands_substitute {constants : Bindings Int} (free : Program.QuoteFree constants) {t s : Text}
    (replaced : Program.substitute constants t = .ok s) :
    (Source.operands s).length = (Source.operands t).length :=
  ((Program.substitute_eq_ok free).1 replaced).operands.length_eq.symm

theorem accepts_of_instructionIssues {set : InstructionSet} {symbols : Symbols} {mnemonic : Text}
    {operands : List Text} (clean : ∀ issue ∈ instructionIssues set symbols mnemonic operands, issue.severity ≠ .error) :
    ∃ operation, set.get? mnemonic = some operation ∧ operation.arity.accepts operands.length = true := by
  unfold instructionIssues at clean
  cases found : set.get? mnemonic with
  | none => simp [found, Issue.severity] at clean
  | some operation =>
    refine ⟨operation, rfl, ?_⟩
    cases accepted : operation.arity.accepts operands.length with
    | true => rfl
    | false => simp [found, accepted, Issue.severity] at clean

/-- An instruction that a run emits comes from a line of the code section, with its constants put in. -/
theorem exists_of_instruction_mem {lines : List Line}
    (classified : ∀ line ∈ lines, line.statement = Source.classify line.text) {i : Instruction}
    (emitted : Event.instruction i ∈ (run {} lines).events) :
    ∃ before line after label rest, lines = before ++ line :: after ∧
      line.statement = .instruction label i.mnemonic rest ∧ Analysis.sectionAt .code before = .code ∧
      i.operands.length = (Source.operands rest).length := by
  obtain ⟨before, line, after, reached, next, events, rfl, done, advanced, member⟩ := exists_of_mem_run_events emitted
  have named := run_named (fun other inside => classified other (List.mem_append_left _ inside)) done
  cases advanced with
  | @issued label mnemonic rest substituted statement active replaced =>
    simp only [List.mem_singleton, Event.instruction.injEq] at member
    subst member
    refine ⟨before, line, after, label, rest, rfl, statement, ?_, ?_⟩
    · have here := run_active done
      rw [active] at here
      exact here.symm
    · exact length_operands_substitute named.constants replaced
  | placed _ _ evaluated =>
    -- A data directive emits remarks and an item, but no instruction.
    rcases List.mem_append.1 member with remarked | placed
    · obtain ⟨substituted, -, -, origin⟩ := dataValues_eq_ok evaluated
      obtain ⟨operand, -, own, remarks, made, found⟩ := origin _ remarked
      cases remark_of_mem_itemValues made found
    · simp at placed
  | _ => simp at member

/-- In a text that is assembled and has no error to report, every instruction is one of the set and has as
many operands as it takes. -/
theorem instruction_accepted_of_clean {set : InstructionSet} {symbols : Symbols} {t : Text} {p : Program}
    {reports : List Report} (assembled : (assemble t).program = .ok p)
    (checked : checkInstructions set symbols (Source.number (Text.lines t)) = .ok reports)
    (clean : hasErrors (reports.map Report.diagnostic) = false) :
    ∀ i ∈ p.instructions, ∃ operation, set.get? i.mnemonic = some operation ∧
      operation.arity.accepts i.operands.length = true := by
  intro i member
  obtain ⟨last, -, rfl⟩ := program_eq_ok.1 assembled
  obtain ⟨before, line, after, label, rest, split, statement, inCode, count⟩ :=
    exists_of_instruction_mem (fun line inside => Source.statement_of_mem_numberFrom inside)
      (instruction_mem_events member)
  rw [Source.number, split] at checked
  obtain ⟨issues, found, reported⟩ := Analysis.exists_issues_of_checked checked
  simp only [inCode, statement, Analysis.statementIssues, Except.ok.injEq] at found
  subst found
  rw [count]
  apply accepts_of_instructionIssues
  intro issue issued severe
  have error : hasErrors (reports.map Report.diagnostic) = true := by
    simp only [hasErrors, List.any_map, List.any_eq_true]
    exact ⟨_, reported issue issued, by simp [Report.diagnostic, Diagnostic.isError, severe]⟩
  simp [clean] at error

/-- A negative constant goes into a memory operand and behind a quote that is never closed. -/
theorem instruction_accepted_negative_constant :
    (assemble "N EQU -5\nMOV [EBX+N], N\nMOV EAX, 'N,").program =
      .ok ⟨[⟨2, "MOV", ["[EBX+-5]", "-5"], "MOV [EBX+N], N"⟩, ⟨3, "MOV", ["EAX", "'-5,"], "MOV EAX, 'N,"⟩],
        [], [("N", -5)], [], 0⟩ ∧
    ∃ operation, InstructionSet.bundled.get? "MOV" = some operation ∧ operation.arity.accepts 2 = true := by
  have assembled : (assemble "N EQU -5\nMOV [EBX+N], N\nMOV EAX, 'N,").program =
      .ok ⟨[⟨2, "MOV", ["[EBX+-5]", "-5"], "MOV [EBX+N], N"⟩, ⟨3, "MOV", ["EAX", "'-5,"], "MOV EAX, 'N,"⟩],
        [], [("N", -5)], [], 0⟩ := by decide +kernel
  have checked : checkInstructions InstructionSet.bundled
      (Symbols.ofLines (Source.number (Text.lines "N EQU -5\nMOV [EBX+N], N\nMOV EAX, 'N,")))
      (Source.number (Text.lines "N EQU -5\nMOV [EBX+N], N\nMOV EAX, 'N,")) = .ok [] := by decide +kernel
  exact ⟨assembled, instruction_accepted_of_clean assembled checked rfl _ (List.mem_cons_self ..)⟩

end AsmCheck.Assembly
