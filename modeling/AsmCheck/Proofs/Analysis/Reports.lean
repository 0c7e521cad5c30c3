import AsmCheck.Analysis.Basic
import AsmCheck.Proofs.Analysis.Instructions

/-! Which check says what. The reports of an analysis carry the names of the checks that made them, so those of
one check can be told from the others. -/

set_option autoImplicit false

namespace AsmCheck.Analysis

open Source (Line)
open Numeral (TooLong)

theorem check_of_mem_repetitions {issue : Text → List Nat → Issue} {bindings : Bindings (List Line)} {r : Report}
    (member : r ∈ Symbols.repetitions issue bindings) {check : Check}
    (made : ∀ name others, (issue name others).check = check) : r.issue.check = check := by
  obtain ⟨⟨name, lines⟩, -, listed⟩ := List.mem_flatMap.1 member
  dsimp only at listed
  split at listed
  · simp at listed
  · obtain ⟨line, -, rfl⟩ := List.mem_map.1 listed
    exact made _ _

theorem check_of_mem_symbols {symbols : Symbols} {r : Report} (member : r ∈ symbols.reports) :
    r.issue.check = .labels := by
  rcases List.mem_append.1 member with label | constant
  · exact check_of_mem_repetitions label fun _ _ => rfl
  · exact check_of_mem_repetitions constant fun _ _ => rfl

theorem check_of_mem_flowStep {labels : List Text} {s : FlowState} {line : Line} {issue : Issue}
    (member : issue ∈ (flowStep labels s line).2) : issue.check = .flow := by
  unfold flowStep at member
  simp only at member
  split at member
  · rcases List.mem_append.1 member with unreached | outside
    · unfold unreachableIssue at unreached
      split at unreached
      · split at unreached
        · simp at unreached
        · cases List.mem_singleton.1 unreached
          rfl
      · simp at unreached
    · unfold returnIssue at outside
      split at outside
      · cases List.mem_singleton.1 outside
        rfl
      · simp at outside
  · simp at member

theorem check_of_mem_checkFlow {labels : List Text} {s : FlowState} {lines : List Line} {r : Report}
    (member : r ∈ checkFlowFrom labels s lines) : r.issue.check = .flow := by
  induction lines generalizing s with
  | nil => simp [checkFlowFrom] at member
  | cons line rest ih =>
    rcases List.mem_append.1 member with here | later
    · obtain ⟨issue, found, rfl⟩ := List.mem_map.1 here
      exact check_of_mem_flowStep found
    · exact ih later

/-- A routine is reported on at its first line, at the line that opens its frame, or as a whole. -/
theorem Routine.mem_frameReports {routine : Routine} {r : Report} (member : r ∈ routine.frameReports) :
    r.issue.check = .conventions ∧ (r.range = routine.first.range ∨
      (∃ push, routine.prologuePush = some push ∧ r.range = push.range) ∨
      r.range = routine.first.rangeTo routine.last) := by
  unfold frameReports at member
  split at member
  · simp at member
  · rcases List.mem_append.1 member with start | finish
    · unfold prologueReports at start
      split at start
      · cases List.mem_singleton.1 start
        exact ⟨rfl, .inl rfl⟩
      · next push pushed _ =>
        cases List.mem_singleton.1 start
        exact ⟨rfl, .inr (.inl ⟨push, pushed, rfl⟩)⟩
      · simp at start
    · unfold epilogueReports at finish
      split at finish
      · cases List.mem_singleton.1 finish
        exact ⟨rfl, .inr (.inr rfl)⟩
      · simp at finish

theorem Routine.mem_reports {routine : Routine} {r : Report} (member : r ∈ routine.reports) :
    r.issue.check = .conventions ∧ (r.range = routine.first.range ∨
      (∃ push, routine.prologuePush = some push ∧ r.range = push.range) ∨
      r.range = routine.first.rangeTo routine.last) := by
  unfold reports at member
  split at member
  · simp at member
  · simp only [List.mem_append] at member
    rcases member with (frame | balance) | register
    · exact mem_frameReports frame
    · unfold balanceReports at balance
      split at balance
      · simp at balance
      · cases List.mem_singleton.1 balance
        exact ⟨rfl, .inr (.inr rfl)⟩
    · obtain ⟨name, -, rfl⟩ := List.mem_map.1 register
      exact ⟨rfl, .inr (.inr rfl)⟩

/-- A call or a push is reported on alone or together with a line after it. -/
theorem mem_siteReports {line : Line} {after : List Line} {r : Report} (member : r ∈ siteReports line after) :
    r.issue.check = .conventions ∧ (∃ mnemonics, line.statement.isInstruction mnemonics = true) ∧
      (r.range = line.range ∨ ∃ next ∈ after, r.range = line.rangeTo next) := by
  unfold siteReports at member
  split at member
  · simp at member
  · split at member
    · next called =>
      unfold callReports at member
      split at member
      · next found =>
        split at member
        · cases List.mem_singleton.1 member
          exact ⟨rfl, ⟨_, called⟩, .inr ⟨_, List.mem_of_find?_eq_some found, rfl⟩⟩
        · simp at member
      · simp at member
    · split at member
      · next pushed =>
        unfold pushReports at member
        split at member
        · cases List.mem_singleton.1 member
          exact ⟨rfl, ⟨_, pushed⟩, .inl rfl⟩
        · simp at member
      · simp at member

theorem check_of_mem_checkConventions {known : List Text} {lines : List Line} {r : Report}
    (member : r ∈ checkConventions known lines) : r.issue.check = .conventions := by
  rcases List.mem_append.1 member with inside | site
  · obtain ⟨routine, -, found⟩ := List.mem_flatMap.1 inside
    exact (Routine.mem_reports found).1
  · clear member
    induction lines with
    | nil => simp [callSiteReports] at site
    | cons line rest ih =>
      rcases List.mem_append.1 site with here | later
      · exact (mem_siteReports here).1
      · exact ih later

/-- Place and opening words can be asked of the reports before they are put into words. -/
theorem filter_diagnostics (reports : List Report) (opening : Text) (i : Nat) :
    ((reports.map Report.diagnostic).filter fun d : Diagnostic =>
        d.range.startLine = (i : Int) && opening.isPrefixOf d.message) =
      ((reports.filter fun r : Report => r.range.startLine = (i : Int)).filter fun r : Report =>
        opening.isPrefixOf r.issue.message).map Report.diagnostic := by
  rw [List.filter_map, List.filter_filter]
  apply congrArg (List.map Report.diagnostic)
  apply List.filter_congr
  intro r _
  exact Bool.and_comm _ _

/-! ## The whole analysis -/

/-- The symbols of a whole text. -/
def Symbols.ofText (t : Text) : Symbols := Symbols.ofLines (Source.number (Text.lines t))

theorem analyze_eq_ok {set : InstructionSet} {t : Text} {diagnostics : List Diagnostic} :
    analyze set t = .ok diagnostics ↔
      ∃ a, ofText set t = .ok a ∧ a.reports.map Report.diagnostic = diagnostics := by
  rw [analyze, bind_eq_ok]
  simp [Analysis.diagnostics]

theorem ofText_eq_ok {set : InstructionSet} {t : Text} {a : Analysis} (analyzed : ofText set t = .ok a) :
    checkInstructions set (Symbols.ofText t) (Source.number (Text.lines t)) = .ok a.instructions := by
  obtain ⟨reports, checked, result⟩ := bind_eq_ok.1 analyzed
  cases result
  exact checked

theorem exists_analyze {set : InstructionSet} {t : Text} {reports : List Report}
    (checked : checkInstructions set (Symbols.ofText t) (Source.number (Text.lines t)) = .ok reports) :
    ∃ diagnostics, analyze set t = .ok diagnostics := by
  unfold Symbols.ofText at checked
  simp only [analyze, ofText, ofLines, checked, bind, Except.bind]
  exact ⟨_, rfl⟩

/-- A text that can be analysed with one instruction set can be analysed with every other. -/
theorem exists_analyze_of_set {set : InstructionSet} {t : Text} {diagnostics : List Diagnostic}
    (analyzed : analyze set t = .ok diagnostics) (other : InstructionSet) :
    ∃ diagnostics, analyze other t = .ok diagnostics := by
  obtain ⟨a, found, -⟩ := analyze_eq_ok.1 analyzed
  obtain ⟨reports, checked⟩ := exists_checked_of_set (ofText_eq_ok found) other
  exact exists_analyze checked

/-- What the check of instructions has found is told from the rest by the name of the check. -/
theorem mem_instructions_of_source {set : InstructionSet} {t : Text} {a : Analysis} (analyzed : ofText set t = .ok a)
    {r : Report} (member : r ∈ a.reports) (source : r.diagnostic.source = Check.instructions.name) :
    r ∈ a.instructions := by
  obtain ⟨reports, checked, result⟩ := bind_eq_ok.1 analyzed
  cases result
  -- No two checks have one name, so the name decides the check.
  have named : ∀ check : Check, r.issue.check = check → check = .instructions := by
    rintro check rfl
    change r.issue.check.name = _ at source
    cases own : r.issue.check <;> rw [own] at source <;> first | rfl | exact absurd source (by decide)
  simp only [Analysis.reports, List.mem_append] at member
  rcases member with ((label | instruction) | flow) | convention
  · cases named _ (check_of_mem_symbols label)
  · exact instruction
  · cases named _ (check_of_mem_checkFlow flow)
  · cases named _ (check_of_mem_checkConventions convention)

end AsmCheck.Analysis
