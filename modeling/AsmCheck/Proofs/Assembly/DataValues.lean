import AsmCheck.Proofs.Analysis.Reports
import AsmCheck.Proofs.Assembly.Names
import AsmCheck.Proofs.Assembly.Placement
import AsmCheck.Proofs.Program.Evaluation
import AsmCheck.Proofs.Program.Operands

/-! Data values without a number. Assembly resolves the names of a data directive with what the lines before it
define, the check with what the whole text defines. Where the directive uses no name too early both find the same
values wanting; a name that is used too early can hide a value from the check. -/

set_option autoImplicit false

namespace AsmCheck.Assembly

open Analysis (Symbols Report Issue isInvalidValue)
open Program (Substituted)
open Source (Line Token tokens evaluate Width)

/-- What a name stands for at this point of an assembly. -/
def State.valueOf? (s : State) (name : Text) : Option Int := Program.resolve s.constants s.labels.get? name

/-- The operand has a name that the text defines somewhere but that stands for nothing at this point. -/
def UsesEarly (symbols : Symbols) (s : State) (operand : Text) : Prop :=
  ∃ name, Token.term name ∈ tokens operand ∧ symbols.knows name = true ∧ s.valueOf? name = none

/-- A data directive on a line, counted from one, with the state in which it is evaluated and its operands as they
are written. -/
def DirectiveAt (t : Text) (k : Nat) (s : State) (operands : List Text) : Prop :=
  ∃ before line after reached label width rest, Source.number (Text.lines t) = before ++ line :: after ∧
    (run {} before).outcome = .ok reached ∧ reached.active = .data ∧ line.statement = .data label width rest ∧
    k = line.index + 1 ∧ s = reached.mark label ∧ operands = Source.operands rest

/-- No data directive uses a name before it has a value. -/
def NamesOnTime (t : Text) : Prop :=
  ∀ k s operands, DirectiveAt t k s operands → ∀ operand ∈ operands, ¬UsesEarly (Symbols.ofText t) s operand

/-- The check has called a data value on this line invalid. -/
def Reported (diagnostics : List Diagnostic) (k : Nat) : Prop :=
  ∃ d ∈ diagnostics, d.source = "asm-validator" ∧ d.severity = .error ∧
    ("Invalid data value" : Text) <+: d.message ∧ d.range.startLine + 1 = k

/-- Some operand uses a name too early, and the check finds nothing wrong with any of them. -/
def Overlooked (symbols : Symbols) (s : State) (operands : List Text) : Prop :=
  (∃ operand ∈ operands, UsesEarly symbols s operand) ∧
    ∀ operand ∈ operands, isInvalidValue symbols operand = .ok false

/-! ## One operand -/

variable {symbols : Symbols} {s : State} {raw item : Text}

/-- An operand that uses no name too early has a value for the check only if it has one for assembly. -/
theorem evaluate_of_not_usesEarly (free : Program.QuoteFree s.constants) (related : Substituted s.constants raw item)
    (onTime : ¬UsesEarly symbols s raw) {found : Option Int} (evaluated : evaluate s.labels.get? item = .ok found) :
    ∃ checked, evaluate symbols.resolve raw = .ok checked ∧ (checked.isSome = true → found.isSome = true) := by
  have fewer : ∀ name, Token.term name ∈ tokens raw → (symbols.resolve name).isSome = true →
      (s.valueOf? name).isSome = true := by
    intro name member known
    by_contra missing
    refine onTime ⟨name, member, ?_, by simpa using missing⟩
    simp only [Symbols.resolve] at known
    split at known
    · assumption
    · cases known
  -- Assembly sees the text with its constants put in. That makes a difference only if the text has no value anyway.
  by_cases none : evaluate s.valueOf? raw = .ok none
  · obtain ⟨checked, result, carried⟩ := Source.evaluate_of_fewer fewer none
    exact ⟨checked, result, fun some => by simpa using carried some⟩
  · have same : evaluate s.labels.get? item = evaluate s.valueOf? raw :=
      Program.evaluate_substituted free related none
    exact Source.evaluate_of_fewer fewer (same.symm.trans evaluated)

/-- Without a name used too early the check can be made, and it finds what assembly remarks upon. -/
theorem isInvalidValue_of_not_usesEarly (free : Program.QuoteFree s.constants)
    (related : Substituted s.constants raw item) (onTime : ¬UsesEarly symbols s raw) {n : Nat} {width : Width}
    {values : List Int} {events : List Event} (made : itemValues s.labels n width item = .ok (values, events)) :
    ∃ invalid, isInvalidValue symbols raw = .ok invalid ∧ (events ≠ [] → invalid = true) := by
  unfold isInvalidValue
  rcases itemValues_eq_ok made with ⟨string, rfl⟩ | ⟨noString, found, evaluated, rfl⟩
  · rw [related.to_string free string] at string
    exact ⟨false, by simp [string], by simp⟩
  · have noString : Source.isString raw = false := by
      cases string : Source.isString raw with
      | false => rfl
      | true => simp [related.of_string free string, string] at noString
    obtain ⟨checked, result, carried⟩ := evaluate_of_not_usesEarly free related onTime evaluated
    refine ⟨checked.isNone, by simp [noString, result, bind, Except.bind], ?_⟩
    intro remarked
    cases checked with
    | none => rfl
    | some v => simp [carried rfl] at remarked

/-! ## One directive -/

variable {t : Text} {k : Nat} {operands : List Text}

theorem DirectiveAt.quoteFree (directive : DirectiveAt t k s operands) : Program.QuoteFree s.constants := by
  obtain ⟨before, line, after, reached, label, -, -, split, done, -, -, -, rfl, -⟩ := directive
  rw [State.mark_constants]
  refine (run_named ?_ done).constants
  intro other inside
  have member : other ∈ Source.number (Text.lines t) := split ▸ List.mem_append_left _ inside
  exact Source.statement_of_mem_numberFrom member

theorem exists_directive_of_remark {width : Width}
    (emitted : Event.remark (.valueNotNumeric k width item) ∈ (run {} (Source.number (Text.lines t))).events) :
    ∃ s operands, DirectiveAt t k s operands ∧ ∃ raw ∈ operands, Substituted s.constants raw item ∧
      ∃ values events, itemValues s.labels k width item = .ok (values, events) ∧ events ≠ [] := by
  obtain ⟨before, line, after, reached, next, events, split, done, advanced, member⟩ := exists_of_mem_run_events emitted
  cases advanced with
  | @placed label _ rest values remarks statement active evaluated =>
    have remarked : Event.remark (.valueNotNumeric k width item) ∈ remarks := by simpa using member
    obtain ⟨substituted, replaced, -, origin⟩ := dataValues_eq_ok evaluated
    obtain ⟨operand, listed, own, emissions, made, found⟩ := origin _ remarked
    cases remark_of_mem_itemValues made found
    have directive : DirectiveAt t (line.index + 1) (reached.mark label) (Source.operands rest) :=
      ⟨before, line, after, reached, label, width, rest, split, done, active, statement, rfl, rfl, rfl⟩
    have related := ((Program.substitute_eq_ok directive.quoteFree).1 replaced).operands
    obtain ⟨raw, written, both⟩ := exists_of_forall₂_of_mem_right related listed
    exact ⟨_, _, directive, raw, written, both, own, emissions, made, List.ne_nil_of_mem found⟩
  | _ => simp at member

theorem DirectiveAt.exists_item (directive : DirectiveAt t k s operands) {last : State}
    (done : (run {} (Source.number (Text.lines t))).outcome = .ok last) {raw : Text} (written : raw ∈ operands) :
    ∃ item, Substituted s.constants raw item ∧ ∃ n width part, itemValues s.labels n width item = .ok part := by
  have free := directive.quoteFree
  obtain ⟨before, line, after, reached, label, width, rest, split, there, -, statement, rfl, rfl, rfl⟩ := directive
  rw [split] at done
  obtain ⟨same, next, events, here, advanced⟩ := exists_advances_of_run done
  cases there.symm.trans here
  obtain ⟨values, remarks, evaluated⟩ := advanced.of_data statement
  obtain ⟨substituted, replaced, each, -⟩ := dataValues_eq_ok evaluated
  have related := ((Program.substitute_eq_ok free).1 replaced).operands
  obtain ⟨item, listed, both⟩ := exists_of_forall₂_of_mem_left related written
  exact ⟨item, both, line.index + 1, width, each item listed⟩

theorem statementIssues_data {set : InstructionSet} {label : Option Text} {width : Width} {rest : Text}
    {issues : List Issue} (found : Analysis.statementIssues set symbols .data (.data label width rest) = .ok issues)
    (some : Source.operands rest ≠ []) :
    ∃ invalid, Analysis.selectM (isInvalidValue symbols) (Source.operands rest) = .ok invalid ∧
      issues = invalid.map fun operand => .valueInvalid operand width := by
  have visible : rest.isEmpty = false := by
    cases rest with
    | nil => exact absurd rfl some
    | cons c more => rfl
  simp only [Analysis.statementIssues, visible, Bool.false_eq_true, if_false, bind_eq_ok] at found
  obtain ⟨invalid, selected, result⟩ := found
  exact ⟨invalid, selected, (Except.ok.inj result).symm⟩

/-- The check reports a directive that has operands unless it finds all of them in order. -/
theorem reported_iff {set : InstructionSet} {diagnostics : List Diagnostic}
    (analyzed : analyze set t = .ok diagnostics)
    (directive : DirectiveAt t k s operands) (some : operands ≠ []) :
    Reported diagnostics k ↔
      ¬∀ operand ∈ operands, isInvalidValue (Symbols.ofText t) operand = .ok false := by
  obtain ⟨before, line, after, reached, label, width, rest, split, done, active, statement, rfl, rfl, rfl⟩ := directive
  obtain ⟨a, whole, rfl⟩ := Analysis.analyze_eq_ok.1 analyzed
  have checked := Analysis.ofText_eq_ok whole
  have here : Analysis.sectionAt .code before = .data := (run_active done).symm.trans active
  constructor
  · rintro ⟨d, member, source, -, -, onLine⟩ fine
    obtain ⟨r, reported, rfl⟩ := List.mem_map.1 member
    have found := Analysis.mem_instructions_of_source whole reported source
    obtain ⟨before', line', after', issues, split', issued, range, listed⟩ := Analysis.exists_of_mem_reports checked found
    -- Every line has a number of its own, so the report is on this line.
    have same : line.index = line'.index := by
      change r.range.startLine + 1 = _ at onLine
      rw [range] at onLine
      change (line'.index : Int) + 1 = _ at onLine
      omega
    obtain ⟨rfl, rfl⟩ := Source.line_unique split split' same
    rw [here, statement] at issued
    obtain ⟨invalid, selected, rfl⟩ := statementIssues_data issued some
    obtain ⟨operand, chosen, -⟩ := List.mem_map.1 listed
    obtain ⟨written, wrong⟩ := (Analysis.mem_selectM selected).1 chosen
    simp [fine operand written] at wrong
  · intro wrong
    simp only [not_forall] at wrong
    obtain ⟨operand, written, wrong⟩ := wrong
    rw [split] at checked
    obtain ⟨issues, issued, reported⟩ := Analysis.exists_issues_of_checked checked
    rw [here, statement] at issued
    obtain ⟨invalid, selected, rfl⟩ := statementIssues_data issued some
    -- The analysis has gone through, so this operand was tested with some result.
    have chosen : operand ∈ invalid := by
      obtain ⟨tested, result⟩ := Analysis.exists_of_selectM selected operand written
      cases tested with
      | false => exact absurd result wrong
      | true => exact (Analysis.mem_selectM selected).2 ⟨written, result⟩
    have found : (⟨line.range, .valueInvalid operand width⟩ : Report) ∈ a.reports := by
      simp only [Analysis.reports, List.mem_append]
      exact .inl (.inl (.inr (reported _ (List.mem_map_of_mem chosen))))
    refine ⟨_, List.mem_map_of_mem found, rfl, rfl, ?_, rfl⟩
    have opening : ("Invalid data value" : Text) <+: ("Invalid data value '" : Text) := by decide
    refine opening.trans ?_
    simp only [Report.diagnostic, Issue.message, List.append_assoc]
    exact List.prefix_append _ _

/-! ## The whole text -/

theorem exists_analysis {set : InstructionSet} {last : State}
    (done : (run {} (Source.number (Text.lines t))).outcome = .ok last) (onTime : NamesOnTime t) :
    ∃ diagnostics, analyze set t = .ok diagnostics := by
  have checked : ∃ reports, Analysis.checkInstructions set (Symbols.ofText t) (Source.number (Text.lines t)) =
      .ok reports := by
    apply Analysis.exists_checked
    intro before line after split
    apply Analysis.exists_statementIssues
    intro label width rest statement active raw written
    have through := done
    rw [split] at through
    obtain ⟨reached, next, events, there, -⟩ := exists_advances_of_run through
    have directive : DirectiveAt t (line.index + 1) (reached.mark label) (Source.operands rest) :=
      ⟨before, line, after, reached, label, width, rest, split, there, (run_active there).trans active, statement, rfl,
        rfl, rfl⟩
    obtain ⟨item, related, n, width, part, made⟩ := directive.exists_item done written
    obtain ⟨invalid, result, -⟩ :=
      isInvalidValue_of_not_usesEarly directive.quoteFree related (onTime _ _ _ directive raw written) made
    exact ⟨invalid, result⟩
  obtain ⟨reports, checked⟩ := checked
  exact Analysis.exists_analyze checked

/-- Of a data value that assembly counts as zero the check says nothing only if the directive uses a name before
it has a value and if all its operands are in order for a reader who knows the whole text. Where no directive
uses a name too early, the analysis goes through and reports every such value. -/
theorem unresolved_value_reported_iff {set : InstructionSet} {t : Text} {p : Program} {k : Nat} {width : Width}
    {item : Text} (assembled : (assemble t).program = .ok p)
    (remarked : Remark.valueNotNumeric k width item ∈ (assemble t).remarks) :
    ∃ s operands, DirectiveAt t k s operands ∧
      (∀ diagnostics, analyze set t = .ok diagnostics →
        (Reported diagnostics k ↔ ¬Overlooked (Symbols.ofText t) s operands)) ∧
      (NamesOnTime t → ∃ diagnostics, analyze set t = .ok diagnostics ∧ Reported diagnostics k) := by
  obtain ⟨last, done, rfl⟩ := program_eq_ok.1 assembled
  have emitted : Event.remark (.valueNotNumeric k width item) ∈ (run {} (Source.number (Text.lines t))).events := by
    rcases mem_events_of_mem_remarks remarked with emitted | ⟨_, _, _, _, same⟩
    · exact emitted
    · cases same
  obtain ⟨s, operands, directive, raw, written, related, values, events, made, some⟩ := exists_directive_of_remark emitted
  have invalid : ¬UsesEarly (Symbols.ofText t) s raw → isInvalidValue (Symbols.ofText t) raw = .ok true := by
    intro onTime
    obtain ⟨invalid, result, found⟩ := isInvalidValue_of_not_usesEarly directive.quoteFree related onTime made
    rw [result, found some]
  refine ⟨s, operands, directive, ?_, ?_⟩
  · intro diagnostics analyzed
    rw [reported_iff analyzed directive (List.ne_nil_of_mem written)]
    constructor
    · rintro wrong ⟨-, fine⟩
      exact wrong fine
    · intro seen fine
      refine seen ⟨⟨raw, written, ?_⟩, fine⟩
      by_contra onTime
      have wrong := invalid onTime
      simp [fine raw written] at wrong
  · intro onTime
    obtain ⟨diagnostics, analyzed⟩ : ∃ diagnostics, analyze set t = .ok diagnostics := exists_analysis done onTime
    refine ⟨diagnostics, analyzed, ?_⟩
    rw [reported_iff analyzed directive (List.ne_nil_of_mem written)]
    intro fine
    have wrong := invalid (onTime _ _ _ directive raw written)
    simp [fine raw written] at wrong

/-- A name that nothing defines is reported. -/
theorem unresolved_value_reported_unknown_name :
    Remark.valueNotNumeric 2 .byte "Q" ∈ (assemble ".data\nDB 1, Q").remarks ∧
      ∃ s operands, DirectiveAt ".data\nDB 1, Q" 2 s operands ∧
        ¬Overlooked (Symbols.ofText ".data\nDB 1, Q") s operands := by
  have assembled : (assemble ".data\nDB 1, Q").program = .ok ⟨[], [], [], [⟨0x2000, .byte, [1, 0], none⟩], 0⟩ := by
    decide +kernel
  have remarked : Remark.valueNotNumeric 2 .byte "Q" ∈ (assemble ".data\nDB 1, Q").remarks := by decide +kernel
  have analyzed : analyze InstructionSet.bundled ".data\nDB 1, Q" =
      .ok [⟨.error, ⟨1, 0, 1, 7⟩, "Invalid data value 'Q' in DB directive", "asm-validator"⟩] := by decide +kernel
  have reported : Reported [⟨.error, ⟨1, 0, 1, 7⟩, "Invalid data value 'Q' in DB directive", "asm-validator"⟩] 2 :=
    ⟨_, List.mem_singleton.2 rfl, rfl, rfl, by decide, rfl⟩
  obtain ⟨s, operands, directive, same, -⟩ := unresolved_value_reported_iff assembled remarked
  exact ⟨remarked, s, operands, directive, (same _ analyzed).1 reported⟩

/-- A name that is defined after its use is not. -/
theorem unresolved_value_overlooked_later_constant :
    (assemble ".data\nDB N\nN EQU 5\n").program = .ok ⟨[], [], [("N", 5)], [⟨0x2000, .byte, [0], none⟩], 0⟩ ∧
      Remark.valueNotNumeric 2 .byte "N" ∈ (assemble ".data\nDB N\nN EQU 5\n").remarks ∧
      ∃ diagnostics, analyze InstructionSet.bundled ".data\nDB N\nN EQU 5\n" = .ok diagnostics ∧
        ¬Reported diagnostics 2 :=
  ⟨by decide +kernel, by decide +kernel, [], by decide +kernel, by simp [Reported]⟩

end AsmCheck.Assembly
