import AsmCheck.Analysis.Basic
import AsmCheck.Proofs.Sequence
import AsmCheck.Proofs.Source.Retexting

/-! The analysis of lines with other texts. Every check finds the same issues on the same lines, in the same order, and
only reads the columns from the other texts. -/

set_option autoImplicit false

namespace AsmCheck.Analysis

open Source (Line Retexts Section Statement)

/-- The same issue in another text. -/
def Report.within (texts : List Text) (r : Report) : Report := { r with range := r.range.within texts }

variable {texts : List Text} {f : Line → Line}

/-! ## Symbols -/

def Symbols.mapLines (f : Line → Line) (bindings : Bindings (List Line)) : Bindings (List Line) :=
  bindings.map fun b => (b.1, b.2.map f)

def Symbols.map (f : Line → Line) (symbols : Symbols) : Symbols :=
  ⟨mapLines f symbols.labels, mapLines f symbols.constants⟩

theorem Symbols.addLine_mapLines (f : Line → Line) (bindings : Bindings (List Line)) (name : Text) (line : Line) :
    addLine (mapLines f bindings) name (f line) = mapLines f (addLine bindings name line) := by
  simp only [addLine]
  induction bindings with
  | nil => rfl
  | cons first rest ih =>
    obtain ⟨n, lines⟩ := first
    by_cases same : n = name
    · simp [mapLines, Bindings.alter, same]
    · simpa [mapLines, Bindings.alter, same] using ih

theorem Symbols.add_of_not_isCode {symbols : Symbols} {line : Line} (uncoded : line.statement.isCode = false) :
    symbols.add line = symbols := by
  rcases Statement.eq_of_isCode uncoded with statement | statement <;> simp [add, statement, Statement.label?]

theorem Symbols.add_map (retexts : Retexts texts f) (symbols : Symbols) (line : Line) :
    (symbols.map f).add (f line) = (symbols.add line).map f := by
  rcases retexts.statement line with same | ⟨uncoded, uncoded'⟩
  · unfold add
    rw [same]
    split
    · simp [map, addLine_mapLines]
    · split
      · simp [map, addLine_mapLines]
      · rfl
  · rw [add_of_not_isCode uncoded, add_of_not_isCode uncoded']

theorem Symbols.ofLines_map (retexts : Retexts texts f) (lines : List Line) :
    ofLines (lines.map f) = (ofLines lines).map f := by
  have general (symbols : Symbols) : (lines.map f).foldl add (symbols.map f) = (lines.foldl add symbols).map f := by
    induction lines generalizing symbols with
    | nil => rfl
    | cons line rest ih => simp [add_map retexts, ih]
  exact general {}

theorem Symbols.names_mapLines (f : Line → Line) (bindings : Bindings (List Line)) :
    (mapLines f bindings).names = bindings.names := by
  simp [mapLines, Bindings.names]

theorem Symbols.isSome_get?_mapLines (f : Line → Line) (bindings : Bindings (List Line)) (name : Text) :
    ((mapLines f bindings).get? name).isSome = (bindings.get? name).isSome := by
  simp only [Bindings.get?, mapLines]
  induction bindings with
  | nil => rfl
  | cons first rest ih =>
    obtain ⟨n, lines⟩ := first
    cases same : name == n <;> simp [List.lookup_cons, same, ih]

theorem Symbols.knows_map (f : Line → Line) (symbols : Symbols) : (symbols.map f).knows = symbols.knows := by
  funext name
  simp [knows, map, isSome_get?_mapLines]

theorem Symbols.otherLines_map (retexts : Retexts texts f) (lines : List Line) (line : Line) :
    otherLines (lines.map f) (f line) = otherLines lines line := by
  simp [otherLines, List.filter_map, Function.comp_def, retexts.index]

theorem Symbols.repetitions_mapLines (retexts : Retexts texts f) (issue : Text → List Nat → Issue)
    (bindings : Bindings (List Line)) :
    repetitions issue (mapLines f bindings) = (repetitions issue bindings).map (Report.within texts) := by
  simp only [repetitions, mapLines, List.flatMap_map, List.map_flatMap, List.length_map]
  congr 1
  funext ⟨name, lines⟩
  split
  · rfl
  · simp [Function.comp_def, otherLines_map retexts, retexts.range, Report.within]

theorem Symbols.reports_map (retexts : Retexts texts f) (symbols : Symbols) :
    (symbols.map f).reports = symbols.reports.map (Report.within texts) := by
  simp [reports, map, repetitions_mapLines retexts]

/-! ## Instructions -/

/-- Of the symbols a statement is only checked against the names that are known. -/
theorem statementIssues_of_knows {set : InstructionSet} {symbols other : Symbols} (same : symbols.knows = other.knows)
    (active : Section) (statement : Statement) :
    statementIssues set symbols active statement = statementIssues set other active statement := by
  have registers : isInvalidRegister set symbols = isInvalidRegister set other := by
    funext operand
    simp [isInvalidRegister, same]
  have targets : isUndefinedTarget set symbols = isUndefinedTarget set other := by
    funext target
    simp [isUndefinedTarget, same]
  have resolved : symbols.resolve = other.resolve := by
    funext name
    simp [Symbols.resolve, same]
  have values : isInvalidValue symbols = isInvalidValue other := by
    funext operand
    rw [isInvalidValue, isInvalidValue, resolved]
  cases statement with
  | data label width rest => simp only [statementIssues, invalidValues, values]
  | instruction label mnemonic rest => simp only [statementIssues, instructionIssues, registers, targets]
  | _ => rfl

theorem checkInstructionsFrom_map (retexts : Retexts texts f) (set : InstructionSet) {symbols other : Symbols}
    (same : symbols.knows = other.knows) (active : Section) (lines : List Line) :
    checkInstructionsFrom set symbols active (lines.map f) =
      (checkInstructionsFrom set other active lines).map (List.map (Report.within texts)) := by
  induction lines generalizing active with
  | nil => rfl
  | cons line rest ih =>
    have issues : statementIssues set symbols active (f line).statement =
        statementIssues set other active line.statement :=
      ((retexts.statement line).congr (statementIssues set symbols active) rfl).trans
        (statementIssues_of_knows same active line.statement)
    have after : sectionAfter active (f line).statement = sectionAfter active line.statement :=
      (retexts.statement line).congr (sectionAfter active) rfl
    rw [List.map_cons, checkInstructionsFrom, issues, after, ih, checkInstructionsFrom]
    cases statementIssues set other active line.statement with
    | error limit => rfl
    | ok found =>
      cases checkInstructionsFrom set other (sectionAfter active line.statement) rest with
      | error limit => rfl
      | ok more => simp [bind, Except.bind, Except.map, retexts.range, Report.within]

/-! ## Control flow -/

def FlowState.map (f : Line → Line) (s : FlowState) : FlowState := { s with before := s.before.map f }

theorem isReturn_map (retexts : Retexts texts f) (line : Line) : isReturn (f line) = isReturn line :=
  retexts.isInstruction line _

theorem returningLabelsFrom_map (retexts : Retexts texts f) (current : Option Text) (lines : List Line) :
    returningLabelsFrom current (lines.map f) = returningLabelsFrom current lines := by
  induction lines generalizing current with
  | nil => rfl
  | cons line rest ih =>
    simp [returningLabelsFrom, isReturn_map retexts, retexts.label?, ih]

theorem insideFunction_map (retexts : Retexts texts f) (labels : List Text) (before : List Line) :
    insideFunction labels (before.map f) = insideFunction labels before := by
  induction before with
  | nil => rfl
  | cons line rest ih => simp only [List.map_cons, insideFunction, retexts.label?, retexts.isInstruction, ih]

theorem returnIssue_map (retexts : Retexts texts f) (labels : List Text) (before : List Line) (line : Line) :
    returnIssue labels (before.map f) (f line) = returnIssue labels before line := by
  simp [returnIssue, isReturn_map retexts, returnsInside, retexts.label?, insideFunction_map retexts]

theorem unreachableIssue_map (retexts : Retexts texts f) (ended : Option (Nat × Text)) (line : Line) :
    unreachableIssue ended (f line) = unreachableIssue ended line := by
  simp [unreachableIssue, retexts.muted]

theorem flowStep_map (retexts : Retexts texts f) (labels : List Text) (s : FlowState) (line : Line) :
    flowStep labels (s.map f) (f line) = ((flowStep labels s line).1.map f, (flowStep labels s line).2) := by
  simp only [flowStep, FlowState.map, retexts.label?, retexts.index, unreachableIssue_map retexts,
    returnIssue_map retexts]
  rcases retexts.statement line with same | ⟨uncoded, uncoded'⟩
  · rw [same]
    split <;> rfl
  · rcases Statement.eq_of_isCode uncoded with here | here <;>
      rcases Statement.eq_of_isCode uncoded' with there | there <;> simp [here, there, sectionAfter]

theorem checkFlowFrom_map (retexts : Retexts texts f) (labels : List Text) (s : FlowState) (lines : List Line) :
    checkFlowFrom labels (s.map f) (lines.map f) = (checkFlowFrom labels s lines).map (Report.within texts) := by
  induction lines generalizing s with
  | nil => rfl
  | cons line rest ih =>
    simp [checkFlowFrom, flowStep_map retexts, ih, retexts.range, Report.within]

theorem checkFlow_map (retexts : Retexts texts f) (lines : List Line) :
    checkFlow (lines.map f) = (checkFlow lines).map (Report.within texts) := by
  rw [checkFlow, returningLabels, returningLabelsFrom_map retexts]
  exact checkFlowFrom_map retexts _ {} lines

/-! ## Calling conventions -/

theorem routineLabels_map (retexts : Retexts texts f) (known : List Text) (lines : List Line) :
    routineLabels known (lines.map f) = routineLabels known lines := by
  have called (line : Line) : calledLabel? known (f line) = calledLabel? known line := by
    simp only [calledLabel?, retexts.isInstruction, retexts.operands]
  have entry (line : Line) : entryLabel? (f line) = entryLabel? line := by
    simp only [entryLabel?, retexts.label?]
  simp [routineLabels, List.flatMap_map, called, entry]

def Stretch.map (f : Line → Line) (s : Stretch) : Stretch := ⟨f s.head, s.body.map f⟩

theorem startsAt_map (retexts : Retexts texts f) (labels : List Text) (line : Line) :
    startsAt labels (f line) = startsAt labels line := by
  simp only [startsAt, retexts.label?]

theorem stretches_map (retexts : Retexts texts f) (labels : List Text) (lines : List Line) :
    stretches labels (lines.map f) = (stretches labels lines).map (Stretch.map f) := by
  induction lines with
  | nil => rfl
  | cons line rest ih =>
    simp only [List.map_cons, stretches, startsAt_map retexts, ih]
    split
    · simp [Stretch.map, List.takeWhile_map, Function.comp_def, startsAt_map retexts]
    · rfl

namespace Routine

def map (f : Line → Line) (r : Routine) : Routine :=
  { r with
    first := f r.first
    last := f r.last
    prologuePush := r.prologuePush.map f
    prologueMove := r.prologueMove.map f
    epiloguePop := r.epiloguePop.map f }

theorem save_map (f : Line → Line) (r : Routine) (register : Text) :
    (r.map f).save register = (r.save register).map f := by
  unfold save
  split <;> rfl

theorem modify_map (f : Line → Line) (r : Routine) (register : Text) :
    (r.map f).modify register = (r.modify register).map f := by
  unfold modify
  split <;> rfl

theorem recordPush_map (f : Line → Line) (r : Routine) (line : Line) (target : Text) :
    (r.map f).recordPush (f line) target = (r.recordPush line target).map f := by
  simp only [recordPush]
  rw [← save_map, apply_ite (map f)]
  rfl

theorem recordPop_map (f : Line → Line) (r : Routine) (line : Line) (target : Text) :
    (r.map f).recordPop (f line) target = (r.recordPop line target).map f := by
  simp only [recordPop]
  split <;> rfl

theorem recordMove_map (f : Line → Line) (r : Routine) (line : Line) (target source : Text) :
    (r.map f).recordMove (f line) target source = (r.recordMove line target source).map f := by
  have framed : (r.map f).prologuePush.isSome = r.prologuePush.isSome := by simp [map]
  simp only [recordMove, framed]
  rw [← modify_map, apply_ite (map f)]
  rfl

theorem recordInstruction_map (retexts : Retexts texts f) (r : Routine) (line : Line) (mnemonic : Text)
    (operands : List Text) :
    (r.map f).recordInstruction (f line) mnemonic operands = (r.recordInstruction line mnemonic operands).map f := by
  simp only [recordInstruction, apply_ite (map f), recordPush_map, recordPop_map, retexts.index]
  congr 4
  split
  · exact recordMove_map f r line _ _
  · rw [modify_map, apply_ite (map f)]
  · rfl

theorem record_map (retexts : Retexts texts f) (r : Routine) (line : Line) :
    (r.map f).record (f line) = (r.record line).map f := by
  unfold record
  rcases retexts.statement line with same | ⟨uncoded, uncoded'⟩
  · rw [same]
    split
    · rw [recordInstruction_map retexts]
      rfl
    · rfl
  · rcases Statement.eq_of_isCode uncoded with here | here <;>
      rcases Statement.eq_of_isCode uncoded' with there | there <;> simp [here, there, map]

theorem ofStretch_map (retexts : Retexts texts f) (s : Stretch) : ofStretch (s.map f) = (ofStretch s).map f := by
  have general (body : List Line) (r : Routine) : (body.map f).foldl record (r.map f) = (body.foldl record r).map f := by
    induction body generalizing r with
    | nil => rfl
    | cons line rest ih => simp [record_map retexts, ih]
  simp only [ofStretch, Stretch.map, retexts.label?]
  rw [← general, ← record_map retexts]
  rfl

theorem prologueReports_map (retexts : Retexts texts f) (r : Routine) :
    (r.map f).prologueReports = r.prologueReports.map (Report.within texts) := by
  cases push : r.prologuePush with
  | none => simp [prologueReports, map, push, retexts.range, Report.within]
  | some line =>
    cases move : r.prologueMove <;> simp [prologueReports, map, push, move, retexts.range, Report.within]

theorem epilogueReports_map (retexts : Retexts texts f) (r : Routine) :
    (r.map f).epilogueReports = r.epilogueReports.map (Report.within texts) := by
  simp only [epilogueReports, map, Option.isSome_map, Option.isNone_map, retexts.rangeTo]
  split <;> rfl

theorem frameReports_map (retexts : Retexts texts f) (r : Routine) :
    (r.map f).frameReports = r.frameReports.map (Report.within texts) := by
  simp only [frameReports, prologueReports_map retexts, epilogueReports_map retexts, ← List.map_append]
  rw [apply_ite (List.map (Report.within texts))]
  rfl

theorem balanceReports_map (retexts : Retexts texts f) (r : Routine) :
    (r.map f).balanceReports = r.balanceReports.map (Report.within texts) := by
  simp only [balanceReports, map, retexts.rangeTo]
  split <;> rfl

theorem registerReports_map (retexts : Retexts texts f) (r : Routine) :
    (r.map f).registerReports = r.registerReports.map (Report.within texts) := by
  simp only [registerReports, unsaved, map, retexts.rangeTo, List.map_map]
  rfl

theorem reports_map (retexts : Retexts texts f) (r : Routine) :
    (r.map f).reports = r.reports.map (Report.within texts) := by
  simp only [reports, frameReports_map retexts, balanceReports_map retexts, registerReports_map retexts,
    ← List.map_append]
  rw [apply_ite (List.map (Report.within texts))]
  rfl

end Routine

theorem callsSoon_map (retexts : Retexts texts f) (lines : List Line) : callsSoon (lines.map f) = callsSoon lines := by
  induction lines with
  | nil => rfl
  | cons line rest ih => simp only [List.map_cons, callsSoon, retexts.isCode, retexts.isInstruction, retexts.label?, ih]

theorem stackCleaned?_map (retexts : Retexts texts f) (line : Line) : stackCleaned? (f line) = stackCleaned? line :=
  (retexts.statement line).congr (fun s => stackCleaned? { line with statement := s }) rfl

theorem siteReports_map (retexts : Retexts texts f) (line : Line) (after : List Line) :
    siteReports (f line) (after.map f) = (siteReports line after).map (Report.within texts) := by
  have calls (target : Text) :
      callReports (f line) target (after.map f) = (callReports line target after).map (Report.within texts) := by
    simp only [callReports, List.find?_map, Function.comp_def, retexts.isCode]
    cases after.find? (·.statement.isCode) with
    | none => rfl
    | some next =>
      simp only [Option.map_some, stackCleaned?_map retexts]
      cases stackCleaned? next with
      | none => rfl
      | some amount => simp [Report.within, retexts.rangeTo]
  have pushes (operand : Text) :
      pushReports (f line) operand (after.map f) = (pushReports line operand after).map (Report.within texts) := by
    simp only [pushReports, ← List.map_take, callsSoon_map retexts]
    split
    · simp [Report.within, retexts.range]
    · rfl
  simp only [siteReports, retexts.operands, retexts.isInstruction, calls, pushes]
  split
  · rfl
  · split
    · rfl
    · split <;> rfl

theorem callSiteReports_map (retexts : Retexts texts f) (lines : List Line) :
    callSiteReports (lines.map f) = (callSiteReports lines).map (Report.within texts) := by
  induction lines with
  | nil => rfl
  | cons line rest ih => simp [callSiteReports, siteReports_map retexts, ih]

theorem checkConventions_map (retexts : Retexts texts f) (known : List Text) (lines : List Line) :
    checkConventions known (lines.map f) = (checkConventions known lines).map (Report.within texts) := by
  have bodies (labels : List Text) : (routines labels (lines.map f)).flatMap Routine.reports =
      ((routines labels lines).flatMap Routine.reports).map (Report.within texts) := by
    simp [routines, stretches_map retexts, List.flatMap_map, List.map_flatMap, Routine.ofStretch_map retexts,
      Routine.reports_map retexts]
  simp [checkConventions, routineLabels_map retexts, bodies, callSiteReports_map retexts]

/-! ## The whole analysis -/

/-- The reports on lines with other texts are the same reports with the columns of these texts. -/
theorem reports_retexted {set : InstructionSet} {old : List Text} (retexts : Retexts texts f)
    (renumbered : Source.number texts = (Source.number old).map f) :
    (ofLines set texts).map Analysis.reports =
      (ofLines set old).map fun a => a.reports.map (Report.within texts) := by
  have symbols := Symbols.ofLines_map retexts (Source.number old)
  simp only [ofLines, renumbered, symbols, checkInstructions,
    checkInstructionsFrom_map retexts set (Symbols.knows_map f _), checkFlow_map retexts,
    Symbols.reports_map retexts]
  cases checkInstructionsFrom set (Symbols.ofLines (Source.number old)) .code (Source.number old) with
  | error limit => rfl
  | ok reports =>
    simp [bind, Except.bind, Except.map, Analysis.reports, Symbols.map, Symbols.names_mapLines,
      checkConventions_map retexts]

end AsmCheck.Analysis
