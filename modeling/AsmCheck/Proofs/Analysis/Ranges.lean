import AsmCheck.InstructionSet.Bundled
import AsmCheck.Proofs.Analysis.Reports
import AsmCheck.Proofs.Bindings
import AsmCheck.Proofs.Source.Columns

/-! Where diagnostics point. Every check starts its reports at a line that says something and ends them there or at
a later line of the same text, so no diagnostic points outside the text or at a blank line. -/

set_option autoImplicit false

namespace AsmCheck.Analysis

open Source (Line Section Statement)

/-- The range starts at one of the lines, which says something, and ends there or at a later one. -/
def Anchored (lines : List Line) (r : Range) : Prop :=
  ∃ first ∈ lines, ∃ last ∈ lines,
    first.statement.isCode = true ∧ first.index ≤ last.index ∧ r = first.rangeTo last

variable {lines : List Line} {line : Line} {r : Report}

theorem Anchored.of_line (member : line ∈ lines) (code : line.statement.isCode = true) : Anchored lines line.range :=
  ⟨line, member, line, member, code, Nat.le_refl _, rfl⟩

theorem Anchored.mono {more : List Line} {range : Range} (anchored : Anchored lines range) (among : lines ⊆ more) :
    Anchored more range := by
  obtain ⟨first, start, last, stop, code, ordered, same⟩ := anchored
  exact ⟨first, among start, last, among stop, code, ordered, same⟩

theorem Anchored.fitsIn {texts : List Text} {range : Range} (anchored : Anchored (Source.number texts) range) :
    range.FitsIn texts := by
  obtain ⟨first, start, last, stop, code, ordered, rfl⟩ := anchored
  exact Line.rangeTo_fitsIn start stop code ordered

theorem isCode_of_label? {name : Text} (labelled : line.label? = some name) : line.statement.isCode = true := by
  unfold Line.label? at labelled
  cases statement : line.statement <;> simp [statement, Statement.label?] at labelled <;> rfl

theorem isCode_of_isInstruction {s : Statement} {mnemonics : List Text} (called : s.isInstruction mnemonics = true) :
    s.isCode = true := by
  cases s <;> first | rfl | cases called

/-! ## Symbols -/

/-- All that the names are bound to are lines among the given ones, and each says something. -/
def Symbols.DefinedIn (lines : List Line) (bindings : Bindings (List Line)) : Prop :=
  ∀ name defining, (name, defining) ∈ bindings → ∀ line ∈ defining, line ∈ lines ∧ line.statement.isCode = true

theorem Symbols.DefinedIn.addLine {bindings : Bindings (List Line)} (defined : DefinedIn lines bindings)
    (member : line ∈ lines) (code : line.statement.isCode = true) (name : Text) :
    DefinedIn lines (addLine bindings name line) := by
  intro other defining bound one listed
  rcases Bindings.mem_alter bound with before | ⟨rfl, new⟩ | ⟨rfl, old, before, new⟩
  · exact defined _ _ before one listed
  · obtain rfl : one = line := by simpa [new] using listed
    exact ⟨member, code⟩
  · rw [new, Option.getD_some, List.mem_append, List.mem_singleton] at listed
    rcases listed with earlier | rfl
    · exact defined _ _ before one earlier
    · exact ⟨member, code⟩

structure Symbols.CollectedFrom (lines : List Line) (symbols : Symbols) : Prop where
  labels : DefinedIn lines symbols.labels
  constants : DefinedIn lines symbols.constants

theorem Symbols.CollectedFrom.add {symbols : Symbols} (collected : symbols.CollectedFrom lines)
    (member : line ∈ lines) : (symbols.add line).CollectedFrom lines := by
  unfold Symbols.add
  split
  · next statement => exact ⟨collected.labels, collected.constants.addLine member (by rw [statement]; rfl) _⟩
  · split
    · next labelled => exact ⟨collected.labels.addLine member (isCode_of_label? labelled) _, collected.constants⟩
    · exact collected

theorem Symbols.collectedFrom_ofLines (lines : List Line) : (ofLines lines).CollectedFrom lines := by
  have general (rest : List Line) (among : rest ⊆ lines) (symbols : Symbols)
      (collected : symbols.CollectedFrom lines) : (rest.foldl add symbols).CollectedFrom lines := by
    induction rest generalizing symbols with
    | nil => exact collected
    | cons line rest ih =>
      obtain ⟨member, others⟩ := List.cons_subset.1 among
      exact ih others _ (collected.add member)
  exact general lines (List.Subset.refl _) {} ⟨by simp [DefinedIn], by simp [DefinedIn]⟩

theorem anchored_of_mem_repetitions {issue : Text → List Nat → Issue} {bindings : Bindings (List Line)}
    (defined : Symbols.DefinedIn lines bindings) (member : r ∈ Symbols.repetitions issue bindings) :
    Anchored lines r.range := by
  obtain ⟨⟨name, defining⟩, bound, listed⟩ := List.mem_flatMap.1 member
  dsimp only at listed
  split at listed
  · simp at listed
  · obtain ⟨line, one, rfl⟩ := List.mem_map.1 listed
    obtain ⟨here, code⟩ := defined name defining bound line one
    exact .of_line here code

theorem anchored_of_mem_symbols (member : r ∈ (Symbols.ofLines lines).reports) : Anchored lines r.range := by
  have collected := Symbols.collectedFrom_ofLines lines
  rcases List.mem_append.1 member with label | constant
  · exact anchored_of_mem_repetitions collected.labels label
  · exact anchored_of_mem_repetitions collected.constants constant

/-! ## Instructions and control flow -/

theorem isCode_of_issue {set : InstructionSet} {symbols : Symbols} {active : Section} {s : Statement}
    {issues : List Issue} {issue : Issue} (issued : statementIssues set symbols active s = .ok issues)
    (member : issue ∈ issues) : s.isCode = true := by
  cases s with
  | blank | comment =>
    cases issued
    simp at member
  | _ => rfl

theorem anchored_of_mem_checkInstructions {set : InstructionSet} {symbols : Symbols} {reports : List Report}
    (checked : checkInstructions set symbols lines = .ok reports) (member : r ∈ reports) : Anchored lines r.range := by
  obtain ⟨before, line, after, issues, rfl, issued, range, found⟩ := exists_of_mem_reports checked member
  rw [range]
  exact .of_line (by simp) (isCode_of_issue issued found)

theorem isCode_of_mem_flowStep {labels : List Text} {s : FlowState} {issue : Issue}
    (member : issue ∈ (flowStep labels s line).2) : line.statement.isCode = true := by
  unfold flowStep at member
  simp only at member
  split at member
  · next statement _ => rw [statement]; rfl
  · simp at member

theorem anchored_of_mem_checkFlowFrom {labels : List Text} {s : FlowState}
    (member : r ∈ checkFlowFrom labels s lines) : Anchored lines r.range := by
  induction lines generalizing s with
  | nil => simp [checkFlowFrom] at member
  | cons line rest ih =>
    rcases List.mem_append.1 member with here | later
    · obtain ⟨issue, found, rfl⟩ := List.mem_map.1 here
      exact .of_line List.mem_cons_self (isCode_of_mem_flowStep found)
    · exact (ih later).mono (List.subset_cons_self _ _)

/-! ## Routines -/

/-- The stretch starts with one of the lines, which says something, and its other lines come later. -/
structure Stretch.CutFrom (lines : List Line) (s : Stretch) : Prop where
  head : s.head ∈ lines
  code : s.head.statement.isCode = true
  body : ∀ line ∈ s.body, line ∈ lines ∧ s.head.index ≤ line.index

theorem Stretch.CutFrom.mono {more : List Line} {s : Stretch} (cut : s.CutFrom lines) (among : lines ⊆ more) :
    s.CutFrom more where
  head := among cut.head
  code := cut.code
  body line member := ⟨among (cut.body line member).1, (cut.body line member).2⟩

theorem cutFrom_of_mem_stretches {labels : List Text} {s : Stretch} (sorted : lines.Pairwise (·.index < ·.index))
    (member : s ∈ stretches labels lines) : s.CutFrom lines := by
  induction lines with
  | nil => simp [stretches] at member
  | cons line rest ih =>
    obtain ⟨before, later⟩ := List.pairwise_cons.1 sorted
    rw [stretches] at member
    split at member
    · next starts =>
      rcases List.mem_cons.1 member with rfl | found
      · obtain ⟨name, labelled, -⟩ := (Option.any_eq_true _ _).1 starts
        refine ⟨List.mem_cons_self, isCode_of_label? labelled, ?_⟩
        intro other listed
        have among := (List.takeWhile_sublist _).subset listed
        exact ⟨.tail _ among, Nat.le_of_lt (before other among)⟩
      · exact (ih later found).mono (List.subset_cons_self _ _)
    · exact (ih later member).mono (List.subset_cons_self _ _)

namespace Routine

/-- The first line stays, and so does the line of the prologue unless it is this one. -/
structure Keeps (line : Line) (routine next : Routine) : Prop where
  first : next.first = routine.first
  push : next.prologuePush = routine.prologuePush ∨ next.prologuePush = some line

variable {routine : Routine}

theorem Keeps.refl (line : Line) (routine : Routine) : Keeps line routine routine := ⟨rfl, .inl rfl⟩

theorem Keeps.save {next : Routine} (keeps : Keeps line routine next) (register : Text) :
    Keeps line routine (next.save register) := by
  unfold Routine.save
  split
  · exact ⟨keeps.first, keeps.push⟩
  · exact keeps

theorem Keeps.modify {next : Routine} (keeps : Keeps line routine next) (register : Text) :
    Keeps line routine (next.modify register) := by
  unfold Routine.modify
  split
  · exact ⟨keeps.first, keeps.push⟩
  · exact keeps

theorem keeps_recordPush (routine : Routine) (line : Line) (target : Text) :
    Keeps line routine (routine.recordPush line target) := by
  apply Keeps.save
  split
  · exact ⟨rfl, .inr rfl⟩
  · exact ⟨rfl, .inl rfl⟩

theorem keeps_recordPop (routine : Routine) (line : Line) (target : Text) :
    Keeps line routine (routine.recordPop line target) := by
  simp only [recordPop]
  split <;> exact ⟨rfl, .inl rfl⟩

theorem keeps_recordMove (routine : Routine) (line : Line) (target source : Text) :
    Keeps line routine (routine.recordMove line target source) := by
  apply Keeps.modify
  split <;> exact ⟨rfl, .inl rfl⟩

theorem keeps_recordInstruction (routine : Routine) (line : Line) (mnemonic : Text) (operands : List Text) :
    Keeps line routine (routine.recordInstruction line mnemonic operands) := by
  -- Pushes, pops, calls and returns are told apart first, and what is left may move or write to a register.
  simp only [recordInstruction]
  split
  · exact keeps_recordPush routine line _
  · split
    · exact keeps_recordPop routine line _
    · split
      · exact ⟨rfl, .inl rfl⟩
      · split
        · exact ⟨rfl, .inl rfl⟩
        · split
          · exact keeps_recordMove routine line _ _
          · split
            · exact (Keeps.refl line routine).modify _
            · exact .refl line routine
          · exact .refl line routine

theorem first_record (routine : Routine) (line : Line) : (routine.record line).first = routine.first := by
  unfold Routine.record
  split
  · exact (keeps_recordInstruction routine line _ _).first
  · rfl

theorem last_record (routine : Routine) (line : Line) : (routine.record line).last = line := by
  unfold Routine.record
  split <;> rfl

/-- Only an instruction can open the frame. -/
theorem prologuePush_record (routine : Routine) (line : Line) :
    (routine.record line).prologuePush = routine.prologuePush ∨
      (routine.record line).prologuePush = some line ∧ line.statement.isCode = true := by
  unfold Routine.record
  split
  · next statement =>
    rcases (keeps_recordInstruction routine line _ _).push with old | new
    · exact .inl old
    · exact .inr ⟨new, by rw [statement]; rfl⟩
  · exact .inl rfl

/-- The routine starts with a line that says something, has come to no line before it, and its prologue is a line
that says something. -/
structure AnchoredIn (lines : List Line) (routine : Routine) : Prop where
  first : routine.first ∈ lines
  code : routine.first.statement.isCode = true
  last : routine.last ∈ lines
  ordered : routine.first.index ≤ routine.last.index
  push : ∀ line, routine.prologuePush = some line → line ∈ lines ∧ line.statement.isCode = true

theorem AnchoredIn.record (anchored : routine.AnchoredIn lines) (member : line ∈ lines)
    (ordered : routine.first.index ≤ line.index) : (routine.record line).AnchoredIn lines where
  first := by
    rw [first_record]
    exact anchored.first
  code := by
    rw [first_record]
    exact anchored.code
  last := by
    rw [last_record]
    exact member
  ordered := by
    rw [first_record, last_record]
    exact ordered
  push := by
    intro push pushed
    rcases prologuePush_record routine line with old | ⟨new, code⟩
    · exact anchored.push push (old.symm.trans pushed)
    · obtain rfl : line = push := Option.some.inj (new.symm.trans pushed)
      exact ⟨member, code⟩

theorem AnchoredIn.foldl_record {body : List Line} (anchored : routine.AnchoredIn lines)
    (after : ∀ line ∈ body, line ∈ lines ∧ routine.first.index ≤ line.index) :
    (body.foldl Routine.record routine).AnchoredIn lines := by
  induction body generalizing routine with
  | nil => exact anchored
  | cons line rest ih =>
    obtain ⟨member, ordered⟩ := after line List.mem_cons_self
    refine ih (anchored.record member ordered) ?_
    intro other listed
    rw [first_record]
    exact after other (List.mem_cons_of_mem _ listed)

theorem anchoredIn_ofStretch {s : Stretch} (cut : s.CutFrom lines) : (ofStretch s).AnchoredIn lines := by
  have fresh : AnchoredIn lines { name := s.head.label?.getD [], first := s.head, last := s.head } :=
    ⟨cut.head, cut.code, cut.head, Nat.le_refl _, by simp⟩
  refine (fresh.record cut.head (Nat.le_refl _)).foldl_record ?_
  rw [first_record]
  exact cut.body

theorem AnchoredIn.of_mem_reports (anchored : routine.AnchoredIn lines) (member : r ∈ routine.reports) :
    Anchored lines r.range := by
  obtain ⟨-, range | ⟨push, pushed, range⟩ | range⟩ := mem_reports member
  · rw [range]
    exact .of_line anchored.first anchored.code
  · obtain ⟨here, code⟩ := anchored.push push pushed
    rw [range]
    exact .of_line here code
  · rw [range]
    exact ⟨_, anchored.first, _, anchored.last, anchored.code, anchored.ordered, rfl⟩

end Routine

/-! ## Call sites -/

theorem anchored_of_mem_callSiteReports (sorted : lines.Pairwise (·.index < ·.index))
    (member : r ∈ callSiteReports lines) : Anchored lines r.range := by
  induction lines with
  | nil => simp [callSiteReports] at member
  | cons line rest ih =>
    obtain ⟨before, later⟩ := List.pairwise_cons.1 sorted
    rcases List.mem_append.1 member with here | found
    · obtain ⟨-, ⟨mnemonics, named⟩, alone | ⟨next, after, both⟩⟩ := mem_siteReports here
      · rw [alone]
        exact .of_line List.mem_cons_self (isCode_of_isInstruction named)
      · exact ⟨line, List.mem_cons_self, next, .tail _ after, isCode_of_isInstruction named,
          Nat.le_of_lt (before next after), both⟩
    · exact (ih later found).mono (List.subset_cons_self _ _)

theorem anchored_of_mem_checkConventions {known : List Text} (sorted : lines.Pairwise (·.index < ·.index))
    (member : r ∈ checkConventions known lines) : Anchored lines r.range := by
  rcases List.mem_append.1 member with inside | site
  · obtain ⟨routine, listed, found⟩ := List.mem_flatMap.1 inside
    obtain ⟨s, cut, rfl⟩ := List.mem_map.1 listed
    exact (Routine.anchoredIn_ofStretch (cutFrom_of_mem_stretches sorted cut)).of_mem_reports found
  · exact anchored_of_mem_callSiteReports sorted site

/-! ## The whole analysis -/

theorem anchored_of_mem_reports {set : InstructionSet} {texts : List Text} {a : Analysis}
    (analyzed : ofLines set texts = .ok a) (member : r ∈ a.reports) : Anchored (Source.number texts) r.range := by
  obtain ⟨reports, checked, result⟩ := bind_eq_ok.1 analyzed
  cases result
  simp only [Analysis.reports, List.mem_append] at member
  rcases member with ((label | instruction) | flow) | convention
  · exact anchored_of_mem_symbols label
  · exact anchored_of_mem_checkInstructions checked instruction
  · exact anchored_of_mem_checkFlowFrom flow
  · exact anchored_of_mem_checkConventions (Source.numberFrom_sorted _ _ _) convention

/-- Unless a numeral is too long, the analysis comes to its end, and all that it points at is in the text. -/
theorem diagnostic_ranges_fit_text (set : InstructionSet) (t : Text) (readable : analyze set t ≠ .error ⟨⟩) :
    ∃ diagnostics, analyze set t = .ok diagnostics ∧ ∀ d ∈ diagnostics, d.range.FitsIn (Text.lines t) := by
  cases result : analyze set t with
  | error limit => exact absurd result readable
  | ok diagnostics =>
    refine ⟨diagnostics, rfl, ?_⟩
    obtain ⟨a, analyzed, rfl⟩ := analyze_eq_ok.1 result
    intro d member
    obtain ⟨r, reported, rfl⟩ := List.mem_map.1 member
    exact (anchored_of_mem_reports analyzed reported).fitsIn

/-- A routine that goes on to a blank line at the end, and a call that goes on over a blank line. -/
theorem diagnostic_ranges_fit_blank_lines :
    ∃ diagnostics, analyze InstructionSet.bundled "  CALL f\n\n ADD ESP, 4\nf: PUSH EBX\n\n" = .ok diagnostics ∧
      diagnostics.map (·.range) = [⟨3, 0, 4, 0⟩, ⟨0, 2, 2, 11⟩] ∧
      ∀ d ∈ diagnostics, d.range.FitsIn ["  CALL f", "", " ADD ESP, 4", "f: PUSH EBX", ""] := by
  have readable : analyze InstructionSet.bundled "  CALL f\n\n ADD ESP, 4\nf: PUSH EBX\n\n" ≠ .error ⟨⟩ := by
    decide +kernel
  have lines : Text.lines "  CALL f\n\n ADD ESP, 4\nf: PUSH EBX\n\n" =
      ["  CALL f", "", " ADD ESP, 4", "f: PUSH EBX", ""] := by decide +kernel
  have ranges : (analyze InstructionSet.bundled "  CALL f\n\n ADD ESP, 4\nf: PUSH EBX\n\n").map
      (List.map (·.range)) = .ok [⟨3, 0, 4, 0⟩, ⟨0, 2, 2, 11⟩] := by decide +kernel
  obtain ⟨diagnostics, analyzed, fit⟩ := diagnostic_ranges_fit_text _ _ readable
  rw [analyzed] at ranges
  rw [lines] at fit
  exact ⟨diagnostics, analyzed, Except.ok.inj ranges, fit⟩

end AsmCheck.Analysis
