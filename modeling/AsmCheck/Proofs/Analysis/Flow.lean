import AsmCheck.Proofs.Analysis.Ranges

/-! The check of control flow, line by line. What it says of a line is said at that line only, and hangs on the state
that the lines before it lead to. -/

set_option autoImplicit false

namespace AsmCheck

/-- Something that is kept from step to step until something new is put in its place or it is dropped. What is there
has been put there by the last step that did either. -/
theorem kept_iff {α : Type} (kept : Nat → Option α) {new : Nat → Option α} {drops : Nat → Bool} (start : kept 0 = none)
    (next : ∀ i, kept (i + 1) = (new i).or (if drops i then none else kept i)) {i : Nat} {a : α} :
    kept i = some a ↔ ∃ j < i, new j = some a ∧ ∀ k < i, j < k → new k = none ∧ drops k = false := by
  -- Either the last step has put it there, or that step has kept what was there before.
  induction i with
  | zero => simp [start]
  | succ i ih =>
    rw [next]
    constructor
    · intro found
      rcases Option.or_eq_some_iff.1 found with put | ⟨nothing, left⟩
      · exact ⟨i, Nat.lt_succ_self i, put, fun k within behind => by omega⟩
      · cases dropped : drops i with
        | true => simp [dropped] at left
        | false =>
          rw [dropped, if_neg (by simp), ih] at left
          obtain ⟨j, within, put, quiet⟩ := left
          refine ⟨j, Nat.lt_succ_of_lt within, put, ?_⟩
          intro k bound behind
          rcases Nat.lt_succ_iff_lt_or_eq.1 bound with less | rfl
          · exact quiet k less behind
          · exact ⟨nothing, dropped⟩
    · rintro ⟨j, within, put, quiet⟩
      rcases Nat.lt_succ_iff_lt_or_eq.1 within with less | rfl
      · obtain ⟨nothing, left⟩ := quiet i (Nat.lt_succ_self i) less
        rw [nothing, left, Option.none_or, if_neg (by simp), ih]
        exact ⟨j, less, put, fun k bound => quiet k (Nat.lt_succ_of_lt bound)⟩
      · rw [put, Option.some_or]

end AsmCheck

namespace AsmCheck.Analysis

open Source (Line Section Statement)

/-! ## What stands at a position -/

/-- The section in which the line at a position stands. -/
def sectionOf (texts : List Text) (i : Nat) : Section :=
  ((texts.take i).map Source.classify).foldl sectionAfter .code

/-- The mnemonic of a statement that is an instruction of the code section. -/
def codeIn? (active : Section) : Statement → Option Text
  | .instruction _ mnemonic _ => if active = .code then some mnemonic else none
  | _ => none

/-- The mnemonic of the instruction at a position, if it stands in the code section. -/
def codeAt? (texts : List Text) (i : Nat) : Option Text :=
  texts[i]?.bind fun t => codeIn? (sectionOf texts i) (Source.classify t)

def labelAt? (texts : List Text) (i : Nat) : Option Text :=
  texts[i]?.bind fun t => (Source.classify t).label?

/-- Warnings on the line at a position are muted, by itself or by the line before it. -/
def mutedAt (texts : List Text) (i : Nat) : Bool :=
  texts[i]?.any Source.ignoresItself || (if i = 0 then none else texts[i - 1]?).any Source.ignoresNext

variable {labels : List Text} {texts : List Text} {line : Line} {i : Nat}

/-- The line at a position and the text that it is made of. -/
theorem exists_text_of_line (here : (Source.number texts)[i]? = some line) :
    ∃ t, texts[i]? = some t ∧ line.index = i ∧ line.statement = Source.classify t := by
  rw [Source.getElem?_number] at here
  obtain ⟨t, found, rfl⟩ := Option.map_eq_some_iff.1 here
  exact ⟨t, found, rfl, rfl⟩

theorem no_text_of_no_line (nothing : (Source.number texts)[i]? = none) : texts[i]? = none := by
  rwa [Source.getElem?_number, Option.map_eq_none_iff] at nothing

theorem number_split (here : (Source.number texts)[i]? = some line) :
    Source.number texts = (Source.number texts).take i ++ line :: (Source.number texts).drop (i + 1) := by
  obtain ⟨bound, own⟩ := List.getElem?_eq_some_iff.1 here
  rw [← own, ← List.drop_eq_getElem_cons bound, List.take_append_drop]

theorem codeAt?_of_line (here : (Source.number texts)[i]? = some line) :
    codeAt? texts i = codeIn? (sectionOf texts i) line.statement := by
  obtain ⟨t, found, -, statement⟩ := exists_text_of_line here
  rw [codeAt?, found, statement, Option.bind_some]

theorem labelAt?_of_line (here : (Source.number texts)[i]? = some line) : labelAt? texts i = line.label? := by
  obtain ⟨t, found, -, statement⟩ := exists_text_of_line here
  rw [labelAt?, found, Line.label?, statement, Option.bind_some]

theorem mutedAt_of_line (here : (Source.number texts)[i]? = some line) : mutedAt texts i = line.muted := by
  rw [Source.getElem?_number] at here
  obtain ⟨t, found, rfl⟩ := Option.map_eq_some_iff.1 here
  rw [mutedAt, found, Option.any_some]

theorem exists_line_of_code {mnemonic : Text} (code : codeAt? texts i = some mnemonic) :
    ∃ line, (Source.number texts)[i]? = some line := by
  obtain ⟨t, found, -⟩ := Option.bind_eq_some_iff.1 code
  rw [Source.getElem?_number, found]
  exact ⟨_, rfl⟩

/-! ## Lines that stand in front -/

section
variable {first : List Text} (within : i < first.length) (second : List Text)
include within

theorem labelAt?_append : labelAt? (first ++ second) i = labelAt? first i := by
  rw [labelAt?, labelAt?, List.getElem?_append_left within]

theorem codeAt?_append : codeAt? (first ++ second) i = codeAt? first i := by
  rw [codeAt?, codeAt?, sectionOf, sectionOf, List.getElem?_append_left within,
    List.take_append_of_le_length (Nat.le_of_lt within)]

theorem getElem?_number_append : (Source.number (first ++ second))[i]? = (Source.number first)[i]? := by
  have previous : (first ++ second)[i - 1]? = first[i - 1]? := List.getElem?_append_left (by omega)
  rw [Source.getElem?_number, Source.getElem?_number, List.getElem?_append_left within, previous]

theorem take_number_append : (Source.number (first ++ second)).take i = (Source.number first).take i := by
  apply List.ext_getElem?
  intro k
  rw [List.getElem?_take, List.getElem?_take]
  split
  · next before => exact getElem?_number_append (Nat.lt_trans before within) second
  · rfl

end

/-! ## One line -/

theorem codeIn?_eq_none {active : Section} {statement : Statement}
    (other : ∀ label mnemonic rest, statement = .instruction label mnemonic rest → active = .code → False) :
    codeIn? active statement = none := by
  cases statement with
  | instruction label mnemonic rest => exact if_neg (other label mnemonic rest rfl)
  | _ => rfl

section
variable (labels : List Text) (s : FlowState) (line : Line)

theorem flowStep_active : (flowStep labels s line).1.active = sectionAfter s.active line.statement := by
  unfold flowStep
  simp only
  split <;> rfl

/-- The labels decide what is said of a line, not where the check goes on. -/
theorem flowStep_state (other : List Text) : (flowStep labels s line).1 = (flowStep other s line).1 := by
  unfold flowStep
  simp only
  split <;> rfl

theorem flowStep_before : (flowStep labels s line).1.before = line :: s.before := by
  unfold flowStep
  simp only
  split <;> rfl

/-- A terminator of the code section ends the flow, even if it has a label. Any other label lets it go on. -/
theorem flowStep_ended :
    (flowStep labels s line).1.ended =
      (((codeIn? s.active line.statement).filter (· ∈ terminators)).map (line.index, ·)).or
        (if line.label?.isSome then none else s.ended) := by
  unfold flowStep
  simp only
  split
  · next label mnemonic rest statement active =>
    by_cases ends : mnemonic ∈ terminators <;> simp [statement, active, codeIn?, Option.filter, ends]
  · next other => simp [codeIn?_eq_none other]

/-- Only instructions of the code section are spoken of. -/
theorem flowStep_issues :
    (flowStep labels s line).2 =
      if (codeIn? s.active line.statement).isSome then
        unreachableIssue (if line.label?.isSome then none else s.ended) line ++ returnIssue labels s.before line
      else [] := by
  unfold flowStep
  simp only
  split
  · next label mnemonic rest statement active => simp [statement, active, codeIn?]
  · next other => simp [codeIn?_eq_none other]

end

theorem mem_unreachableIssue {ended : Option (Nat × Text)} {issue : Issue}
    (member : issue ∈ unreachableIssue ended line) :
    line.muted = false ∧ ∃ j mnemonic, issue = .unreachable mnemonic (j + 1) := by
  unfold unreachableIssue at member
  split at member
  · split at member
    · simp at member
    · next j mnemonic heard => exact ⟨by simpa using heard, j, mnemonic, List.mem_singleton.1 member⟩
  · simp at member

theorem eq_of_mem_returnIssue {before : List Line} {issue : Issue} (member : issue ∈ returnIssue labels before line) :
    issue = .returnOutside := by
  unfold returnIssue at member
  split at member
  · exact List.mem_singleton.1 member
  · simp at member

/-! ## Line after line -/

def flowFrom (labels : List Text) (s : FlowState) (lines : List Line) : FlowState :=
  lines.foldl (fun current line => (flowStep labels current line).1) s

/-- Where the check stands when it comes to a position. -/
def flowAt (labels : List Text) (texts : List Text) (i : Nat) : FlowState :=
  flowFrom labels {} ((Source.number texts).take i)

theorem flowFrom_active (s : FlowState) (lines : List Line) :
    (flowFrom labels s lines).active = sectionAt s.active lines := by
  induction lines generalizing s with
  | nil => rfl
  | cons line rest ih => exact (ih _).trans (by rw [flowStep_active]; rfl)

theorem flowFrom_before (s : FlowState) (lines : List Line) :
    (flowFrom labels s lines).before = lines.reverse ++ s.before := by
  induction lines generalizing s with
  | nil => rfl
  | cons line rest ih =>
    refine (ih _).trans ?_
    rw [flowStep_before, List.reverse_cons, List.append_assoc]
    rfl

theorem flowAt_active (labels texts : List Text) (i : Nat) : (flowAt labels texts i).active = sectionOf texts i := by
  rw [flowAt, flowFrom_active, sectionAt, ← List.foldl_map, List.map_take, Source.number,
    Source.map_statement_numberFrom, ← List.map_take]
  rfl

theorem flowAt_before (labels texts : List Text) (i : Nat) :
    (flowAt labels texts i).before = ((Source.number texts).take i).reverse := by
  rw [flowAt, flowFrom_before]
  exact List.append_nil _

theorem flowAt_succ (here : (Source.number texts)[i]? = some line) :
    flowAt labels texts (i + 1) = (flowStep labels (flowAt labels texts i) line).1 := by
  rw [flowAt, List.take_add_one, here, flowFrom, List.foldl_append]
  rfl

/-- Behind the last line nothing changes. -/
theorem flowAt_succ_of_none (nothing : (Source.number texts)[i]? = none) :
    flowAt labels texts (i + 1) = flowAt labels texts i := by
  rw [flowAt, List.take_add_one, nothing, Option.toList_none, List.append_nil]
  rfl

/-! ## What is said of a line -/

theorem checkFlowFrom_append (s : FlowState) (first second : List Line) :
    checkFlowFrom labels s (first ++ second) =
      checkFlowFrom labels s first ++ checkFlowFrom labels (flowFrom labels s first) second := by
  induction first generalizing s with
  | nil => rfl
  | cons line rest ih => simp [checkFlowFrom, flowFrom, ih]

/-- No report stands on a line that is not checked. -/
theorem reports_elsewhere {lines : List Line} {n : Nat} (elsewhere : ∀ line ∈ lines, line.index ≠ n) (s : FlowState) :
    ((checkFlowFrom labels s lines).filter fun r : Report => r.range.startLine = n) = [] := by
  rw [List.filter_eq_nil_iff]
  intro r member
  obtain ⟨first, listed, last, -, -, -, range⟩ := anchored_of_mem_checkFlowFrom member
  have start : r.range.startLine = first.index := by
    rw [range]
    rfl
  have other := elsewhere first listed
  simp only [decide_eq_true_eq]
  omega

/-- Of all reports those on a line are the issues that its own step finds. -/
theorem reports_on_line (labels : List Text) (s : FlowState) {before after : List Line}
    (sorted : (before ++ line :: after).Pairwise (·.index < ·.index)) :
    ((checkFlowFrom labels s (before ++ line :: after)).filter fun r : Report => r.range.startLine = line.index) =
      (flowStep labels (flowFrom labels s before) line).2.map (⟨line.range, ·⟩) := by
  obtain ⟨-, onward, across⟩ := List.pairwise_append.1 sorted
  -- The numbers grow, so no line before or behind this one has its number.
  have earlier : ∀ other ∈ before, other.index ≠ line.index := fun other listed =>
    Nat.ne_of_lt (across other listed line List.mem_cons_self)
  have later : ∀ other ∈ after, other.index ≠ line.index := fun other listed =>
    Nat.ne_of_gt (List.rel_of_pairwise_cons onward listed)
  rw [checkFlowFrom_append, List.filter_append, reports_elsewhere earlier, checkFlowFrom, List.filter_append,
    reports_elsewhere later, List.nil_append, List.append_nil, List.filter_eq_self]
  intro r member
  obtain ⟨issue, -, rfl⟩ := List.mem_map.1 member
  simp [Line.range, Line.rangeTo]

def flowDiagnostics (texts : List Text) : List Diagnostic :=
  (checkFlow (Source.number texts)).map Report.diagnostic

/-- What is said of the line at a position in words that open as given. -/
def flowWarnings (opening : Text) (texts : List Text) (i : Nat) : List Diagnostic :=
  (flowDiagnostics texts).filter fun d => d.range.startLine = i && opening.isPrefixOf d.message

theorem exists_line_of_mem_flowDiagnostics {opening : Text} {d : Diagnostic} (member : d ∈ flowDiagnostics texts)
    (opens : opening.isPrefixOf d.message = true) :
    ∃ i line, (Source.number texts)[i]? = some line ∧ d ∈ flowWarnings opening texts i := by
  obtain ⟨r, reported, rfl⟩ := List.mem_map.1 member
  obtain ⟨line, listed, last, -, -, -, range⟩ := anchored_of_mem_checkFlowFrom reported
  obtain ⟨i, here⟩ := List.mem_iff_getElem?.1 listed
  obtain ⟨-, -, index, -⟩ := exists_text_of_line here
  have start : r.diagnostic.range.startLine = i := by
    rw [Report.diagnostic, range, ← index]
    rfl
  refine ⟨i, line, here, List.mem_filter.2 ⟨member, ?_⟩⟩
  rw [opens, Bool.and_true, decide_eq_true_eq]
  exact start

theorem exists_line_of_mem_flowWarnings {opening : Text} {d : Diagnostic} (member : d ∈ flowWarnings opening texts i) :
    ∃ line, (Source.number texts)[i]? = some line := by
  obtain ⟨listed, told⟩ := List.mem_filter.1 member
  obtain ⟨start, opens⟩ := (Bool.and_eq_true _ _).mp told
  obtain ⟨k, line, here, again⟩ := exists_line_of_mem_flowDiagnostics listed opens
  obtain ⟨other, -⟩ := (Bool.and_eq_true _ _).mp (List.mem_filter.1 again).2
  have same : k = i := by
    rw [decide_eq_true_eq] at start other
    omega
  exact ⟨line, same ▸ here⟩

theorem flowWarnings_of_line (opening : Text) (here : (Source.number texts)[i]? = some line) :
    flowWarnings opening texts i =
      ((flowStep (returningLabels (Source.number texts)) (flowAt (returningLabels (Source.number texts)) texts i)
        line).2.filter fun issue => opening.isPrefixOf issue.message).map fun issue =>
          (⟨line.range, issue⟩ : Report).diagnostic := by
  obtain ⟨-, -, index, -⟩ := exists_text_of_line here
  have split := number_split here
  have sorted : (Source.number texts).Pairwise (·.index < ·.index) := Source.numberFrom_sorted none 0 texts
  rw [split] at sorted
  have reports := reports_on_line (returningLabels (Source.number texts)) {} sorted
  rw [← split, index] at reports
  rw [flowWarnings, flowDiagnostics, filter_diagnostics, checkFlow, reports, List.filter_map, List.map_map]
  rfl

end AsmCheck.Analysis
