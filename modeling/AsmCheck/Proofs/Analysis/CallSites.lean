import AsmCheck.Proofs.Analysis.Flow
import Mathlib.Data.Nat.Find

/-! Pushes that are taken for parameters. A push is one if a call follows within nine lines and no line between them
has a label or transfers control. A label on the line of the call itself does not stop the search. -/

set_option autoImplicit false

namespace AsmCheck.Analysis

open Source (Line)

/-- An instruction with one of the mnemonics stands at a position, in whatever section. -/
def instructionAt (mnemonics texts : List Text) (i : Nat) : Bool :=
  texts[i]?.any fun t => (Source.classify t).isInstruction mnemonics

/-- A call at most nine lines behind a position, with no label and no transfer of control between the two. -/
structure CallAhead (texts : List Text) (i j : Nat) : Prop where
  behind : i < j
  near : j ≤ i + 9
  calls : instructionAt ["CALL"] texts j = true
  unlabelled : ∀ k < j, i < k → labelAt? texts k = none
  straight : ∀ k < j, i < k → instructionAt transfers texts k = false

/-- The hints that take the push at a position for a parameter. -/
def parameterHints (texts : List Text) (i : Nat) : List Diagnostic :=
  ((callSiteReports (Source.number texts)).map Report.diagnostic).filter fun d =>
    d.range.startLine = i && (Text.ofString "Pushing parameter").isPrefixOf d.message

variable {texts : List Text} {lines after : List Line} {line : Line} {i j : Nat} {operand : Text}

theorem instructionAt_of_line (mnemonics : List Text) (here : (Source.number texts)[i]? = some line) :
    instructionAt mnemonics texts i = line.statement.isInstruction mnemonics := by
  obtain ⟨t, found, -, statement⟩ := exists_text_of_line here
  rw [instructionAt, found, statement, Option.any_some]

theorem exists_line_of_instructionAt {mnemonics : List Text} (named : instructionAt mnemonics texts i = true) :
    ∃ line, (Source.number texts)[i]? = some line ∧ line.statement.isInstruction mnemonics = true := by
  obtain ⟨t, found, own⟩ := (Option.any_eq_true _ _).1 named
  rw [Source.getElem?_number, found]
  exact ⟨_, rfl, own⟩

/-! ## The search -/

/-- A line with a label or a transfer of control, behind which no call is looked for. -/
def endsSearch (line : Line) : Bool := line.label?.isSome || line.statement.isInstruction transfers

/-- Blank lines and comments are no calls and end nothing, so they need not be told apart. -/
theorem callsSoon_cons (line : Line) (rest : List Line) :
    callsSoon (line :: rest) =
      (line.statement.isInstruction ["CALL"] || (!endsSearch line && callsSoon rest)) := by
  rw [callsSoon, endsSearch, Line.label?]
  cases line.statement with
  | blank => rfl
  | comment => rfl
  | _ =>
    simp only [Source.Statement.isCode, Bool.not_true, Bool.false_eq_true, if_false]
    split
    · next calls => rw [calls, Bool.true_or]
    · next other =>
      rw [Bool.eq_false_iff.2 other, Bool.false_or]
      split
      · next ends => rw [ends, Bool.not_true, Bool.false_and]
      · next on => rw [Bool.eq_false_iff.2 on, Bool.not_false, Bool.true_and]

/-- The search finds a call that it comes to before anything ends it. -/
theorem callsSoon_iff : callsSoon lines = true ↔
    ∃ (m : Nat) (call : Line), lines[m]? = some call ∧ call.statement.isInstruction ["CALL"] = true ∧
      ∀ k < m, ∀ line, lines[k]? = some line → endsSearch line = false := by
  induction lines with
  | nil => simp [callsSoon]
  | cons first rest ih =>
    rw [callsSoon_cons, Bool.or_eq_true, Bool.and_eq_true, Bool.not_eq_true', ih]
    constructor
    · rintro (calls | ⟨on, m, call, found, calls, free⟩)
      · exact ⟨0, first, rfl, calls, fun k within => absurd within (Nat.not_lt_zero k)⟩
      · refine ⟨m + 1, call, found, calls, ?_⟩
        intro k within line there
        cases k with
        | zero =>
          cases there
          exact on
        | succ k => exact free k (Nat.lt_of_succ_lt_succ within) line there
    · rintro ⟨m, call, found, calls, free⟩
      cases m with
      | zero =>
        cases found
        exact .inl calls
      | succ m =>
        refine .inr ⟨free 0 (Nat.succ_pos m) first rfl, m, call, found, calls, ?_⟩
        intro k within line there
        exact free (k + 1) (Nat.succ_lt_succ within) line there

theorem endsSearch_of_line (here : (Source.number texts)[i]? = some line) :
    endsSearch line = false ↔ labelAt? texts i = none ∧ instructionAt transfers texts i = false := by
  rw [labelAt?_of_line here, instructionAt_of_line transfers here, endsSearch, Bool.or_eq_false_iff,
    Option.isSome_eq_false_iff, Option.isNone_iff_eq_none]

/-- Of the lines behind a position the search is given the next nine. -/
theorem callsSoon_behind_iff (texts : List Text) (i : Nat) :
    callsSoon (((Source.number texts).drop (i + 1)).take (lookahead - 1)) = true ↔ ∃ j, CallAhead texts i j := by
  have window (m : Nat) : (((Source.number texts).drop (i + 1)).take (lookahead - 1))[m]? =
      if m < 9 then (Source.number texts)[i + 1 + m]? else none := by
    rw [List.getElem?_take, List.getElem?_drop]
    rfl
  rw [callsSoon_iff]
  constructor
  · rintro ⟨m, call, found, calls, free⟩
    rw [window] at found
    obtain ⟨near, there⟩ := Option.ite_none_right_eq_some.1 found
    -- Every line between is in the window, and the search has gone past it.
    have passed (k : Nat) (before : k < i + 1 + m) (behind : i < k) :
        labelAt? texts k = none ∧ instructionAt transfers texts k = false := by
      have bound : k < (Source.number texts).length :=
        Nat.lt_trans before (List.getElem?_eq_some_iff.1 there).1
      have own : (Source.number texts)[k]? = some (Source.number texts)[k] := List.getElem?_eq_getElem bound
      rw [← endsSearch_of_line own]
      refine free (k - (i + 1)) (by omega) _ ?_
      rw [window, if_pos (by omega), Nat.add_sub_cancel' behind, own]
    exact ⟨i + 1 + m, by omega, by omega, by rw [instructionAt_of_line _ there, calls],
      fun k before behind => (passed k before behind).1, fun k before behind => (passed k before behind).2⟩
  · rintro ⟨j, ahead⟩
    have behind := ahead.behind
    have near := ahead.near
    obtain ⟨call, there, calls⟩ := exists_line_of_instructionAt ahead.calls
    refine ⟨j - (i + 1), call, ?_, calls, ?_⟩
    · rw [window, if_pos (by omega), Nat.add_sub_cancel' behind, there]
    · intro k within line found
      rw [window, if_pos (by omega)] at found
      exact (endsSearch_of_line found).2 ⟨ahead.unlabelled _ (by omega) (by omega), ahead.straight _ (by omega) (by omega)⟩

/-! ## What is said of a push -/

/-- What is said of a call or a push is said at its own line. -/
theorem startLine_of_mem_siteReports {r : Report} (member : r ∈ siteReports line after) :
    r.range.startLine = line.index := by
  obtain ⟨-, -, range | ⟨next, -, range⟩⟩ := mem_siteReports member <;> rw [range] <;> rfl

/-- Lines with other numbers add nothing to what is said at a line. -/
theorem siteReports_elsewhere {before : List Line} {n : Nat} (elsewhere : ∀ line ∈ before, line.index ≠ n) :
    ((callSiteReports (before ++ after)).filter fun r : Report => r.range.startLine = n) =
      (callSiteReports after).filter fun r : Report => r.range.startLine = n := by
  induction before with
  | nil => rfl
  | cons line rest ih =>
    have none : ((siteReports line (rest ++ after)).filter fun r : Report => r.range.startLine = n) = [] := by
      rw [List.filter_eq_nil_iff]
      intro r member
      have other := elsewhere line List.mem_cons_self
      simp only [startLine_of_mem_siteReports member, decide_eq_true_eq]
      omega
    rw [List.cons_append, callSiteReports, List.filter_append, none, List.nil_append]
    exact ih fun other member => elsewhere other (List.mem_cons_of_mem _ member)

theorem siteReports_at_line (here : (Source.number texts)[i]? = some line) :
    ((callSiteReports (Source.number texts)).filter fun r : Report => r.range.startLine = i) =
      siteReports line ((Source.number texts).drop (i + 1)) := by
  obtain ⟨-, -, index, -⟩ := exists_text_of_line here
  have sorted : (Source.number texts).Pairwise (·.index < ·.index) := Source.numberFrom_sorted none 0 texts
  rw [number_split here] at sorted
  obtain ⟨-, onward, across⟩ := List.pairwise_append.1 sorted
  -- The numbers grow, so no line before or behind this one has its number.
  have earlier : ∀ other ∈ (Source.number texts).take i, other.index ≠ i := fun other listed =>
    index ▸ Nat.ne_of_lt (across other listed line List.mem_cons_self)
  have later : ∀ other ∈ (Source.number texts).drop (i + 1), other.index ≠ i := fun other listed =>
    index ▸ Nat.ne_of_gt (List.rel_of_pairwise_cons onward listed)
  have nothing : ((callSiteReports ((Source.number texts).drop (i + 1) ++ [])).filter fun r : Report =>
      r.range.startLine = i) = [] := siteReports_elsewhere later
  have own : ((siteReports line ((Source.number texts).drop (i + 1))).filter fun r : Report => r.range.startLine = i) =
      siteReports line ((Source.number texts).drop (i + 1)) := by
    rw [List.filter_eq_self]
    intro r member
    simp [startLine_of_mem_siteReports member, index]
  rw [List.append_nil] at nothing
  conv_lhs => rw [number_split here]
  rw [siteReports_elsewhere earlier, callSiteReports, List.filter_append, own, nothing, List.append_nil]

theorem siteReports_of_push {more : List Text} (pushes : line.statement.isInstruction ["PUSH"] = true)
    (operands : line.statement.operands = operand :: more) : siteReports line after = pushReports line operand after := by
  have other : line.statement.isInstruction ["CALL"] = false := by
    cases statement : line.statement with
    | instruction label mnemonic rest =>
      rw [statement] at pushes
      obtain rfl : mnemonic = "PUSH" := by simpa [Source.Statement.isInstruction] using pushes
      rfl
    | _ => rfl
  rw [siteReports, operands]
  simp only [other, pushes, Bool.false_eq_true, if_false, if_true]

theorem parameterHints_of_line {more : List Text} (here : (Source.number texts)[i]? = some line)
    (pushes : line.statement.isInstruction ["PUSH"] = true) (operands : line.statement.operands = operand :: more) :
    parameterHints texts i =
      if callsSoon (((Source.number texts).drop (i + 1)).take (lookahead - 1)) then
        [⟨.hint, line.range, "Pushing parameter '" ++ operand ++ "' for upcoming function call (cdecl/stdcall pattern)",
          "asm-convention"⟩]
      else [] := by
  have opens : (Text.ofString "Pushing parameter").isPrefixOf (Issue.parameterPush operand).message = true := by
    rw [List.isPrefixOf_iff_prefix]
    exact ⟨_, rfl⟩
  rw [parameterHints, filter_diagnostics, siteReports_at_line here, siteReports_of_push pushes operands, pushReports]
  split
  · have kept : [(⟨line.range, .parameterPush operand⟩ : Report)].filter (fun r =>
        (Text.ofString "Pushing parameter").isPrefixOf r.issue.message) = [⟨line.range, .parameterPush operand⟩] :=
      List.filter_cons_of_pos opens
    rw [kept]
    rfl
  · rfl

/-! ## Labels on the line of the call -/

theorem CallAhead.of_between {k : Nat} (ahead : CallAhead texts i j) (behind : i < k) (before : k < j)
    (calls : instructionAt ["CALL"] texts k = true) : CallAhead texts i k where
  behind := behind
  near := Nat.le_trans (Nat.le_of_lt before) ahead.near
  calls := calls
  unlabelled h within after := ahead.unlabelled h (Nat.lt_trans within before) after
  straight h within after := ahead.straight h (Nat.lt_trans within before) after

/-- A call is ahead, but none without a label of its own, exactly if the first call ahead has a label. -/
theorem only_labelled_call_iff :
    ((∃ j, CallAhead texts i j) ∧ ¬∃ j, CallAhead texts i j ∧ labelAt? texts j = none) ↔
      ∃ j, CallAhead texts i j ∧ (labelAt? texts j).isSome = true ∧
        ∀ k < j, i < k → instructionAt ["CALL"] texts k = false := by
  constructor
  · rintro ⟨found, labelled⟩
    obtain ⟨j, ahead, least⟩ : ∃ j, CallAhead texts i j ∧ ∀ k < j, ¬CallAhead texts i k := by
      classical
      exact ⟨Nat.find found, Nat.find_spec found, fun k before => Nat.find_min found before⟩
    refine ⟨j, ahead, ?_, ?_⟩
    · rw [Option.isSome_iff_ne_none]
      exact fun none => labelled ⟨j, ahead, none⟩
    · intro k before behind
      rw [Bool.eq_false_iff]
      exact fun calls => least k before (ahead.of_between behind before calls)
  · rintro ⟨j, ahead, labelled, first⟩
    refine ⟨⟨j, ahead⟩, ?_⟩
    rintro ⟨other, also, unlabelled⟩
    -- In front of the first call there is no call, and behind it its label stops the search.
    rcases Nat.lt_trichotomy other j with less | rfl | more
    · have calls := also.calls
      simp [first other less also.behind] at calls
    · simp [unlabelled] at labelled
    · simp [also.unlabelled j more ahead.behind] at labelled

/-- A push is taken for a parameter exactly if a call is ahead. The hint is given without need, across a label, exactly
if the first call ahead has a label. -/
theorem push_hinted_iff_call_ahead {more : List Text} (here : (Source.number texts)[i]? = some line)
    (pushes : line.statement.isInstruction ["PUSH"] = true) (operands : line.statement.operands = operand :: more) :
    ((∃ j, CallAhead texts i j) → parameterHints texts i =
      [⟨.hint, line.range, "Pushing parameter '" ++ operand ++ "' for upcoming function call (cdecl/stdcall pattern)",
        "asm-convention"⟩]) ∧
    ((¬∃ j, CallAhead texts i j) → parameterHints texts i = []) ∧
    ((parameterHints texts i ≠ [] ∧ ¬∃ j, CallAhead texts i j ∧ labelAt? texts j = none) ↔
      ∃ j, CallAhead texts i j ∧ (labelAt? texts j).isSome = true ∧
        ∀ k < j, i < k → instructionAt ["CALL"] texts k = false) := by
  have hinted : (∃ j, CallAhead texts i j) → parameterHints texts i =
      [⟨.hint, line.range, "Pushing parameter '" ++ operand ++ "' for upcoming function call (cdecl/stdcall pattern)",
        "asm-convention"⟩] := by
    intro found
    rw [parameterHints_of_line here pushes operands, if_pos ((callsSoon_behind_iff texts i).2 found)]
  have unhinted : (¬∃ j, CallAhead texts i j) → parameterHints texts i = [] := by
    intro missing
    rw [parameterHints_of_line here pushes operands, if_neg fun soon => missing ((callsSoon_behind_iff texts i).1 soon)]
  refine ⟨hinted, unhinted, ?_⟩
  rw [← only_labelled_call_iff]
  apply and_congr_left'
  constructor
  · intro some
    by_contra missing
    exact some (unhinted missing)
  · intro found
    simp [hinted found]

/-- The call stands on the last line that is searched, behind a blank line, a comment, a constant and data. -/
theorem push_hinted_nine_lines_behind :
    parameterHints ["push eax, 2", "", "; x", "N EQU 1", "DB 1", "NOP", "", "", "", "CALL f"] 0 =
      [⟨.hint, ⟨0, 0, 0, 11⟩, "Pushing parameter 'eax' for upcoming function call (cdecl/stdcall pattern)",
        "asm-convention"⟩] := by
  have ahead : CallAhead ["push eax, 2", "", "; x", "N EQU 1", "DB 1", "NOP", "", "", "", "CALL f"] 0 9 :=
    ⟨by decide, by decide, by decide +kernel, by decide +kernel, by decide +kernel⟩
  have here : (Source.number ["push eax, 2", "", "; x", "N EQU 1", "DB 1", "NOP", "", "", "", "CALL f"])[0]? =
      some ⟨0, "push eax, 2", Source.classify "push eax, 2", false⟩ := rfl
  have operands : (Source.classify "push eax, 2").operands = "eax" :: ["2"] := by decide +kernel
  refine ((push_hinted_iff_call_ahead here (by decide +kernel) operands).1 ⟨9, ahead⟩).trans ?_
  decide +kernel

/-- The label stands in front of the call, on the same line, and the push is taken for a parameter all the same. -/
theorem push_hinted_across_label :
    parameterHints ["PUSH 1", "f: CALL g"] 0 =
      [⟨.hint, ⟨0, 0, 0, 6⟩, "Pushing parameter '1' for upcoming function call (cdecl/stdcall pattern)",
        "asm-convention"⟩] ∧
    ¬∃ j, CallAhead ["PUSH 1", "f: CALL g"] 0 j ∧ labelAt? ["PUSH 1", "f: CALL g"] j = none := by
  refine ⟨by decide +kernel, ?_⟩
  rintro ⟨j, ahead, unlabelled⟩
  -- Only the line behind the push is there, and it has a label.
  obtain ⟨call, there, -⟩ := exists_line_of_instructionAt ahead.calls
  have within : j < 2 := (List.getElem?_eq_some_iff.1 there).1
  have behind := ahead.behind
  obtain rfl : j = 1 := by omega
  exact absurd unlabelled (by decide +kernel)

end AsmCheck.Analysis
