import AsmCheck.Proofs.Analysis.Flow

/-! Code that nothing can reach. An instruction is called unreachable exactly if the last terminator of the code section
before it has no label behind it, and the warning names that terminator. -/

set_option autoImplicit false

namespace AsmCheck.Analysis

open Source (Line)

/-- The terminator at a position, if it stands in the code section. -/
def terminatorAt? (texts : List Text) (i : Nat) : Option Text := (codeAt? texts i).filter (· ∈ terminators)

/-- The last terminator before a position. Neither the position nor a line on the way to it has a label. -/
structure EndedBefore (texts : List Text) (i j : Nat) (mnemonic : Text) : Prop where
  earlier : j < i
  ends : terminatorAt? texts j = some mnemonic
  last : ∀ k < i, j < k → terminatorAt? texts k = none
  unlabelled : ∀ k ≤ i, j < k → labelAt? texts k = none

/-- An instruction of the code section whose warnings are not muted. -/
structure Watched (texts : List Text) (i : Nat) : Prop where
  code : (codeAt? texts i).isSome = true
  heard : mutedAt texts i = false

/-- The warnings that call the line at a position unreachable. -/
def unreachableWarnings (texts : List Text) (i : Nat) : List Diagnostic := flowWarnings "Unreachable code" texts i

variable {labels texts : List Text} {line : Line} {i j : Nat} {mnemonic : Text}

/-! ## The terminator that the check keeps -/

theorem flowAt_succ_ended (labels texts : List Text) (i : Nat) :
    (flowAt labels texts (i + 1)).ended =
      ((terminatorAt? texts i).map (i, ·)).or
        (if (labelAt? texts i).isSome then none else (flowAt labels texts i).ended) := by
  cases here : (Source.number texts)[i]? with
  | none =>
    have nothing := no_text_of_no_line here
    rw [flowAt_succ_of_none here]
    simp [terminatorAt?, codeAt?, labelAt?, nothing]
  | some line =>
    obtain ⟨-, -, index, -⟩ := exists_text_of_line here
    rw [flowAt_succ here, flowStep_ended, flowAt_active, terminatorAt?, codeAt?_of_line here, labelAt?_of_line here,
      index]

/-- What is kept at a position is the last terminator before it, unless a label stands behind that. -/
theorem flowAt_ended_iff :
    (flowAt labels texts i).ended = some (j, mnemonic) ↔
      j < i ∧ terminatorAt? texts j = some mnemonic ∧
        ∀ k < i, j < k → terminatorAt? texts k = none ∧ labelAt? texts k = none := by
  rw [kept_iff (fun i => (flowAt labels texts i).ended) rfl (flowAt_succ_ended labels texts)]
  simp only [Option.map_eq_some_iff, Option.map_eq_none_iff, Option.isSome_eq_false_iff, Option.isNone_iff_eq_none]
  constructor
  · rintro ⟨_, within, ⟨_, ends, ⟨⟩⟩, quiet⟩
    exact ⟨within, ends, quiet⟩
  · rintro ⟨within, ends, quiet⟩
    exact ⟨j, within, ⟨mnemonic, ends, rfl⟩, quiet⟩

/-- A label at the position itself lets the flow go on there. -/
theorem endedBefore_iff (labels : List Text) :
    EndedBefore texts i j mnemonic ↔
      (if (labelAt? texts i).isSome then none else (flowAt labels texts i).ended) = some (j, mnemonic) := by
  cases labelled : labelAt? texts i with
  | some name =>
    simp only [Option.isSome_some, if_true, reduceCtorEq, iff_false]
    -- With a label of its own the position follows no terminator.
    intro ended
    simp [ended.unlabelled i (Nat.le_refl i) ended.earlier] at labelled
  | none =>
    simp only [Option.isSome_none, Bool.false_eq_true, if_false, flowAt_ended_iff]
    constructor
    · intro ended
      exact ⟨ended.earlier, ended.ends, fun k bound behind =>
        ⟨ended.last k bound behind, ended.unlabelled k (Nat.le_of_lt bound) behind⟩⟩
    · rintro ⟨earlier, ends, quiet⟩
      refine ⟨earlier, ends, fun k bound behind => (quiet k bound behind).1, ?_⟩
      intro k bound behind
      rcases Nat.lt_or_eq_of_le bound with less | rfl
      · exact (quiet k less behind).2
      · exact labelled

theorem EndedBefore.unique {other : Nat} {name : Text} (ended : EndedBefore texts i j mnemonic)
    (again : EndedBefore texts i other name) : j = other := by
  have first := (endedBefore_iff []).1 ended
  rw [(endedBefore_iff []).1 again] at first
  cases first
  rfl

/-! ## The warning -/

/-- The words of the two issues tell them apart. -/
theorem filter_unreachable (ended : Option (Nat × Text)) (before : List Line) (line : Line) :
    ((unreachableIssue ended line ++ returnIssue labels before line).filter fun issue =>
      (Text.ofString "Unreachable code").isPrefixOf issue.message) = unreachableIssue ended line := by
  have kept : ∀ issue ∈ unreachableIssue ended line,
      (Text.ofString "Unreachable code").isPrefixOf issue.message = true := by
    intro issue member
    obtain ⟨-, j, mnemonic, rfl⟩ := mem_unreachableIssue member
    -- The name of the terminator stands behind the words that are looked for.
    rw [List.isPrefixOf_iff_prefix, Issue.message, List.append_assoc, List.append_assoc]
    exact List.IsPrefix.trans (by decide) (List.prefix_append _ _)
  have dropped : ∀ issue ∈ returnIssue labels before line,
      ¬(Text.ofString "Unreachable code").isPrefixOf issue.message = true := by
    intro issue member
    cases eq_of_mem_returnIssue member
    decide
  rw [List.filter_append, List.filter_eq_self.2 kept, List.filter_eq_nil_iff.2 dropped, List.append_nil]

theorem unreachableWarnings_of_line (here : (Source.number texts)[i]? = some line) :
    unreachableWarnings texts i =
      if (codeAt? texts i).isSome then
        (unreachableIssue (if (labelAt? texts i).isSome then none else (flowAt (returningLabels (Source.number texts))
          texts i).ended) line).map fun issue => (⟨line.range, issue⟩ : Report).diagnostic
      else [] := by
  rw [unreachableWarnings, flowWarnings_of_line _ here, flowStep_issues, flowAt_active, ← codeAt?_of_line here,
    ← labelAt?_of_line here]
  split
  · rw [filter_unreachable]
  · rfl

theorem unreachableWarnings_of_ended (here : (Source.number texts)[i]? = some line) (watched : Watched texts i)
    (ended : EndedBefore texts i j mnemonic) :
    unreachableWarnings texts i =
      [⟨.warning, line.range,
        "Unreachable code: instruction follows " ++ mnemonic ++ " on line " ++ Text.ofNat (j + 1), "asm-flow"⟩] := by
  rw [unreachableWarnings_of_line here, if_pos watched.code, (endedBefore_iff _).1 ended]
  simp only [unreachableIssue, ← mutedAt_of_line here, watched.heard]
  rfl

theorem unreachableWarnings_of_not_ended (here : (Source.number texts)[i]? = some line)
    (reached : ∀ j mnemonic, ¬EndedBefore texts i j mnemonic) : unreachableWarnings texts i = [] := by
  rw [unreachableWarnings_of_line here]
  split
  · have none : (if (labelAt? texts i).isSome then none else
        (flowAt (returningLabels (Source.number texts)) texts i).ended) = none := by
      rw [Option.eq_none_iff_forall_ne_some]
      rintro ⟨j, mnemonic⟩ kept
      exact reached j mnemonic ((endedBefore_iff _).2 kept)
    rw [none]
    rfl
  · rfl

theorem watched_of_mem_unreachableWarnings {d : Diagnostic} (here : (Source.number texts)[i]? = some line)
    (member : d ∈ unreachableWarnings texts i) : Watched texts i ∧ d.range = line.range := by
  rw [unreachableWarnings_of_line here] at member
  split at member
  · next code =>
    obtain ⟨issue, found, rfl⟩ := List.mem_map.1 member
    exact ⟨⟨code, (mutedAt_of_line here).trans (mem_unreachableIssue found).1⟩, rfl⟩
  · simp at member

/-- An instruction of the code section gets one warning if the last terminator before it has no label behind it, and
none otherwise. The warning names the terminator and the number of its line, and no other line gets one. -/
theorem unreachable_behind_last_terminator (texts : List Text) :
    (∀ i line, (Source.number texts)[i]? = some line → Watched texts i →
      (∀ j mnemonic, EndedBefore texts i j mnemonic →
        unreachableWarnings texts i = [⟨.warning, line.range,
          "Unreachable code: instruction follows " ++ mnemonic ++ " on line " ++ Text.ofNat (j + 1), "asm-flow"⟩]) ∧
      ((∀ j mnemonic, ¬EndedBefore texts i j mnemonic) → unreachableWarnings texts i = [])) ∧
    ∀ d ∈ flowDiagnostics texts, (Text.ofString "Unreachable code").isPrefixOf d.message = true →
      ∃ i line, (Source.number texts)[i]? = some line ∧ Watched texts i ∧ d.range = line.range := by
  constructor
  · intro i line here watched
    exact ⟨fun j mnemonic ended => unreachableWarnings_of_ended here watched ended,
      unreachableWarnings_of_not_ended here⟩
  · intro d member opens
    obtain ⟨i, line, here, warned⟩ := exists_line_of_mem_flowDiagnostics member opens
    exact ⟨i, line, here, watched_of_mem_unreachableWarnings here warned⟩

/-- A terminator of the data section ends nothing, and what it follows in the code section is still named. -/
theorem unreachable_past_data_section :
    unreachableWarnings ["x:", "JMP x", ".data", "HLT", ".text", "", "RET", "NOP ; asm-ignore", "NOP"] 6 =
      [⟨.warning, ⟨6, 0, 6, 3⟩, "Unreachable code: instruction follows JMP on line 2", "asm-flow"⟩] := by
  refine ((unreachable_behind_last_terminator _).1 6 ⟨6, "RET", Source.classify "RET", false⟩ rfl ⟨?_, ?_⟩).1 1 "JMP"
    ⟨by decide, ?_, ?_, ?_⟩
  all_goals decide +kernel

end AsmCheck.Analysis
