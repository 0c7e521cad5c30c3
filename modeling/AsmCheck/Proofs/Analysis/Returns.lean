import AsmCheck.Proofs.Analysis.Flow

/-! Returns outside any function. A walk back from a return looks for the nearest label and asks whether a return
follows it. The return itself does, so the answer is settled by the lines before it: they have a label, and neither a
halt nor another return stands behind the last one. -/

set_option autoImplicit false

namespace AsmCheck.Analysis

open Source (Line)

/-- A halt or a return stands at a position, in whatever section. -/
def stopAt (texts : List Text) (i : Nat) : Bool :=
  texts[i]?.any fun t => (Source.classify t).isInstruction ["HLT", "RET"]

/-- The last line with a label up to a position. -/
structure NearestLabel (texts : List Text) (i k : Nat) : Prop where
  upTo : k ≤ i
  labelled : (labelAt? texts k).isSome = true
  nearest : ∀ h ≤ i, k < h → labelAt? texts h = none

/-- No line up to the position has a label, or a halt or a return stands behind the last one that has. -/
def ReturnsOutside (texts : List Text) (i : Nat) : Prop :=
  (∀ k ≤ i, labelAt? texts k = none) ∨
    ∃ k, NearestLabel texts i k ∧ ∃ h, k < h ∧ h < i ∧ stopAt texts h = true

/-- The warnings that find the return at a position outside any function. -/
def returnWarnings (texts : List Text) (i : Nat) : List Diagnostic :=
  flowWarnings "RET instruction outside of function context" texts i

variable {labels texts : List Text} {line : Line} {i k : Nat} {name : Text}

/-! ## The nearest label -/

theorem NearestLabel.unique {other : Nat} (first : NearestLabel texts i k) (second : NearestLabel texts i other) :
    k = other := by
  rcases Nat.lt_trichotomy k other with less | same | more
  · have labelled := second.labelled
    simp [first.nearest other second.upTo less] at labelled
  · exact same
  · have labelled := first.labelled
    simp [second.nearest k first.upTo more] at labelled

theorem exists_nearestLabel (upTo : k ≤ i) (labelled : (labelAt? texts k).isSome = true) :
    ∃ k, NearestLabel texts i k := by
  induction i with
  | zero => exact ⟨k, upTo, labelled, fun h bound behind => by omega⟩
  | succ i ih =>
    cases own : labelAt? texts (i + 1) with
    | some name => exact ⟨i + 1, Nat.le_refl _, by simp [own], fun h bound behind => by omega⟩
    | none =>
      have before : k ≤ i := by
        have other : k ≠ i + 1 := by
          rintro rfl
          simp [own] at labelled
        omega
      obtain ⟨last, found⟩ := ih before
      refine ⟨last, Nat.le_succ_of_le found.upTo, found.labelled, ?_⟩
      intro h bound behind
      rcases Nat.lt_or_eq_of_le bound with less | rfl
      · exact found.nearest h (Nat.le_of_lt_succ less) behind
      · exact own

/-! ## The walk back -/

/-- The label at which the walk back ends, over lines that are given nearest first. -/
def labelBack : List Line → Option Text
  | [] => none
  | line :: before =>
    line.label?.or (if line.statement.isInstruction ["HLT", "RET"] then none else labelBack before)

theorem insideFunction_eq (labels : List Text) (before : List Line) :
    insideFunction labels before = (labelBack before).any (· ∈ labels) := by
  induction before with
  | nil => rfl
  | cons line before ih =>
    rw [insideFunction, labelBack]
    cases line.label? with
    | some name => rfl
    | none =>
      rw [Option.none_or]
      dsimp only
      split
      · rfl
      · exact ih

theorem returnsInside_eq (labels : List Text) (line : Line) (before : List Line) :
    returnsInside labels line before = (line.label?.or (labelBack before)).any (· ∈ labels) := by
  unfold returnsInside
  cases line.label? with
  | some name => rfl
  | none => exact insideFunction_eq labels before

theorem stopAt_of_line (here : (Source.number texts)[i]? = some line) :
    stopAt texts i = line.statement.isInstruction ["HLT", "RET"] := by
  obtain ⟨t, found, -, statement⟩ := exists_text_of_line here
  rw [stopAt, found, statement, Option.any_some]

/-- The label that the return at a position finds. -/
def labelFrom (texts : List Text) (i : Nat) : Option Text :=
  (labelAt? texts i).or (labelBack ((Source.number texts).take i).reverse)

theorem labelBack_succ (texts : List Text) (i : Nat) :
    labelBack ((Source.number texts).take (i + 1)).reverse =
      (labelAt? texts i).or
        (if stopAt texts i then none else labelBack ((Source.number texts).take i).reverse) := by
  rw [List.take_add_one, List.reverse_append]
  cases here : (Source.number texts)[i]? with
  | none =>
    have nothing := no_text_of_no_line here
    simp [labelAt?, stopAt, nothing]
  | some line =>
    rw [labelAt?_of_line here, stopAt_of_line here]
    rfl

/-- The walk ends at the nearest label unless a halt or a return stands behind it. -/
theorem labelFrom_eq_some :
    labelFrom texts i = some name ↔ ∃ k, NearestLabel texts i k ∧ labelAt? texts k = some name ∧
      ∀ h < i, k < h → stopAt texts h = false := by
  cases own : labelAt? texts i with
  | some first =>
    -- With a label of its own the return asks no line before it.
    rw [labelFrom, own, Option.some_or]
    constructor
    · rintro ⟨⟩
      exact ⟨i, ⟨Nat.le_refl i, by simp [own], fun h bound behind => by omega⟩, own, fun h bound behind => by omega⟩
    · rintro ⟨k, found, labelled, -⟩
      have same : k = i := found.unique ⟨Nat.le_refl i, by simp [own], fun h bound behind => by omega⟩
      rw [← own, ← same, labelled]
  | none =>
    -- The walk back ends at the label that a scan from the start would have kept.
    rw [labelFrom, own, Option.none_or,
      kept_iff (fun i => labelBack ((Source.number texts).take i).reverse) rfl (labelBack_succ texts)]
    constructor
    · rintro ⟨k, within, labelled, quiet⟩
      refine ⟨k, ⟨Nat.le_of_lt within, by simp [labelled], ?_⟩, labelled, fun h bound behind => (quiet h bound behind).2⟩
      intro h bound behind
      rcases Nat.lt_or_eq_of_le bound with less | rfl
      · exact (quiet h less behind).1
      · exact own
    · rintro ⟨k, found, labelled, free⟩
      have other : k ≠ i := by
        rintro rfl
        simp [own] at labelled
      exact ⟨k, Nat.lt_of_le_of_ne found.upTo other, labelled, fun h bound behind =>
        ⟨found.nearest h (Nat.le_of_lt bound) behind, free h bound behind⟩⟩

theorem labelFrom_eq_none : labelFrom texts i = none ↔ ReturnsOutside texts i := by
  rw [Option.eq_none_iff_forall_ne_some]
  constructor
  · intro nothing
    by_cases labelled : ∃ k ≤ i, (labelAt? texts k).isSome = true
    · -- There is a nearest label, and it is not found only if something stands in the way.
      obtain ⟨k, upTo, found⟩ := labelled
      obtain ⟨last, nearest⟩ := exists_nearestLabel upTo found
      obtain ⟨name, own⟩ := Option.isSome_iff_exists.1 nearest.labelled
      have stopped : ¬∀ h < i, last < h → stopAt texts h = false := fun free =>
        nothing name (labelFrom_eq_some.2 ⟨last, nearest, own, free⟩)
      push Not at stopped
      obtain ⟨h, within, behind, stop⟩ := stopped
      exact .inr ⟨last, nearest, h, behind, within, by simpa using stop⟩
    · left
      intro k upTo
      have unlabelled := not_exists.1 labelled k
      simpa [upTo] using unlabelled
  · rintro (unlabelled | ⟨k, nearest, h, behind, within, stop⟩) name found
    · obtain ⟨k, nearest, own, -⟩ := labelFrom_eq_some.1 found
      simp [unlabelled k nearest.upTo] at own
    · obtain ⟨other, found, -, free⟩ := labelFrom_eq_some.1 found
      cases nearest.unique found
      simp [free h within behind] at stop

/-! ## The labels with a return behind them -/

/-- The label in force after some lines. -/
def labelAfter (current : Option Text) (lines : List Line) : Option Text :=
  lines.foldl (fun own line => line.label?.or own) current

theorem mem_returningLabelsFrom {current : Option Text} {before after : List Line} (returns : isReturn line = true)
    (inForce : labelAfter current (before ++ [line]) = some name) :
    name ∈ returningLabelsFrom current (before ++ line :: after) := by
  induction before generalizing current with
  | nil =>
    change line.label?.or current = some name at inForce
    simp [returningLabelsFrom, returns, inForce]
  | cons first rest ih => exact List.mem_append_right _ (ih inForce)

/-- A label stays in force until the next one; nothing drops it. -/
theorem labelAfter_succ (texts : List Text) (i : Nat) :
    labelAfter none ((Source.number texts).take (i + 1)) =
      (labelAt? texts i).or (if false then none else labelAfter none ((Source.number texts).take i)) := by
  rw [List.take_add_one, labelAfter, List.foldl_append]
  cases here : (Source.number texts)[i]? with
  | none =>
    have nothing := no_text_of_no_line here
    simp [labelAt?, nothing, labelAfter]
  | some line =>
    rw [labelAt?_of_line here]
    rfl

/-- The nearest label of a return has a return before the next label: this one. -/
theorem mem_returningLabels (here : (Source.number texts)[i]? = some line) (returns : isReturn line = true)
    (nearest : NearestLabel texts i k) (labelled : labelAt? texts k = some name) :
    name ∈ returningLabels (Source.number texts) := by
  have inForce : labelAfter none ((Source.number texts).take (i + 1)) = some name := by
    rw [kept_iff (fun i => labelAfter none ((Source.number texts).take i)) rfl (labelAfter_succ texts)]
    exact ⟨k, Nat.lt_succ_of_le nearest.upTo, labelled, fun h within behind =>
      ⟨nearest.nearest h (Nat.le_of_lt_succ within) behind, rfl⟩⟩
  rw [List.take_add_one, here] at inForce
  rw [number_split here, returningLabels]
  exact mem_returningLabelsFrom returns inForce

/-- All that the walk back can end at is among the labels, so it is enough that it ends at one. -/
theorem returnIssue_eq (among : returningLabels (Source.number texts) ⊆ labels)
    (here : (Source.number texts)[i]? = some line) :
    returnIssue labels ((Source.number texts).take i).reverse line =
      if isReturn line && (labelFrom texts i).isNone then [.returnOutside] else [] := by
  cases returns : isReturn line with
  | false => simp [returnIssue, returns]
  | true =>
    have inside : returnsInside labels line ((Source.number texts).take i).reverse = (labelFrom texts i).isSome := by
      rw [returnsInside_eq, ← labelAt?_of_line here]
      change (labelFrom texts i).any _ = _
      cases found : labelFrom texts i with
      | none => rfl
      | some name =>
        obtain ⟨k, nearest, labelled, -⟩ := labelFrom_eq_some.1 found
        simp [among (mem_returningLabels here returns nearest labelled)]
    simp [returnIssue, returns, inside, Option.not_isSome]

/-- Further labels change nothing. -/
theorem checkFlowFrom_of_subset (among : returningLabels (Source.number texts) ⊆ labels) :
    checkFlowFrom labels {} (Source.number texts) = checkFlow (Source.number texts) := by
  have general (before after : List Line) (split : Source.number texts = before ++ after) :
      checkFlowFrom labels (flowFrom labels {} before) after =
        checkFlowFrom (returningLabels (Source.number texts)) (flowFrom labels {} before) after := by
    -- The lines that have been checked stay in the statement, as they are what the walk back goes over.
    induction after generalizing before with
    | nil => rfl
    | cons line rest ih =>
      have here : (Source.number texts)[before.length]? = some line := by simp [split]
      have front : (flowFrom labels {} before).before = ((Source.number texts).take before.length).reverse := by
        rw [flowFrom_before, split, List.take_left]
        exact List.append_nil _
      have issues : (flowStep labels (flowFrom labels {} before) line).2 =
          (flowStep (returningLabels (Source.number texts)) (flowFrom labels {} before) line).2 := by
        rw [flowStep_issues, flowStep_issues, front, returnIssue_eq among here,
          returnIssue_eq (List.Subset.refl _) here]
      have later := ih (before ++ [line]) (by simp [split])
      rw [flowFrom, List.foldl_append] at later
      rw [checkFlowFrom, checkFlowFrom, issues, flowStep_state (returningLabels (Source.number texts)) _ line labels]
      exact congrArg _ later
  exact general [] (Source.number texts) rfl

/-! ## The warning -/

theorem filter_return (ended : Option (Nat × Text)) (before : List Line) (line : Line) :
    ((unreachableIssue ended line ++ returnIssue labels before line).filter fun issue =>
      (Text.ofString "RET instruction outside of function context").isPrefixOf issue.message) =
        returnIssue labels before line := by
  have dropped : ∀ issue ∈ unreachableIssue ended line,
      ¬(Text.ofString "RET instruction outside of function context").isPrefixOf issue.message = true := by
    intro issue member
    obtain ⟨-, j, mnemonic, rfl⟩ := mem_unreachableIssue member
    rw [List.isPrefixOf_iff_prefix]
    rintro ⟨rest, same⟩
    cases congrArg List.head? same
  have kept : ∀ issue ∈ returnIssue labels before line,
      (Text.ofString "RET instruction outside of function context").isPrefixOf issue.message = true := by
    intro issue member
    cases eq_of_mem_returnIssue member
    decide +kernel
  rw [List.filter_append, List.filter_eq_nil_iff.2 dropped, List.filter_eq_self.2 kept, List.nil_append]

theorem isReturn_of_code (here : (Source.number texts)[i]? = some line)
    (code : codeAt? texts i = some (Text.ofString "RET")) :
    isReturn line = true := by
  rw [codeAt?_of_line here] at code
  unfold codeIn? at code
  split at code
  · next statement =>
    obtain ⟨-, named⟩ := Option.ite_none_right_eq_some.1 code
    cases named
    rw [isReturn, statement]
    rfl
  · cases code

theorem returnWarnings_of_line (here : (Source.number texts)[i]? = some line)
    (code : codeAt? texts i = some (Text.ofString "RET")) :
    returnWarnings texts i =
      if (labelFrom texts i).isNone then
        [⟨.warning, line.range, "RET instruction outside of function context (no preceding CALL target)", "asm-flow"⟩]
      else [] := by
  rw [returnWarnings, flowWarnings_of_line _ here, flowStep_issues, flowAt_active, ← codeAt?_of_line here, code,
    if_pos (by rfl), filter_return, flowAt_before, returnIssue_eq (List.Subset.refl _) here,
    isReturn_of_code here code, Bool.true_and]
  split <;> rfl

/-- What is said of a return hangs on the lines up to it only. -/
theorem returnWarnings_append {first : List Text} (within : i < first.length)
    (code : codeAt? first i = some (Text.ofString "RET"))
    (second : List Text) : returnWarnings (first ++ second) i = returnWarnings first i := by
  obtain ⟨line, here⟩ := exists_line_of_code code
  have same : labelFrom (first ++ second) i = labelFrom first i := by
    rw [labelFrom, labelFrom, labelAt?_append within, take_number_append within]
  rw [returnWarnings_of_line ((getElem?_number_append within second).trans here)
    ((codeAt?_append within second).trans code), returnWarnings_of_line here code, same]

/-- A return of the code section is outside any function exactly if no line up to it has a label, or a halt or a return
stands behind the last one that has. That the label is one with a return behind it goes without asking, and lines
behind the return do not matter. -/
theorem return_outside_iff_unlabelled (here : (Source.number texts)[i]? = some line)
    (code : codeAt? texts i = some (Text.ofString "RET")) :
    (ReturnsOutside texts i → returnWarnings texts i =
      [⟨.warning, line.range, "RET instruction outside of function context (no preceding CALL target)", "asm-flow"⟩]) ∧
    (¬ReturnsOutside texts i → returnWarnings texts i = []) ∧
    (∀ labels, returningLabels (Source.number texts) ⊆ labels →
      checkFlowFrom labels {} (Source.number texts) = checkFlow (Source.number texts)) ∧
    ∀ later, returnWarnings (texts.take (i + 1) ++ later) i = returnWarnings texts i := by
  rw [← labelFrom_eq_none]
  refine ⟨?_, ?_, fun labels among => checkFlowFrom_of_subset among, ?_⟩
  · intro outside
    rw [returnWarnings_of_line here code, outside]
    rfl
  · intro inside
    rw [returnWarnings_of_line here code, if_neg (by simpa using inside)]
  · intro later
    obtain ⟨t, found, -⟩ := exists_text_of_line here
    have within : i < (texts.take (i + 1)).length := by
      obtain ⟨bound, -⟩ := List.getElem?_eq_some_iff.1 found
      rw [List.length_take]
      omega
    have whole : texts.take (i + 1) ++ texts.drop (i + 1) = texts := List.take_append_drop _ _
    have upTo : codeAt? (texts.take (i + 1)) i = some (Text.ofString "RET") := by
      rw [← codeAt?_append within (texts.drop (i + 1)), whole, code]
    have own := returnWarnings_append within upTo (texts.drop (i + 1))
    rw [whole] at own
    rw [returnWarnings_append within upTo, own]

/-- The halt stands on the line of the label, so it is not behind it, and the return on the next line is inside. -/
theorem return_inside_behind_labelled_halt :
    returnWarnings ["f: HLT", "RET", "RET"] 1 = [] ∧
    returnWarnings ["f: HLT", "RET", "RET"] 2 =
      [⟨.warning, ⟨2, 0, 2, 3⟩, "RET instruction outside of function context (no preceding CALL target)", "asm-flow"⟩] := by
  have inside : ¬ReturnsOutside ["f: HLT", "RET", "RET"] 1 := by
    rintro (unlabelled | ⟨k, -, h, behind, before, -⟩)
    · exact absurd (unlabelled 0 (by decide)) (by decide +kernel)
    · omega
  have outside : ReturnsOutside ["f: HLT", "RET", "RET"] 2 :=
    .inr ⟨0, ⟨by decide, by decide +kernel, by decide +kernel⟩, 1, by decide, by decide, by decide +kernel⟩
  have second : (Source.number ["f: HLT", "RET", "RET"])[1]? = some ⟨1, "RET", Source.classify "RET", false⟩ := rfl
  have third : (Source.number ["f: HLT", "RET", "RET"])[2]? = some ⟨2, "RET", Source.classify "RET", false⟩ := rfl
  exact ⟨(return_outside_iff_unlabelled second (by decide +kernel)).2.1 inside,
    (return_outside_iff_unlabelled third (by decide +kernel)).1 outside⟩

end AsmCheck.Analysis
