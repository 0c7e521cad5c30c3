import AsmCheck.Proofs.Assembly.DataLabels

/-! Labels of the code section. A label counts the instructions before its line, and the items of the data section
leave it alone: only a label of their own section waits for them. -/

set_option autoImplicit false

namespace AsmCheck.Assembly

open Analysis (sectionAt)
open Source (Line)

variable {lines before after : List Line} {line : Line} {s last : State}

/-! ## Instructions -/

/-- A step counts the instructions that it emits, and these have the number of its line counted from one. -/
theorem Advances.instructions {next : State} {events : List Event} (advanced : Advances s line next events) :
    next.count = s.count + (events.filterMap Event.instruction?).length ∧
      ∀ i ∈ events.filterMap Event.instruction?, i.line = line.index + 1 := by
  cases advanced with
  | skipped _ | malformed _ | defined _ _ | undefined _ _ | entered _ => simp [Event.instruction?]
  | labelled _ | unmoved _ _ | ignored _ _ | issued _ _ _ => simp [Event.instruction?]
  | @moved label _ address _ _ =>
    have same : ((s.mark label).setOrigin address).count = s.count := by
      rw [← s.mark_count label]
      unfold State.setOrigin
      split <;> rfl
    simp [same]
  | @placed label width rest values remarks _ _ evaluated =>
    have nothing := instructions_eq_nil (exists_remark_of_dataValues evaluated)
    have same : ((s.mark label).place width values).1.count = s.count := s.mark_count label
    simp [nothing, same, Event.instruction?]

theorem run_count (done : (run s lines).outcome = .ok last) :
    last.count = s.count + ((run s lines).events.filterMap Event.instruction?).length := by
  induction lines generalizing s with
  | nil =>
    simp only [run, Except.ok.injEq] at done
    simp [run, done]
  | cons line rest ih =>
    cases taken : step s line with
    | error failure => simp [run, taken] at done
    | ok result =>
      obtain ⟨next, events⟩ := result
      simp only [run, taken] at done
      have here := (step_advances taken).instructions.1
      have later := ih done
      simp only [run, taken, List.filterMap_append, List.length_append]
      omega

theorem exists_line_of_instruction {i : Instruction}
    (member : i ∈ (run s lines).events.filterMap Event.instruction?) :
    ∃ line ∈ lines, i.line = line.index + 1 := by
  obtain ⟨before, line, after, reached, next, events, rfl, -, advanced, emitted⟩ :=
    exists_of_mem_run_events (instruction_mem_events member)
  refine ⟨line, by simp, advanced.instructions.2 i ?_⟩
  exact List.mem_filterMap.2 ⟨_, emitted, rfl⟩

/-- Instructions up to a line, followed by those behind it. -/
theorem divided_at_line {first second : List Instruction} {k : Nat} (upTo : ∀ i ∈ first, i.line ≤ k)
    (behind : ∀ i ∈ second, k < i.line) :
    (first ++ second).countP (·.line ≤ k) = first.length ∧
      (first ++ second)[first.length]? = (first ++ second).find? (k < ·.line) := by
  constructor
  · have all : first.countP (·.line ≤ k) = first.length := List.countP_eq_length.2 (by simpa using upTo)
    have none : second.countP (·.line ≤ k) = 0 := List.countP_eq_zero.2 (by simpa using behind)
    rw [List.countP_append, all, none, Nat.add_zero]
  · have none : first.find? (k < ·.line) = none := List.find?_eq_none.2 (by simpa using upTo)
    rw [List.find?_append, none, List.getElem?_append_right (Nat.le_refl _), Nat.sub_self, Option.none_or]
    cases second with
    | nil => rfl
    | cons i rest => simp [behind i (by simp)]

/-! ## Labels -/

/-- A name that the data section never defines does not wait for an item. -/
theorem pending_ne_of_code (sorted : lines.Pairwise (·.index < ·.index)) (done : (run {} lines).outcome = .ok s)
    {name : Text} (code : ∀ d ∈ definitions lines, d.name = name → d.sec = .code) : s.pending ≠ some name := by
  intro waiting
  rw [run_pending sorted done, lastLabel, Option.map_eq_some_iff] at waiting
  obtain ⟨d, latest, same⟩ := waiting
  have member := List.mem_of_getLast? latest
  simp only [List.mem_filter, decide_eq_true_eq] at member
  have data : d.sec = .data := member.2.1
  rw [code d member.1 same] at data
  cases data

theorem label_value_of_last {name : Text} (sorted : (before ++ line :: after).Pairwise (·.index < ·.index))
    (earlier : (run {} before).outcome = .ok s) (done : (run {} (before ++ line :: after)).outcome = .ok last)
    (active : s.active = .code) (labelled : line.label? = some name)
    (undefined : ∀ other ∈ after, other.label? ≠ some name)
    (code : ∀ d ∈ definitions (before ++ line :: after), d.name = name → d.sec = .code) :
    last.labels.get? name = some (s.count : Int) := by
  have whole : before ++ line :: after = (before ++ [line]) ++ after := by simp
  rw [whole] at done sorted code
  obtain ⟨next, through, later⟩ := run_append_eq_ok.1 done
  have here : (run s [line]).outcome = .ok next := by
    rwa [run_append_of_ok earlier] at through
  have idle : next.pending ≠ some name :=
    pending_ne_of_code (List.pairwise_append.1 sorted).1 through fun d member =>
      code d (mem_definitions_append member after)
  -- Behind its last definition the name is written only if it waits for an item, and it never does.
  rw [run_keeps_label undefined idle later]
  rcases (run_line here).2 with ⟨-, passes⟩ | ⟨item, -, places⟩
  · rw [passes.labels, labelled, State.get?_mark_self, active]
  · -- Items are placed in the data section only.
    simp [places.1] at active

/-- A label that only the code section defines counts the instructions that come from lines before its last
definition. So it is the index of the first instruction that does not come from such a line, if there is one. -/
theorem code_label_counts_instructions {t : Text} {p : Program} {d : Definition}
    (assembled : (assemble t).program = .ok p) (member : d ∈ definitionsOf t)
    (latest : ∀ e ∈ definitionsOf t, e.name = d.name → e.index ≤ d.index)
    (code : ∀ e ∈ definitionsOf t, e.name = d.name → e.sec = .code) :
    ∃ k : Nat, p.labels.get? d.name = some (k : Int) ∧ k = p.instructions.countP (·.line ≤ d.index) ∧
      k ≤ p.instructions.length ∧ p.instructions[k]? = p.instructions.find? (d.index < ·.line) := by
  have inCode : d.sec = .code := code d member rfl
  obtain ⟨last, done, rfl⟩ := program_eq_ok.1 assembled
  have sorted : (Source.number (Text.lines t)).Pairwise (·.index < ·.index) := Source.numberFrom_sorted none 0 _
  obtain ⟨before, line, after, split, sec, index, labelled⟩ := mem_definitions.1 member
  unfold definitionsOf at latest code
  rw [split] at done sorted latest code ⊢
  rw [← index] at latest ⊢
  obtain ⟨s, earlier, later⟩ := run_append_eq_ok.1 done
  have active : s.active = .code := (run_active earlier).trans (sec.trans inCode)
  have value := label_value_of_last sorted earlier done active labelled (undefined_after sorted latest) code
  have counted : s.count = ((run {} before).events.filterMap Event.instruction?).length := by
    rw [run_count earlier]
    exact Nat.zero_add _
  have upTo : ∀ i ∈ (run {} before).events.filterMap Event.instruction?, i.line ≤ line.index := by
    intro i emitted
    obtain ⟨other, listed, own⟩ := exists_line_of_instruction emitted
    have order : other.index < line.index := index_lt_of_mem_before sorted listed
    omega
  have behind : ∀ i ∈ (run s (line :: after)).events.filterMap Event.instruction?, line.index < i.line := by
    intro i emitted
    obtain ⟨other, listed, own⟩ := exists_line_of_instruction emitted
    have order : line.index ≤ other.index := index_le_of_mem_onward sorted listed
    omega
  -- The run up to the definition emits the instructions that are counted, and the rest of the run all others.
  obtain ⟨count, first⟩ := divided_at_line upTo behind
  simp only [State.program, run_append_of_ok earlier, List.filterMap_append]
  rw [← counted] at count first
  exact ⟨s.count, value, count.symm, by simp [counted], first⟩

/-- A label that is defined again while a label of the data section waits for its item. -/
theorem code_label_counts_redefined :
    ∃ p, (assemble "x: NOP\n.data\nd:\n.text\nx: ORG 16\n.data\nDB 1\n.text\nRET").program = .ok p ∧
      p.labels.get? "x" = some 1 ∧ p.instructions[1]? = some ⟨9, "RET", [], "RET"⟩ := by
  have assembled : (assemble "x: NOP\n.data\nd:\n.text\nx: ORG 16\n.data\nDB 1\n.text\nRET").program =
      .ok ⟨[⟨1, "NOP", [], "x: NOP"⟩, ⟨9, "RET", [], "RET"⟩], [("x", 1), ("d", 0x2000)], [],
        [⟨0x2000, .byte, [1], some "d"⟩], 16⟩ := by decide +kernel
  have defined : definitionsOf "x: NOP\n.data\nd:\n.text\nx: ORG 16\n.data\nDB 1\n.text\nRET" =
      [⟨"x", 0, .code⟩, ⟨"d", 2, .data⟩, ⟨"x", 4, .code⟩] := by decide +kernel
  obtain ⟨k, value, count, -, first⟩ := code_label_counts_instructions (d := ⟨"x", 4, .code⟩) assembled
    (by simp [defined]) (by rw [defined]; decide) (by rw [defined]; decide)
  have one : k = 1 := count.trans (by decide)
  subst one
  exact ⟨_, assembled, value, first⟩

end AsmCheck.Assembly
