import AsmCheck.Proofs.Assembly.Sites
import AsmCheck.Proofs.Source.Lines

/-! Assembly is causal: what a source text has been assembled to does not hang on the lines that follow. The argument
is made on a scan that holds the instructions and the items it has built beside the state, so that a step could do
anything to them: all it ever does is put one more behind them. -/

set_option autoImplicit false

namespace AsmCheck.Assembly

open Source (Line)

/-- Assembly at a line, with all that it holds there. -/
structure Scan extends State where
  instructions : List Instruction := []
  items : List DataItem := []

namespace Scan

def step (s : Scan) (line : Line) : Except Failure Scan :=
  let n := line.index + 1
  match line.statement with
  | .blank | .comment | .malformedConstant => .ok s
  | .constant name value => do
    match ← Numeral.failWith .numeral (s.constantValue value) with
    | some v => .ok { s with constants := s.constants.set name v }
    | none => .ok s
  | .enter sec => .ok { s with active := sec }
  | .label name => .ok { s with toState := s.mark (some name) }
  | .origin label rest => do
    let marked := s.mark label
    match ← Numeral.failWith .numeral (marked.constantValue rest) with
    | some address => .ok { s with toState := marked.setOrigin address }
    | none => .ok { s with toState := marked }
  | .data label width rest => match s.active with
    | .code => reject line (.dataInCode width.keyword)
    | .data => do
      let marked := s.mark label
      let (values, _) ← Numeral.failWith .numeral (dataValues marked n width rest)
      let (placed, item) := marked.place width values
      .ok { s with toState := placed, items := s.items ++ [item] }
  | .instruction label mnemonic rest => match s.active with
    | .data =>
      if label.isSome then .ok { s with toState := s.mark label } else reject line (.codeInData mnemonic)
    | .code => do
      let marked := s.mark label
      let substituted ← Numeral.failWith .numeral (Program.substitute marked.constants rest)
      let i : Instruction := ⟨n, mnemonic, Source.operands substituted, Text.trim line.text⟩
      .ok { s with
        toState := { marked with count := marked.count + 1 }
        instructions := s.instructions ++ [i] }

def run (s : Scan) (lines : List Line) : Except Failure Scan := lines.foldlM step s

def program (s : Scan) : Program where
  instructions := s.instructions
  labels := s.labels
  constants := s.constants
  items := s.items
  codeStart := s.codeStart

/-! ## What a scan keeps -/

/-- Nothing that was built before has changed, and nothing has come in front of it. -/
structure Extends (before after : Scan) : Prop where
  instructions : before.instructions <+: after.instructions
  items : before.items <+: after.items

theorem Extends.refl (s : Scan) : s.Extends s := ⟨List.prefix_rfl, List.prefix_rfl⟩

theorem Extends.trans {first second third : Scan} (early : first.Extends second) (late : second.Extends third) :
    first.Extends third :=
  ⟨early.instructions.trans late.instructions, early.items.trans late.items⟩

variable {s next last : Scan} {line : Line} {lines first second : List Line} {failure : Failure}

/-- Neither a new value of a constant nor a label, an origin or another section touches what was built. -/
theorem step_extends (taken : s.step line = .ok next) : s.Extends next := by
  unfold step at taken
  cases statement : line.statement with
  | blank | comment | malformedConstant =>
    simp only [statement] at taken
    cases taken
    exact .refl s
  | constant name value =>
    simp only [statement] at taken
    obtain ⟨found, -, result⟩ := bind_eq_ok.1 taken
    cases found <;> cases result <;> exact ⟨List.prefix_rfl, List.prefix_rfl⟩
  | enter sec | label name =>
    simp only [statement] at taken
    cases taken
    exact ⟨List.prefix_rfl, List.prefix_rfl⟩
  | origin label rest =>
    simp only [statement] at taken
    obtain ⟨found, -, result⟩ := bind_eq_ok.1 taken
    cases found <;> cases result <;> exact ⟨List.prefix_rfl, List.prefix_rfl⟩
  | data label width rest =>
    simp only [statement] at taken
    cases active : s.active with
    | code => simp [active, reject] at taken
    | data =>
      simp only [active] at taken
      obtain ⟨values, -, result⟩ := bind_eq_ok.1 taken
      cases result
      exact ⟨List.prefix_rfl, List.prefix_append _ _⟩
  | instruction label mnemonic rest =>
    simp only [statement] at taken
    cases active : s.active with
    | data =>
      simp only [active] at taken
      split at taken
      · cases taken
        exact ⟨List.prefix_rfl, List.prefix_rfl⟩
      · cases taken
    | code =>
      simp only [active] at taken
      obtain ⟨substituted, -, result⟩ := bind_eq_ok.1 taken
      cases result
      exact ⟨List.prefix_append _ _, List.prefix_rfl⟩

theorem run_extends (done : s.run lines = .ok last) : s.Extends last := by
  induction lines generalizing s with
  | nil =>
    cases done
    exact .refl _
  | cons line rest ih =>
    rw [run, List.foldlM_cons] at done
    obtain ⟨next, taken, later⟩ := bind_eq_ok.1 done
    exact (step_extends taken).trans (ih later)

theorem run_append (s : Scan) (first second : List Line) :
    s.run (first ++ second) = s.run first >>= fun reached => reached.run second :=
  List.foldlM_append ..

theorem run_append_of_error (stopped : s.run first = .error failure) (second : List Line) :
    s.run (first ++ second) = .error failure := by
  rw [run_append, stopped]
  rfl

/-- A scan over more lines passes through the one over the first of them, and goes on from there. -/
theorem exists_of_run_append (done : s.run (first ++ second) = .ok last) :
    ∃ reached, s.run first = .ok reached ∧ reached.Extends last := by
  rw [run_append] at done
  obtain ⟨reached, early, late⟩ := bind_eq_ok.1 done
  exact ⟨reached, early, run_extends late⟩

/-! ## Scans and runs -/

/-- A scan after a step that has emitted some events. -/
def emit (s : Scan) (next : State) (events : List Event) : Scan where
  toState := next
  instructions := s.instructions ++ events.filterMap Event.instruction?
  items := s.items ++ events.filterMap Event.item?

theorem step_eq (s : Scan) (line : Line) :
    s.step line = (Assembly.step s.toState line).map fun done => s.emit done.1 done.2 := by
  -- Remarks are emitted as well, but a scan does not hold them.
  have silent (next : State) : { s with toState := next } = s.emit next [] := by simp [emit]
  have remarked (next : State) (r : Remark) : { s with toState := next } = s.emit next [.remark r] := by
    simp [emit, List.filterMap_cons, Event.instruction?, Event.item?]
  unfold step Assembly.step
  cases statement : line.statement with
  | blank | comment | enter sec | label name => exact congrArg Except.ok (silent _)
  | malformedConstant => exact congrArg Except.ok (remarked _ _)
  | constant name value =>
    simp only
    cases Numeral.failWith Failure.numeral (s.constantValue value) with
    | error failure => rfl
    | ok found =>
      cases found with
      | some v => exact congrArg Except.ok (silent _)
      | none => exact congrArg Except.ok (remarked _ _)
  | origin label rest =>
    simp only
    cases Numeral.failWith Failure.numeral ((s.mark label).constantValue rest) with
    | error failure => rfl
    | ok found =>
      cases found with
      | some address => exact congrArg Except.ok (silent _)
      | none => exact congrArg Except.ok (remarked _ _)
  | data label width rest =>
    cases active : s.active with
    | code => simp [reject, Except.map]
    | data =>
      simp only
      cases evaluated : Numeral.failWith Failure.numeral (dataValues (s.mark label) (line.index + 1) width rest) with
      | error failure => rfl
      | ok found =>
        obtain ⟨values, remarks⟩ := found
        have only := exists_remark_of_dataValues (Numeral.failWith_eq_ok.1 evaluated)
        refine congrArg Except.ok ?_
        simp [emit, List.filterMap_append, instructions_eq_nil only, items_eq_nil only, Event.instruction?, Event.item?]
  | instruction label mnemonic rest =>
    cases active : s.active with
    | data =>
      cases label with
      | none => simp [reject, Except.map]
      | some name => exact congrArg Except.ok (silent _)
    | code =>
      simp only
      cases Numeral.failWith Failure.numeral (Program.substitute (s.mark label).constants rest) with
      | error failure => rfl
      | ok substituted => simp [emit, Event.instruction?, Event.item?, bind, Except.bind, Except.map]

theorem run_eq (s : Scan) (lines : List Line) :
    s.run lines = (Assembly.run s.toState lines).outcome.map fun reached =>
      s.emit reached (Assembly.run s.toState lines).events := by
  induction lines generalizing s with
  | nil => simp [run, Assembly.run, emit, Except.map, pure, Except.pure]
  | cons line rest ih =>
    rw [run, List.foldlM_cons, step_eq]
    cases taken : Assembly.step s.toState line with
    | error failure => simp [Assembly.run, taken, Except.map, bind, Except.bind]
    | ok done =>
      obtain ⟨next, events⟩ := done
      have later := ih (s.emit next events)
      simp only [run, Assembly.run, taken, Except.map, bind, Except.bind] at later ⊢
      rw [later]
      cases outcome : (Assembly.run next rest).outcome with
      | error failure => simp [emit, outcome]
      | ok reached => simp [emit, outcome]

/-- The scan from the start is assembly. -/
theorem program_assembleLines (lines : List Line) :
    (assembleLines lines).program = (run {} lines).map program := by
  rw [run_eq, assembleLines]
  cases outcome : (Assembly.run {} lines).outcome with
  | error failure => simp [Except.map]
  | ok reached => simp [Except.map, emit, program, State.program]

end Scan

theorem assembleLines_append_of_error {first : List Line} {failure : Failure}
    (stopped : (assembleLines first).program = .error failure) (second : List Line) :
    (assembleLines (first ++ second)).program = .error failure := by
  rw [Scan.program_assembleLines] at stopped ⊢
  cases early : Scan.run {} first with
  | error other =>
    rw [early] at stopped
    cases stopped
    rw [Scan.run_append_of_error early]
    rfl
  | ok reached => simp [early, Except.map] at stopped

theorem assembleLines_of_append {first second : List Line} {p : Program}
    (assembled : (assembleLines (first ++ second)).program = .ok p) :
    ∃ q, (assembleLines first).program = .ok q ∧ q.instructions <+: p.instructions ∧ q.items <+: p.items := by
  rw [Scan.program_assembleLines] at assembled
  cases whole : Scan.run {} (first ++ second) with
  | error failure => simp [whole, Except.map] at assembled
  | ok last =>
    rw [whole] at assembled
    cases assembled
    obtain ⟨reached, early, extended⟩ := Scan.exists_of_run_append whole
    refine ⟨reached.program, ?_, extended.instructions, extended.items⟩
    rw [Scan.program_assembleLines, early]
    rfl

/-- Appending lines neither lifts a rejection nor reaches back into instructions and data items that were
emitted already. -/
theorem assemble_terminated_causal {first second : List Text}
    (unbroken : ∀ line ∈ first ++ second, ∀ c ∈ line, Text.isBreak c = false) :
    (∀ r, (assemble (Text.terminated first)).program = .error (.rejected r) →
      (assemble (Text.terminated (first ++ second))).program = .error (.rejected r)) ∧
    ∀ p, (assemble (Text.terminated (first ++ second))).program = .ok p →
      ∃ q, (assemble (Text.terminated first)).program = .ok q ∧
        q.instructions <+: p.instructions ∧ q.items <+: p.items := by
  have firstUnbroken : ∀ line ∈ first, ∀ c ∈ line, Text.isBreak c = false :=
    fun line member => unbroken line (List.mem_append_left _ member)
  have numbered := Source.numberFrom_append none 0 first second
  simp only [assemble, Source.number, Text.lines_terminated unbroken, Text.lines_terminated firstUnbroken, numbered]
  exact ⟨fun r stopped => assembleLines_append_of_error stopped _, fun p assembled => assembleLines_of_append assembled⟩

/-- A constant that is defined again later keeps the value it had in an operand before. -/
theorem assemble_causal_redefined_constant :
    ∃ p q, (assemble (Text.terminated ["N EQU 1", "MOV EAX, N", "N EQU 2", ".data", "x: DB N"])).program = .ok p ∧
      (assemble (Text.terminated ["N EQU 1", "MOV EAX, N"])).program = .ok q ∧
      q.instructions <+: p.instructions ∧ q.items <+: p.items := by
  have assembled : (assemble (Text.terminated ["N EQU 1", "MOV EAX, N", "N EQU 2", ".data", "x: DB N"])).program =
      .ok ⟨[⟨2, "MOV", ["EAX", "1"], "MOV EAX, N"⟩], [("x", 0x2000)], [("N", 2)],
        [⟨0x2000, .byte, [2], some "x"⟩], 0⟩ := by decide +kernel
  have unbroken : ∀ line ∈ (["N EQU 1", "MOV EAX, N"] : List Text) ++ (["N EQU 2", ".data", "x: DB N"] : List Text),
      ∀ c ∈ line, Text.isBreak c = false := by decide +kernel
  obtain ⟨q, earlier, prefixes⟩ := (assemble_terminated_causal unbroken).2 _ assembled
  exact ⟨_, q, assembled, earlier, prefixes⟩

end AsmCheck.Assembly
