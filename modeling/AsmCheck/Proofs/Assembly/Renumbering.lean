import AsmCheck.Proofs.Assembly.Run
import AsmCheck.Proofs.Source.Lines
import AsmCheck.Proofs.Source.Retexting

/-! The assembly of lines with other numbers. A number is only ever told: it stands in instructions, remarks and
rejections, and nothing is made to hang on it. So a line that says nothing moves the numbers behind it and does no
more. -/

set_option autoImplicit false

namespace AsmCheck

open Source (Line Statement Width)

/-! ## Numbers in what is told -/

section
variable (shift : Nat → Nat)

def Instruction.renumbered (i : Instruction) : Instruction := { i with line := shift i.line }

def Program.renumbered (p : Program) : Program :=
  { p with instructions := p.instructions.map (Instruction.renumbered shift) }

namespace Assembly

def Remark.renumbered : Remark → Remark
  | .malformedConstant line body => .malformedConstant (shift line) body
  | .constantNotNumeric line name value => .constantNotNumeric (shift line) name value
  | .originNotNumeric line rest => .originNotNumeric (shift line) rest
  | .valueNotNumeric line width item => .valueNotNumeric (shift line) width item
  | .assembled instructions labels constants items => .assembled instructions labels constants items

def Event.renumbered : Event → Event
  | .instruction i => .instruction (i.renumbered shift)
  | .item d => .item d
  | .remark r => .remark (r.renumbered shift)

def Failure.renumbered : Failure → Failure
  | .rejected r => .rejected { r with line := shift r.line }
  | .numeral => .numeral

def Result.renumbered (result : Result) : Result :=
  ⟨result.remarks.map (Remark.renumbered shift),
    (result.program.map (Program.renumbered shift)).mapError (Failure.renumbered shift)⟩

variable (event : Event)

@[simp] theorem Event.instruction?_renumbered :
    (event.renumbered shift).instruction? = event.instruction?.map (Instruction.renumbered shift) := by
  cases event <;> rfl

@[simp] theorem Event.item?_renumbered : (event.renumbered shift).item? = event.item? := by
  cases event <;> rfl

@[simp] theorem Event.remark?_renumbered :
    (event.renumbered shift).remark? = event.remark?.map (Remark.renumbered shift) := by
  cases event <;> rfl

end Assembly

end

namespace Assembly

/-- The same line with another number, both counted from one. -/
structure Renumbers (shift : Nat → Nat) (line other : Line) : Prop where
  text : other.text = line.text
  statement : other.statement = line.statement
  number : other.index + 1 = shift (line.index + 1)

variable {shift : Nat → Nat} {line other : Line} {lines others : List Line}

/-! ## Runs over renumbered lines -/

theorem itemValues_renumbered (labels : Bindings Int) (n : Nat) (width : Width) (operand : Text) :
    itemValues labels (shift n) width operand =
      (itemValues labels n width operand).map fun part => (part.1, part.2.map (Event.renumbered shift)) := by
  unfold itemValues
  cases Source.stringBody? operand with
  | some inside => rfl
  | none =>
    dsimp only
    cases Source.evaluate labels.get? operand with
    | error limit => rfl
    | ok found => cases found <;> rfl

theorem dataValues_renumbered (s : State) (n : Nat) (width : Width) (rest : Text) :
    dataValues s (shift n) width rest =
      (dataValues s n width rest).map fun part => (part.1, part.2.map (Event.renumbered shift)) := by
  unfold dataValues
  cases Program.substitute s.constants rest with
  | error limit => rfl
  | ok substituted =>
    have each : itemValues s.labels (shift n) width = fun operand =>
        (itemValues s.labels n width operand).map fun part => (part.1, part.2.map (Event.renumbered shift)) := by
      funext operand
      exact itemValues_renumbered s.labels n width operand
    simp only [bind, Except.bind, each, mapM_map]
    cases (Source.operands substituted).mapM (itemValues s.labels n width) with
    | error limit => rfl
    | ok parts => simp [Except.map, List.flatMap_map, List.map_flatMap]

theorem step_renumbered (same : Renumbers shift line other) (s : State) :
    step s other =
      ((step s line).map fun result => (result.1, result.2.map (Event.renumbered shift))).mapError
        (Failure.renumbered shift) := by
  have rejected (cause : Misplaced) :
      (reject other cause : Except Failure (State × List Event)) =
        .error (Failure.renumbered shift (.rejected ⟨line.index + 1, line.text, cause⟩)) := by
    simp only [reject, same.text, same.number, Failure.renumbered]
  unfold step
  simp only [same.statement, same.text, same.number]
  cases line.statement with
  | blank | comment | malformedConstant | enter sec | label name => rfl
  | constant name value =>
    dsimp only
    cases s.constantValue value with
    | error limit => rfl
    | ok found => cases found <;> rfl
  | origin label rest =>
    dsimp only
    cases (s.mark label).constantValue rest with
    | error limit => rfl
    | ok found => cases found <;> rfl
  | data label width rest =>
    dsimp only
    cases s.active with
    | code => exact rejected _
    | data =>
      dsimp only
      rw [dataValues_renumbered]
      cases dataValues (s.mark label) (line.index + 1) width rest with
      | error limit => rfl
      | ok result => simp [Numeral.failWith, bind, Except.bind, Except.map, Except.mapError, Event.renumbered]
  | instruction label mnemonic rest =>
    dsimp only
    cases s.active with
    | data =>
      cases label with
      | none => exact rejected _
      | some name => rfl
    | code =>
      dsimp only
      cases Program.substitute (s.mark label).constants rest with
      | error limit => rfl
      | ok substituted => rfl

theorem run_renumbered (same : List.Forall₂ (Renumbers shift) lines others) (s : State) :
    run s others =
      ⟨(run s lines).events.map (Event.renumbered shift),
        (run s lines).outcome.mapError (Failure.renumbered shift)⟩ := by
  induction same generalizing s with
  | nil => rfl
  | @cons line other _ _ first _ ih =>
    rw [run, step_renumbered first s, run]
    cases step s line with
    | error failure => rfl
    | ok result => simp [Except.map, Except.mapError, ih result.1]

theorem program_renumbered (s : State) (events : List Event) :
    s.program (events.map (Event.renumbered shift)) = (s.program events).renumbered shift := by
  simp [State.program, Program.renumbered, List.filterMap_map, List.map_filterMap]

theorem assembleLines_renumbered (same : List.Forall₂ (Renumbers shift) lines others) :
    assembleLines others = (assembleLines lines).renumbered shift := by
  have remarks : ((run {} lines).events.map (Event.renumbered shift)).filterMap Event.remark? =
      ((run {} lines).events.filterMap Event.remark?).map (Remark.renumbered shift) := by
    simp [List.filterMap_map, List.map_filterMap]
  simp only [assembleLines, run_renumbered same {}, remarks]
  cases (run {} lines).outcome with
  | error failure => rfl
  | ok s =>
    simp [Except.mapError, Result.renumbered, Except.map, program_renumbered, Program.renumbered, Remark.renumbered]

/-! ## Lines that say nothing -/

/-- A line that says nothing is passed. -/
theorem run_silent (silent : line.statement.isCode = false) (s : State) (before after : List Line) :
    run s (before ++ line :: after) = run s (before ++ after) := by
  induction before generalizing s with
  | nil =>
    rcases Statement.eq_of_isCode silent with statement | statement <;> simp [run, step, statement]
  | cons first rest ih => simp only [List.cons_append, run, ih]

theorem assembleLines_silent (silent : line.statement.isCode = false) (before after : List Line) :
    assembleLines (before ++ line :: after) = assembleLines (before ++ after) := by
  simp only [assembleLines, run_silent silent]

/-- The number of a line once another one stands behind as many lines as the position says. -/
def movedBehind (position n : Nat) : Nat := if n ≤ position then n else n + 1

theorem numberFrom_renumbers {texts : List Text} {index index' : Nat}
    (moved : ∀ k < texts.length, index' + k + 1 = shift (index + k + 1)) (previous previous' : Option Text) :
    List.Forall₂ (Renumbers shift) (Source.numberFrom previous index texts)
      (Source.numberFrom previous' index' texts) := by
  induction texts generalizing index index' previous previous' with
  | nil => exact .nil
  | cons t rest ih =>
    refine .cons ⟨rfl, rfl, moved 0 (by simp)⟩ (ih ?_ _ _)
    intro k within
    have next := moved (k + 1) (by simpa using within)
    have left : index' + 1 + k = index' + (k + 1) := by omega
    have right : index + 1 + k = index + (k + 1) := by omega
    rw [left, right, next]

/-- A blank line or a comment in front of some lines moves their numbers, and nothing else is told of the text. -/
theorem silent_line_moves_numbers {first second : List Text} {line : Text}
    (unbroken : ∀ t ∈ first ++ line :: second, ∀ c ∈ t, Text.isBreak c = false)
    (silent : Source.classify line = .blank ∨ Source.classify line = .comment) :
    assemble (Text.terminated (first ++ line :: second)) =
      (assemble (Text.terminated (first ++ second))).renumbered (movedBehind first.length) := by
  have without : ∀ t ∈ first ++ second, ∀ c ∈ t, Text.isBreak c = false := by
    intro t member
    apply unbroken
    rcases List.mem_append.1 member with before | after
    · exact List.mem_append_left _ before
    · exact List.mem_append_right _ (List.mem_cons_of_mem _ after)
  rw [assemble, assemble, Text.lines_terminated unbroken, Text.lines_terminated without, Source.number, Source.number,
    Source.numberFrom_append, Source.numberFrom_append, Source.numberFrom]
  have uncoded : (Source.classify line).isCode = false := by
    rcases silent with statement | statement <;> rw [statement] <;> rfl
  rw [assembleLines_silent uncoded]
  apply assembleLines_renumbered
  apply List.rel_append
  · apply numberFrom_renumbers
    intro k within
    rw [movedBehind, if_pos (by omega)]
  · apply numberFrom_renumbers
    intro k within
    rw [movedBehind, if_neg (by omega)]
    omega

/-- A comment between a label and its item reads like another item. -/
theorem silent_line_before_waiting_item :
    (assemble "NOP\n.data\nx:\n ; y: DB 1\nDB z\n.text\nRET\n").remarks =
      [.valueNotNumeric 5 .byte "z", .assembled 2 1 0 1] ∧
    (assemble "NOP\n.data\nx:\n ; y: DB 1\nDB z\n.text\nRET\n").program =
      .ok ⟨[⟨1, "NOP", [], "NOP"⟩, ⟨7, "RET", [], "RET"⟩], [("x", 0x2000)], [], [⟨0x2000, .byte, [0], some "x"⟩], 0⟩ := by
  have unbroken : ∀ t ∈ (["NOP", ".data", "x:"] : List Text) ++ Text.ofString " ; y: DB 1" :: ["DB z", ".text", "RET"],
      ∀ c ∈ t, Text.isBreak c = false := by decide +kernel
  have silent : Source.classify " ; y: DB 1" = .comment := by decide +kernel
  have whole : Text.terminated ((["NOP", ".data", "x:"] : List Text) ++ Text.ofString " ; y: DB 1" ::
      ["DB z", ".text", "RET"]) = "NOP\n.data\nx:\n ; y: DB 1\nDB z\n.text\nRET\n" := by decide +kernel
  have moved := silent_line_moves_numbers unbroken (.inr silent)
  rw [whole] at moved
  rw [moved]
  exact ⟨by decide +kernel, by decide +kernel⟩

end Assembly

end AsmCheck
