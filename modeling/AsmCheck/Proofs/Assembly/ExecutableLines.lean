import AsmCheck.Proofs.Assembly.Sites
import AsmCheck.Proofs.Source.Retexting

/-! The lines that hold instructions. A program has one instruction for each line of the code section that says one, in
their order, so a line is the way to its instruction. -/

set_option autoImplicit false

namespace AsmCheck

/-- Lines in increasing order are found at their places only. -/
theorem Program.instructionAt?_eq_some {p : Program} (sorted : p.executableLines.Pairwise (· < ·)) {line : Int}
    {i : Nat} : p.instructionAt? line = some i ↔ ∃ n, p.executableLines[i]? = some n ∧ (n : Int) = line := by
  rw [instructionAt?, List.findIdx?_eq_some_iff_getElem]
  constructor
  · rintro ⟨bound, here, -⟩
    refine ⟨p.instructions[i].line, ?_, by simpa using here⟩
    rw [executableLines, List.getElem?_map, List.getElem?_eq_getElem bound]
    rfl
  · rintro ⟨n, found, rfl⟩
    obtain ⟨bound, here⟩ := List.getElem?_eq_some_iff.1 found
    have within : i < p.instructions.length := by simpa [executableLines] using bound
    have own : p.instructions[i].line = n := by simpa [executableLines] using here
    refine ⟨within, by simp [own], ?_⟩
    intro j earlier same
    have order : p.executableLines[j] < p.executableLines[i] :=
      List.pairwise_iff_getElem.1 sorted j i (earlier.trans bound) bound earlier
    simp only [executableLines, List.getElem_map] at order
    simp only [beq_iff_eq] at same
    omega

theorem Program.instructionAt?_eq_none {p : Program} {line : Int} :
    p.instructionAt? line = none ↔ ∀ n ∈ p.executableLines, (n : Int) ≠ line := by
  simp [instructionAt?, executableLines, List.findIdx?_eq_none_iff]

namespace Assembly

open Source (Line Statement)

/-- The line says an instruction, and stands in the code section. -/
def Standing.isExecutable (e : Standing) : Bool :=
  e.sec = .code && match e.line.statement with
    | .instruction _ _ _ => true
    | _ => false

variable {s next last : State} {line : Line} {lines : List Line} {events : List Event}

/-- A line emits one instruction if it is executable, and none otherwise. -/
theorem Advances.executable (advanced : Advances s line next events) :
    (events.filterMap Event.instruction?).map Instruction.line =
      if Standing.isExecutable ⟨line, s.active⟩ then [line.index + 1] else [] := by
  cases advanced with
  | skipped uncoded =>
    rcases Statement.eq_of_isCode uncoded with statement | statement <;> simp [Standing.isExecutable, statement]
  | malformed statement | undefined statement _ | unmoved statement _ =>
    simp [List.filterMap_cons, Event.instruction?, Standing.isExecutable, statement]
  | defined statement _ | entered statement | labelled statement | moved statement _ =>
    simp [Standing.isExecutable, statement]
  | placed statement _ evaluated =>
    rw [List.filterMap_append, instructions_eq_nil (exists_remark_of_dataValues evaluated)]
    simp [List.filterMap_cons, Event.instruction?, Standing.isExecutable, statement]
  | ignored _ active => simp [Standing.isExecutable, active]
  | issued statement active _ => simp [Event.instruction?, Standing.isExecutable, statement, active]

theorem run_executable (done : (run s lines).outcome = .ok last) :
    ((run s lines).events.filterMap Event.instruction?).map Instruction.line =
      ((standing s.active lines).filter Standing.isExecutable).map (·.line.index + 1) := by
  induction lines generalizing s with
  | nil => rfl
  | cons line rest ih =>
    cases taken : step s line with
    | error failure => simp [run, taken] at done
    | ok result =>
      obtain ⟨next, events⟩ := result
      simp only [run, taken] at done
      have advanced := step_advances taken
      simp only [run, taken, List.filterMap_append, List.map_append, advanced.executable, ih done, advanced.active,
        standing, List.filter_cons]
      split <;> simp

/-- The lines of a program's instructions are those that say an instruction in the code section, in their order, and
looking for a line gives the place of its instruction. -/
theorem executable_lines_eq_code_lines {t : Text} {p : Program} (assembled : (assemble t).program = .ok p) :
    p.executableLines.Pairwise (· < ·) ∧
    p.executableLines =
      ((standing .code (Source.number (Text.lines t))).filter Standing.isExecutable).map (·.line.index + 1) ∧
    ∀ line : Int,
      (∀ i, p.instructionAt? line = some i ↔ ∃ n, p.executableLines[i]? = some n ∧ (n : Int) = line) ∧
      (p.instructionAt? line = none ↔ ∀ n ∈ p.executableLines, (n : Int) ≠ line) := by
  obtain ⟨last, done, rfl⟩ := program_eq_ok.1 assembled
  have sorted : (Source.number (Text.lines t)).Pairwise (·.index < ·.index) := Source.numberFrom_sorted none 0 _
  have exact : (last.program (run {} (Source.number (Text.lines t))).events).executableLines =
      ((standing .code (Source.number (Text.lines t))).filter Standing.isExecutable).map (·.line.index + 1) :=
    run_executable done
  have increasing : (last.program (run {} (Source.number (Text.lines t))).events).executableLines.Pairwise (· < ·) := by
    rw [exact, List.pairwise_map]
    refine ((standing_sorted sorted .code).filter _).imp ?_
    intro e other less
    omega
  refine ⟨increasing, exact, ?_⟩
  intro line
  exact ⟨fun i => Program.instructionAt?_eq_some increasing, Program.instructionAt?_eq_none⟩

/-- Lines end at several characters, and an instruction behind a label of the data section is passed over. -/
theorem executable_lines_odd_breaks :
    ∃ p, (assemble "NOP\x0b\r\nx: RET\n.data\ny: NOP\x0c.text\nNOP").program = .ok p ∧
      ((standing .code (Source.number (Text.lines "NOP\x0b\r\nx: RET\n.data\ny: NOP\x0c.text\nNOP"))).filter
        Standing.isExecutable).map (·.line.index + 1) = [1, 3, 7] ∧
      p.instructionAt? 3 = some 1 ∧ p.instructionAt? 5 = none := by
  have assembled : (assemble "NOP\x0b\r\nx: RET\n.data\ny: NOP\x0c.text\nNOP").program =
      .ok ⟨[⟨1, "NOP", [], "NOP"⟩, ⟨3, "RET", [], "x: RET"⟩, ⟨7, "NOP", [], "NOP"⟩], [("x", 1), ("y", 0x2000)], [], [],
        0⟩ := by decide +kernel
  obtain ⟨-, lines, places⟩ := executable_lines_eq_code_lines assembled
  exact ⟨_, assembled, lines.symm, ((places 3).1 1).2 ⟨3, rfl, rfl⟩, (places 5).2.2 (by decide)⟩

end Assembly

end AsmCheck
