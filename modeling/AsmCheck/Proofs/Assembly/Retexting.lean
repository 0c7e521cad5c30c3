import AsmCheck.Proofs.Assembly.Run
import AsmCheck.Proofs.Source.Lines
import AsmCheck.Proofs.Source.Retexting

/-! The assembly of lines with other texts. What the lines say is assembled as before, and only what quotes a line
quotes the other text. -/

set_option autoImplicit false

namespace AsmCheck

/-- The text of a line by its number, counted from one. -/
def lineText (texts : List Text) (number : Nat) : Text := ([] :: texts).getD number []

def Instruction.within (texts : List Text) (i : Instruction) : Instruction :=
  { i with raw := Text.trim (lineText texts i.line) }

def Program.within (texts : List Text) (p : Program) : Program :=
  { p with instructions := p.instructions.map (Instruction.within texts) }

namespace Assembly

open Source (Line Retexts Statement Width)

def Failure.within (texts : List Text) : Failure → Failure
  | .rejected r => .rejected { r with text := lineText texts r.line }
  | .numeral => .numeral

def Event.within (texts : List Text) : Event → Event
  | .instruction i => .instruction (i.within texts)
  | event => event

variable {texts : List Text} {f : Line → Line}

section
variable (event : Event)

@[simp] theorem Event.instruction?_within :
    (event.within texts).instruction? = event.instruction?.map (Instruction.within texts) := by
  cases event <;> rfl

@[simp] theorem Event.item?_within : (event.within texts).item? = event.item? := by
  cases event <;> rfl

@[simp] theorem Event.remark?_within : (event.within texts).remark? = event.remark? := by
  cases event <;> rfl

end

/-- All that the values of a directive emit are remarks, and these quote no line. -/
theorem dataValues_within {s : State} {n : Nat} {width : Width} {rest : Text} {values : List Int}
    {events : List Event} (evaluated : dataValues s n width rest = .ok (values, events)) :
    events.map (Event.within texts) = events := by
  obtain ⟨substituted, -, -, origin⟩ := dataValues_eq_ok evaluated
  have same : ∀ event ∈ events, Event.within texts event = event := by
    intro event member
    obtain ⟨operand, -, own, remarks, made, found⟩ := origin event member
    rw [remark_of_mem_itemValues made found]
    rfl
  rw [List.map_congr_left same, List.map_id']

theorem step_map (retexts : Retexts texts f) (s : State) {line : Line}
    (body : Source.body (f line).text = Source.body line.text) :
    step s (f line) =
      ((step s line).map fun result => (result.1, result.2.map (Event.within texts))).mapError (Failure.within texts) := by
  have text : (f line).text = lineText texts (line.index + 1) := retexts.text line
  have rejected (cause : Misplaced) :
      (reject (f line) cause : Except Failure (State × List Event)) =
        .error (Failure.within texts (.rejected ⟨line.index + 1, line.text, cause⟩)) := by
    simp only [reject, retexts.index, text, Failure.within]
  rcases retexts.statement line with same | ⟨uncoded, uncoded'⟩
  · unfold step
    simp only [same, retexts.index, body]
    cases line.statement with
    | blank | comment | malformedConstant | enter sec | label name => rfl
    | constant name value =>
      dsimp only
      cases s.constantValue value with
      | error limit => rfl
      | ok found => cases found <;> rfl
    | origin label rest =>
      dsimp only
      cases (s.mark label).constantValue rest with
      | error limit => rfl
      | ok found => cases found <;> rfl
    | data label width rest =>
      dsimp only
      cases s.active with
      | code => exact rejected _
      | data =>
        dsimp only
        cases evaluated : dataValues (s.mark label) (line.index + 1) width rest with
        | error limit => rfl
        | ok result =>
          have kept : result.2.map (Event.within texts) = result.2 := dataValues_within evaluated
          simp [Numeral.failWith, bind, Except.bind, Except.map, Except.mapError, kept, Event.within]
    | instruction label mnemonic rest =>
      dsimp only
      cases s.active with
      | data =>
        cases label with
        | none => exact rejected _
        | some name => rfl
      | code =>
        dsimp only
        cases Program.substitute (s.mark label).constants rest with
        | error limit => rfl
        | ok substituted =>
          simp [Numeral.failWith, bind, Except.bind, Except.map, Except.mapError, Event.within, Instruction.within, text]
  · rcases Statement.eq_of_isCode uncoded with here | here <;>
      rcases Statement.eq_of_isCode uncoded' with there | there <;> simp [step, here, there, Except.map, Except.mapError]

theorem run_map (retexts : Retexts texts f) (s : State) {lines : List Line}
    (bodies : ∀ line ∈ lines, Source.body (f line).text = Source.body line.text) :
    run s (lines.map f) =
      ⟨(run s lines).events.map (Event.within texts), (run s lines).outcome.mapError (Failure.within texts)⟩ := by
  induction lines generalizing s with
  | nil => rfl
  | cons line rest ih =>
    rw [List.map_cons, run, step_map retexts s (bodies line (by simp)), run]
    cases step s line with
    | error failure => rfl
    | ok result =>
      simp [Except.map, Except.mapError, ih result.1 fun other member => bodies other (by simp [member])]

/-- The same result with its lines quoted from other texts. -/
def Result.within (texts : List Text) (result : Result) : Result :=
  ⟨result.remarks, (result.program.map (Program.within texts)).mapError (Failure.within texts)⟩

theorem program_within (s : State) (events : List Event) :
    s.program (events.map (Event.within texts)) = (s.program events).within texts := by
  simp [State.program, Program.within, List.filterMap_map, List.map_filterMap]

theorem assembleLines_map (retexts : Retexts texts f) {lines : List Line}
    (bodies : ∀ line ∈ lines, Source.body (f line).text = Source.body line.text) :
    assembleLines (lines.map f) = (assembleLines lines).within texts := by
  simp only [assembleLines, run_map retexts {} bodies, List.filterMap_map, Function.comp_def, Event.remark?_within]
  cases (run {} lines).outcome with
  | error failure => rfl
  | ok s => simp [Except.mapError, Result.within, Except.map, program_within, Program.within]

/-- A numbered line has its text from the list that was numbered, so nothing is quoted from elsewhere. -/
theorem assembleLines_within (texts : List Text) :
    (assembleLines (Source.number texts)).within texts = assembleLines (Source.number texts) := by
  have same : ∀ line ∈ Source.number texts, line.retext texts = line := by
    intro line member
    simp only [Line.retext, Source.getD_of_mem_number member]
  have bodies : ∀ line ∈ Source.number texts, Source.body (line.retext texts).text = Source.body line.text :=
    fun line member => by rw [same line member]
  rw [← assembleLines_map (Line.retexts_retext texts) bodies, List.map_congr_left same, List.map_id']

end Assembly

end AsmCheck
