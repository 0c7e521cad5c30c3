import AsmCheck.Log
import AsmCheck.Program.Memory
import AsmCheck.Program.Substitution
import AsmCheck.Source.Expression
import AsmCheck.Source.Line

/-! Assembling a source text. The lines are read once, in order: each step changes the state that later
lines see and emits instructions, data items and remarks, which no later line can change. -/

set_option autoImplicit false

namespace AsmCheck.Assembly

open Source (Line Section Width)
open Numeral (TooLong)

/-- Why a line cannot stand where it stands. -/
inductive Misplaced where
  | dataInCode (keyword : Text)
  | codeInData (keyword : Text)
  deriving DecidableEq

def Misplaced.message : Misplaced → Text
  | .dataInCode keyword => "Data directive '" ++ keyword ++ "' is not allowed in .text section"
  | .codeInData keyword => "Expected data directive (DB, DW, DD) in .data section, got '" ++ keyword ++ "'"

/-- The line that stops assembly, with its number counted from one. -/
structure Rejection where
  line : Nat
  text : Text
  cause : Misplaced
  deriving DecidableEq

inductive Failure where
  | rejected (r : Rejection)
  | numeral
  deriving DecidableEq

/-- What assembly notices and goes on from. -/
inductive Remark where
  | malformedConstant (line : Nat) (body : Text)
  | constantNotNumeric (line : Nat) (name value : Text)
  | originNotNumeric (line : Nat) (rest : Text)
  | valueNotNumeric (line : Nat) (width : Width) (item : Text)
  | assembled (instructions labels constants items : Nat)
  deriving DecidableEq

def Remark.record (r : Remark) : Log.Record :=
  let make (level : Log.Level) (pattern : Text) (arguments : List Log.Argument) : Log.Record :=
    ⟨"asmcore.parser", level, pattern, arguments⟩
  match r with
  | .malformedConstant line body =>
    make .debug "Line %d: skipping malformed EQU: %s" [.number line, .text body]
  | .constantNotNumeric line name value =>
    make .debug "Line %d: EQU value for %s is not a number: %s" [.number line, .text name, .text value]
  | .originNotNumeric line rest =>
    make .debug "Line %d: ignoring ORG without a numeric address: %s" [.number line, .text rest]
  | .valueNotNumeric line width item =>
    make .warning "Line %d: invalid %s value %r, using 0" [.number line, .text width.keyword, .text item]
  | .assembled instructions labels constants items =>
    make .debug "Parsed %d instructions, %d labels, %d constants, %d data items"
      [.number instructions, .number labels, .number constants, .number items]

inductive Event where
  | instruction (i : Instruction)
  | item (d : DataItem)
  | remark (r : Remark)
  deriving DecidableEq

def Event.instruction? : Event → Option Instruction
  | .instruction i => some i
  | _ => none

def Event.item? : Event → Option DataItem
  | .item d => some d
  | _ => none

def Event.remark? : Event → Option Remark
  | .remark r => some r
  | _ => none

/-- Where data starts unless an origin says otherwise. -/
def dataOrigin : Int := 0x2000

/-- What later lines see of earlier ones. `cursor` is the address of the next data item, `count` the
number of instructions so far, and `pending` the label that the next data item takes. -/
structure State where
  constants : Bindings Int := []
  labels : Bindings Int := []
  active : Section := .code
  cursor : Int := dataOrigin
  codeStart : Int := 0
  pending : Option Text := none
  count : Nat := 0
  deriving DecidableEq

/-- Define a label at the place that the active section has reached. -/
def State.mark (s : State) : Option Text → State
  | none => s
  | some name => match s.active with
    | .code => { s with labels := s.labels.set name s.count }
    | .data => { s with labels := s.labels.set name s.cursor, pending := some name }

/-- The value of a text whose names are constants. -/
def State.constantValue (s : State) (t : Text) : Except TooLong (Option Int) := do
  Source.evaluate (fun _ => none) (← Program.substitute s.constants t)

/-- The values of one operand of a data directive: the characters of a string, or a single number.
What is no number counts as zero and is remarked upon. -/
def itemValues (labels : Bindings Int) (line : Nat) (width : Width) (operand : Text) :
    Except TooLong (List Int × List Event) := do
  match Source.stringBody? operand with
  | some inside => .ok (inside.map fun c => (c.toNat : Int), [])
  | none => match ← Source.evaluate labels.get? operand with
    | some v => .ok ([v], [])
    | none => .ok ([0], [.remark (.valueNotNumeric line width operand)])

def dataValues (s : State) (line : Nat) (width : Width) (rest : Text) :
    Except TooLong (List Int × List Event) := do
  let operands := Source.operands (← Program.substitute s.constants rest)
  let parts ← operands.mapM (itemValues s.labels line width)
  .ok (parts.flatMap Prod.fst, parts.flatMap Prod.snd)

/-- The item at the cursor takes the pending label, which then stands for the item's address. -/
def State.place (s : State) (width : Width) (values : List Int) : State × DataItem :=
  let item : DataItem := ⟨s.cursor, width, values, s.pending⟩
  ({ s with
    labels := match s.pending with
      | some name => s.labels.set name s.cursor
      | none => s.labels
    pending := none
    cursor := item.endAddress }, item)

def State.setOrigin (s : State) (address : Int) : State :=
  match s.active with
  | .code => { s with codeStart := address }
  | .data => { s with cursor := address }

def reject {α : Type} (line : Line) (cause : Misplaced) : Except Failure α :=
  .error (.rejected ⟨line.index + 1, line.text, cause⟩)

def step (s : State) (line : Line) : Except Failure (State × List Event) :=
  let n := line.index + 1
  match line.statement with
  | .blank | .comment => .ok (s, [])
  | .malformedConstant => .ok (s, [.remark (.malformedConstant n (Source.body line.text))])
  | .constant name value => do
    match ← Numeral.failWith .numeral (s.constantValue value) with
    | some v => .ok ({ s with constants := s.constants.set name v }, [])
    | none => .ok (s, [.remark (.constantNotNumeric n name value)])
  | .enter sec => .ok ({ s with active := sec }, [])
  | .label name => .ok (s.mark (some name), [])
  | .origin label rest => do
    let marked := s.mark label
    match ← Numeral.failWith .numeral (marked.constantValue rest) with
    | some address => .ok (marked.setOrigin address, [])
    | none => .ok (marked, [.remark (.originNotNumeric n rest)])
  | .data label width rest => match s.active with
    | .code => reject line (.dataInCode width.keyword)
    | .data => do
      let marked := s.mark label
      let (values, remarks) ← Numeral.failWith .numeral (dataValues marked n width rest)
      let (placed, item) := marked.place width values
      .ok (placed, remarks ++ [.item item])
  | .instruction label mnemonic rest => match s.active with
    | .data => if label.isSome then .ok (s.mark label, []) else reject line (.codeInData mnemonic)
    | .code => do
      let marked := s.mark label
      let substituted ← Numeral.failWith .numeral (Program.substitute marked.constants rest)
      .ok ({ marked with count := marked.count + 1 },
        [.instruction ⟨n, mnemonic, Source.operands substituted, Text.trim line.text⟩])

/-- What a run has emitted, and the state it ended in or why it stopped. -/
structure Trace where
  events : List Event
  outcome : Except Failure State

def run (s : State) : List Line → Trace
  | [] => ⟨[], .ok s⟩
  | line :: rest => match step s line with
    | .error failure => ⟨[], .error failure⟩
    | .ok (next, events) =>
      let later := run next rest
      ⟨events ++ later.events, later.outcome⟩

def State.program (s : State) (events : List Event) : Program where
  instructions := events.filterMap Event.instruction?
  labels := s.labels
  constants := s.constants
  items := events.filterMap Event.item?
  codeStart := s.codeStart

/-- The remarks of an assembly in order, and its program. -/
structure Result where
  remarks : List Remark
  program : Except Failure Program

def assembleLines (lines : List Line) : Result :=
  let trace := run {} lines
  let remarks := trace.events.filterMap Event.remark?
  match trace.outcome with
  | .error failure => ⟨remarks, .error failure⟩
  | .ok s =>
    let p := s.program trace.events
    ⟨remarks ++ [.assembled p.instructions.length p.labels.length p.constants.length p.items.length], .ok p⟩

def assemble (t : Text) : Result := assembleLines (Source.number (Text.lines t))

end AsmCheck.Assembly
