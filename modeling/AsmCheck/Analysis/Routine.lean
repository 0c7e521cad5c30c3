import AsmCheck.Analysis.Issue

/-! Routines: the stretches of a source text from one called label to the next, and what their
instructions do to the stack and to the registers that a routine has to keep. -/

set_option autoImplicit false

namespace AsmCheck.Analysis

open Source (Line)

/-- Labels at which a program is entered, in lower case. -/
def entryNames : List Text := ["main", "start", "_start"]

def isEntryName (name : Text) : Bool := name.map CodePoint.toLower ∈ entryNames

/-- Registers whose value a routine hands back as it found it. -/
def keptRegisters : List Text := ["EBX", "ESI", "EDI", "EBP"]

def conditionalMoves : List Text := [
  "CMOVE", "CMOVZ", "CMOVNE", "CMOVNZ", "CMOVL", "CMOVLE", "CMOVG", "CMOVGE",
  "CMOVA", "CMOVAE", "CMOVB", "CMOVBE", "CMOVS", "CMOVNS"]

def plainWriters : List Text := [
  "ADD", "SUB", "INC", "DEC", "AND", "OR", "XOR", "SHL", "SHR", "MOV",
  "MUL", "DIV", "IMUL", "IDIV", "MOD", "NEG", "NOT", "RAND", "RCL", "RCR",
  "XADD", "BSF", "BSR", "BSWAP", "SAHF"]

/-- Instructions that write to their first operand. -/
def writers : List Text := plainWriters ++ conditionalMoves

/-- The known label that a call instruction calls. -/
def calledLabel? (known : List Text) (line : Line) : Option Text :=
  if line.statement.isInstruction ["CALL"] then line.statement.operands.head?.filter (· ∈ known) else none

def entryLabel? (line : Line) : Option Text := line.label?.filter isEntryName

/-- The labels at which routines start: entry labels, and known labels that are called. -/
def routineLabels (known : List Text) (lines : List Line) : List Text :=
  lines.flatMap fun line => (entryLabel? line).toList ++ (calledLabel? known line).toList

/-- A line that starts a routine, and the lines up to the next such line. -/
structure Stretch where
  head : Line
  body : List Line

def startsAt (labels : List Text) (line : Line) : Bool := line.label?.any (· ∈ labels)

def stretches (labels : List Text) : List Line → List Stretch
  | [] => []
  | line :: rest =>
    if startsAt labels line then ⟨line, rest.takeWhile (!startsAt labels ·)⟩ :: stretches labels rest
    else stretches labels rest

structure Routine where
  name : Text
  first : Line
  last : Line
  begun : Bool := false
  prologuePush : Option Line := none
  prologueMove : Option Line := none
  epiloguePop : Option Line := none
  pushes : Nat := 0
  pops : Nat := 0
  calls : List Nat := []
  returns : List Nat := []
  modified : List Text := []
  saved : List Text := []

namespace Routine

def isEntry (r : Routine) : Bool := isEntryName r.name

def addNew (register : Text) (registers : List Text) : List Text :=
  if register ∈ registers then registers else registers ++ [register]

def save (r : Routine) (register : Text) : Routine :=
  if register ∈ keptRegisters then { r with saved := addNew register r.saved } else r

/-- The frame pointer is kept by the prologue and does not count as modified. -/
def modify (r : Routine) (register : Text) : Routine :=
  if register ∈ keptRegisters ∧ register ≠ "EBP" then { r with modified := addNew register r.modified } else r

def recordPush (r : Routine) (line : Line) (target : Text) : Routine :=
  let counted := { r with pushes := r.pushes + 1 }
  let opened := if target = "EBP" ∧ !r.begun then { counted with prologuePush := some line } else counted
  opened.save target

def recordPop (r : Routine) (line : Line) (target : Text) : Routine :=
  let counted := { r with pops := r.pops + 1 }
  if target = "EBP" then { counted with epiloguePop := some line } else counted

def recordMove (r : Routine) (line : Line) (target source : Text) : Routine :=
  let framed := if target = "EBP" ∧ source = "ESP" ∧ r.prologuePush.isSome
    then { r with prologueMove := some line } else r
  framed.modify target

/-- Take note of an instruction, with its operands in upper case. -/
def recordInstruction (r : Routine) (line : Line) (mnemonic : Text) (operands : List Text) : Routine :=
  let target := operands.head?.getD []
  if mnemonic = "PUSH" then r.recordPush line target
  else if mnemonic = "POP" then r.recordPop line target
  else if mnemonic = "CALL" then { r with calls := r.calls ++ [line.index] }
  else if mnemonic = "RET" then { r with returns := r.returns ++ [line.index] }
  else match mnemonic == "MOV", operands with
    | true, target :: source :: _ => r.recordMove line target source
    | _, target :: _ => if mnemonic ∈ writers then r.modify target else r
    | _, [] => r

def record (r : Routine) (line : Line) : Routine :=
  match line.statement with
  | .instruction _ mnemonic rest =>
    { r.recordInstruction line mnemonic ((Source.operands rest).map Text.upper) with begun := true, last := line }
  | _ => { r with last := line }

def ofStretch (s : Stretch) : Routine :=
  s.body.foldl record (record { name := s.head.label?.getD [], first := s.head, last := s.head } s.head)

def unsaved (r : Routine) : List Text := r.modified.filter (· ∉ r.saved)

end Routine

def routines (labels : List Text) (lines : List Line) : List Routine :=
  (stretches labels lines).map Routine.ofStretch

end AsmCheck.Analysis
