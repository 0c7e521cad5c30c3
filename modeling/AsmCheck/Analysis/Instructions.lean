import AsmCheck.Analysis.Symbols
import AsmCheck.Source.Expression
import AsmCheck.Text.Digit

/-! Checking statements against an instruction set, the active section and the symbols of the whole
text. -/

set_option autoImplicit false

namespace AsmCheck.Analysis

open Source (Line Section Statement Width)
open Numeral (TooLong)

/-- Memory references, numbers and quoted texts are not taken for registers. -/
def isNotRegister (operand : Text) : Bool :=
  let bare := Text.dropLastFeed operand
  match operand with
  | '[' :: _ | '-' :: _ | '\'' :: _ | '"' :: _ => true
  | '0' :: 'x' :: _ | '0' :: 'X' :: _ | '0' :: 'b' :: _ | '0' :: 'B' :: _ => true
  | _ => !bare.isEmpty && bare.all Text.isDigit

/-- Two or three capital letters, with or without an E in front. -/
def hasRegisterShape (t : Text) : Bool :=
  let bare := Text.dropLastFeed t
  bare.all CodePoint.isUpper &&
    (bare.length == 2 || bare.length == 3 || (bare.length == 4 && bare.head? == some 'E'))

def isInvalidRegister (set : InstructionSet) (symbols : Symbols) (operand : Text) : Bool :=
  !isNotRegister operand && hasRegisterShape (Text.upper operand) &&
    !set.isRegister (Text.upper operand) && !symbols.knows operand

def isHexNumber : Text → Bool
  | '0' :: 'x' :: _ | '0' :: 'X' :: _ => true
  | _ => false

def isUndefinedTarget (set : InstructionSet) (symbols : Symbols) (target : Text) : Bool :=
  !isHexNumber target && !set.isRegister target && !symbols.knows target

/-- A known name stands for some number. -/
def Symbols.resolve (symbols : Symbols) (name : Text) : Option Int := if symbols.knows name then some 0 else none

def isInvalidValue (symbols : Symbols) (operand : Text) : Except TooLong Bool :=
  if Source.isString operand then .ok false
  else do .ok (← Source.evaluate symbols.resolve operand).isNone

def selectM {α ε : Type} (test : α → Except ε Bool) : List α → Except ε (List α)
  | [] => .ok []
  | a :: rest => do
    let found ← test a
    let more ← selectM test rest
    .ok (if found then a :: more else more)

def invalidValues (symbols : Symbols) (rest : Text) : Except TooLong (List Text) :=
  selectM (isInvalidValue symbols) (Source.operands rest)

def instructionIssues (set : InstructionSet) (symbols : Symbols) (mnemonic : Text) (operands : List Text) : List Issue :=
  match set.get? mnemonic with
  | none => [.unknownInstruction mnemonic]
  | some operation =>
    if operation.arity.accepts operands.length then
      let registers := (operands.filter (isInvalidRegister set symbols)).map fun operand =>
        Issue.invalidRegister operand set.registerNames
      let targets := if operation.branch then
          (operands.head?.toList.filter (isUndefinedTarget set symbols)).map Issue.undefinedTarget
        else []
      registers ++ targets
    else [.operandCount mnemonic operation.arity operands.length]

def statementIssues (set : InstructionSet) (symbols : Symbols) (active : Section) :
    Statement → Except TooLong (List Issue)
  | .malformedConstant => .ok [.malformedConstant]
  | .data _ width rest => match active with
    | .code => .ok [.dataInCode width]
    | .data =>
      if rest.isEmpty then .ok [.valueMissing width]
      else do .ok ((← invalidValues symbols rest).map fun item => .valueInvalid item width)
  | .instruction label mnemonic rest => match active with
    | .code => .ok (instructionIssues set symbols mnemonic (Source.operands rest))
    | .data => match label with
      | some name => .ok [.codeAfterDataLabel mnemonic name]
      | none => .ok [.codeInData mnemonic]
  | _ => .ok []

/-- The section active after a statement. -/
def sectionAfter (active : Section) : Statement → Section
  | .enter sec => sec
  | _ => active

def checkInstructionsFrom (set : InstructionSet) (symbols : Symbols) (active : Section) :
    List Line → Except TooLong (List Report)
  | [] => .ok []
  | line :: rest => do
    let issues ← statementIssues set symbols active line.statement
    let more ← checkInstructionsFrom set symbols (sectionAfter active line.statement) rest
    .ok (issues.map (⟨line.range, ·⟩) ++ more)

def checkInstructions (set : InstructionSet) (symbols : Symbols) (lines : List Line) :
    Except TooLong (List Report) :=
  checkInstructionsFrom set symbols .code lines

end AsmCheck.Analysis
