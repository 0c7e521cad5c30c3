import AsmCheck.Diagnostic
import AsmCheck.InstructionSet.Basic

/-! What the checks find. An issue decides its severity, the check it belongs to and its wording. -/

set_option autoImplicit false

namespace AsmCheck.Analysis

open Source (Width)

inductive Issue where
  | duplicateLabel (name : Text) (others : List Nat)
  | repeatedConstant (name : Text) (others : List Nat)
  | malformedConstant
  | dataInCode (width : Width)
  | valueMissing (width : Width)
  | valueInvalid (item : Text) (width : Width)
  | codeAfterDataLabel (keyword label : Text)
  | codeInData (keyword : Text)
  | unknownInstruction (mnemonic : Text)
  | operandCount (mnemonic : Text) (arity : Arity) (count : Nat)
  | invalidRegister (operand : Text) (registers : List Text)
  | undefinedTarget (target : Text)
  | unreachable (mnemonic : Text) (line : Nat)
  | returnOutside
  | prologuePushMissing (routine : Text)
  | prologueMoveMissing (routine : Text)
  | epiloguePopMissing (routine : Text)
  | stackUnbalanced (routine : Text) (pushes pops : Nat)
  | registerUnsaved (routine register : Text)
  | callerCleans (target amount : Text)
  | parameterPush (operand : Text)
  deriving DecidableEq, Repr

namespace Issue

def severity : Issue → Severity
  | .duplicateLabel _ _ | .malformedConstant | .dataInCode _ | .valueMissing _ | .valueInvalid _ _
  | .codeInData _ | .unknownInstruction _ | .operandCount _ _ _ | .invalidRegister _ _ => .error
  | .repeatedConstant _ _ | .codeAfterDataLabel _ _ | .undefinedTarget _ | .unreachable _ _ | .returnOutside
  | .epiloguePopMissing _ | .stackUnbalanced _ _ _ | .registerUnsaved _ _ => .warning
  | .prologuePushMissing _ | .prologueMoveMissing _ => .information
  | .callerCleans _ _ | .parameterPush _ => .hint

end Issue

/-- The checks, by the names that diagnostics carry. -/
inductive Check where
  | labels
  | instructions
  | flow
  | conventions
  deriving DecidableEq, Repr

def Check.name : Check → Text
  | .labels => "asm-labels"
  | .instructions => "asm-validator"
  | .flow => "asm-flow"
  | .conventions => "asm-convention"

namespace Issue

def check : Issue → Check
  | .duplicateLabel _ _ | .repeatedConstant _ _ => .labels
  | .malformedConstant | .dataInCode _ | .valueMissing _ | .valueInvalid _ _ | .codeAfterDataLabel _ _
  | .codeInData _ | .unknownInstruction _ | .operandCount _ _ _ | .invalidRegister _ _ | .undefinedTarget _ =>
    .instructions
  | .unreachable _ _ | .returnOutside => .flow
  | .prologuePushMissing _ | .prologueMoveMissing _ | .epiloguePopMissing _ | .stackUnbalanced _ _ _
  | .registerUnsaved _ _ | .callerCleans _ _ | .parameterPush _ => .conventions

def lineList (numbers : List Nat) : Text := Text.join ", " (numbers.map Text.ofNat)

def message : Issue → Text
  | .duplicateLabel name others =>
    "Duplicate label '" ++ name ++ "' (also defined on line " ++ lineList others ++ ")"
  | .repeatedConstant name others =>
    "Constant '" ++ name ++ "' is defined more than once (also defined on line " ++ lineList others ++
      "); each use sees the most recent definition"
  | .malformedConstant => "Invalid EQU directive format. Expected: NAME EQU value"
  | .dataInCode width => "Data directive '" ++ width.keyword ++ "' is only allowed in the .data section"
  | .valueMissing width => width.keyword ++ " directive requires at least one value"
  | .valueInvalid item width => "Invalid data value '" ++ item ++ "' in " ++ width.keyword ++ " directive"
  | .codeAfterDataLabel keyword label =>
    "Ignored '" ++ keyword ++ "' after data label '" ++ label ++ "'; expected DB, DW or DD"
  | .codeInData keyword => "Expected data directive (DB, DW, DD) in .data section, got '" ++ keyword ++ "'"
  | .unknownInstruction mnemonic => "Unknown instruction '" ++ mnemonic ++ "'"
  | .operandCount mnemonic arity count => arity.complaint mnemonic count
  | .invalidRegister operand registers =>
    "Invalid register '" ++ operand ++ "'. Valid registers are: " ++ Text.join ", " registers
  | .undefinedTarget target => "Label '" ++ target ++ "' is not defined"
  | .unreachable mnemonic line =>
    "Unreachable code: instruction follows " ++ mnemonic ++ " on line " ++ Text.ofNat line
  | .returnOutside => "RET instruction outside of function context (no preceding CALL target)"
  | .prologuePushMissing routine => "Function '" ++ routine ++ "' should start with 'PUSH EBP' (standard prologue)"
  | .prologueMoveMissing routine =>
    "Function '" ++ routine ++ "' should follow 'PUSH EBP' with 'MOV EBP, ESP' (standard prologue)"
  | .epiloguePopMissing routine =>
    "Function '" ++ routine ++ "' has 'PUSH EBP' but missing 'POP EBP' (unbalanced stack)"
  | .stackUnbalanced routine pushes pops =>
    "Function '" ++ routine ++ "' has " ++ Text.ofNat pushes ++ " PUSH but " ++ Text.ofNat pops ++
      " POP (unbalanced stack)"
  | .registerUnsaved routine register =>
    "Function '" ++ routine ++ "' modifies callee-saved register " ++ register ++ " but doesn't save/restore it"
  | .callerCleans target amount =>
    "Call to '" ++ target ++ "' uses cdecl convention (caller cleans stack with ADD ESP, " ++ amount ++ ")"
  | .parameterPush operand =>
    "Pushing parameter '" ++ operand ++ "' for upcoming function call (cdecl/stdcall pattern)"

end Issue

/-- An issue at its place. -/
structure Report where
  range : Range
  issue : Issue
  deriving DecidableEq, Repr

def Report.diagnostic (r : Report) : Diagnostic := ⟨r.issue.severity, r.range, r.issue.message, r.issue.check.name⟩

end AsmCheck.Analysis
