import AsmCheck.Text.Upper

/-! An instruction set: its registers, its flags, and its operations with the number of operands that
each of them takes. Names are found in any case of their letters. -/

set_option autoImplicit false

namespace AsmCheck

/-- A whole number of a table. The truth values stand for one and zero and keep their spelling. -/
inductive Whole where
  | int (n : Int)
  | bool (b : Bool)
  deriving DecidableEq, Repr

def Whole.value : Whole → Int
  | .int n => n
  | .bool b => if b then 1 else 0

def Whole.text : Whole → Text
  | .int n => Text.ofInt n
  | .bool b => if b then "True" else "False"

/-- The least and the greatest number of operands. -/
structure Arity where
  minimum : Whole
  maximum : Whole
  deriving DecidableEq, Repr

namespace Arity

def exactly (n : Nat) : Arity := ⟨.int n, .int n⟩

def between (least greatest : Nat) : Arity := ⟨.int least, .int greatest⟩

def accepts (arity : Arity) (count : Int) : Bool := arity.minimum.value ≤ count && count ≤ arity.maximum.value

/-- What to say of a number of operands that is not accepted. -/
def complaint (arity : Arity) (mnemonic : Text) (count : Int) : Text :=
  let least := arity.minimum.value
  let greatest := arity.maximum.value
  let found : Text := ", found " ++ Text.ofInt count
  if least = greatest ∧ greatest = 0 then mnemonic ++ " does not take operands" ++ found
  else if least = greatest then
    mnemonic ++ " requires exactly " ++ arity.minimum.text ++ (if least = 1 then " operand" else " operands") ++ found
  else
    let joint : Text := if greatest - least = 1 then " or " else " to "
    mnemonic ++ " requires " ++ arity.minimum.text ++ joint ++ arity.maximum.text ++ " operands" ++ found

def complaint? (arity : Arity) (mnemonic : Text) (count : Int) : Option Text :=
  if arity.accepts count then none else some (arity.complaint mnemonic count)

end Arity

structure Operation where
  mnemonic : Text
  summary : Text
  usage : Text
  arity : Arity
  branch : Bool
  flags : List Text
  sample : Text
  cycles : Int
  deriving DecidableEq, Repr

/-- A register or a flag. -/
structure Described where
  name : Text
  description : Text
  deriving DecidableEq, Repr

structure InstructionSet where
  version : Whole
  name : Text
  description : Text
  registers : List Described
  flags : List Described
  operations : List Operation
  deriving DecidableEq, Repr

namespace InstructionSet

def get? (set : InstructionSet) (mnemonic : Text) : Option Operation :=
  set.operations.find? (·.mnemonic = Text.upper mnemonic)

def mnemonics (set : InstructionSet) : List Text := set.operations.map Operation.mnemonic

def registerNames (set : InstructionSet) : List Text := set.registers.map Described.name

def isRegister (set : InstructionSet) (name : Text) : Bool := Text.upper name ∈ set.registerNames

def isBranch (set : InstructionSet) (mnemonic : Text) : Bool := (set.get? mnemonic).any Operation.branch

end InstructionSet

end AsmCheck
