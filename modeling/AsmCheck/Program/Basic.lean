import AsmCheck.Bindings
import AsmCheck.Source.Statement

/-! An assembled program: instructions in order, data items with addresses, and the values of labels
and constants. -/

set_option autoImplicit false

namespace AsmCheck

open Source (Width)

structure Instruction where
  line : Nat
  mnemonic : Text
  operands : List Text
  raw : Text
  deriving DecidableEq

/-- Values of one width, one after another from an address. -/
structure DataItem where
  address : Int
  width : Width
  values : List Int
  label : Option Text
  deriving DecidableEq

/-- The address after the last byte of an item. -/
def DataItem.endAddress (item : DataItem) : Int := item.address + item.width.size * item.values.length

structure Program where
  instructions : List Instruction
  labels : Bindings Int
  constants : Bindings Int
  items : List DataItem
  codeStart : Int
  deriving DecidableEq

/-- The numbers of the lines that hold instructions, counted from one. -/
def Program.executableLines (p : Program) : List Nat := p.instructions.map Instruction.line

def Program.instructionAt? (p : Program) (line : Int) : Option Nat :=
  p.instructions.findIdx? fun i => (i.line : Int) == line

end AsmCheck
