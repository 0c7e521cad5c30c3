import AsmCheck.Program.Basic

/-! The memory image of data items. Values are stored in two's complement with the least significant
byte first, and of two items over one address the later one is seen. -/

set_option autoImplicit false

namespace AsmCheck

/-- Bytes by address, in increasing order of addresses. -/
abbrev Memory := List (Int × UInt8)

def Memory.write (address : Int) (byte : UInt8) : Memory → Memory
  | [] => [(address, byte)]
  | (a, b) :: rest =>
    if address < a then (address, byte) :: (a, b) :: rest
    else if address = a then (a, byte) :: rest
    else (a, b) :: write address byte rest

/-- As many bytes of a number as asked for, the least significant first. -/
def bytesOf : Nat → Int → List UInt8
  | 0, _ => []
  | size + 1, value => UInt8.ofNat (value % 256).toNat :: bytesOf size (value / 256)

/-- One byte after another from an address on. -/
def cellsFrom (address : Int) : List UInt8 → List (Int × UInt8)
  | [] => []
  | byte :: rest => (address, byte) :: cellsFrom (address + 1) rest

def DataItem.bytes (item : DataItem) : List UInt8 := item.values.flatMap (bytesOf item.width.size)

def DataItem.cells (item : DataItem) : List (Int × UInt8) := cellsFrom item.address item.bytes

def memoryImage (items : List DataItem) : Memory :=
  (items.flatMap DataItem.cells).foldl (fun m cell => Memory.write cell.1 cell.2 m) []

end AsmCheck
