import AsmCheck.Numeral
import AsmCheck.Program.Basic
import AsmCheck.Text.Digit

/-! Guessing the size of the display that a program draws on. Display memory takes the addresses from
0xF000 to 0xFFFF. A constant in that range together with a constant named like a size decides; failing
that, the highest display address in an operand does. -/

set_option autoImplicit false

namespace AsmCheck.Program

open Numeral (TooLong)

def displayStart : Int := 0xF000

def displayEnd : Int := 0xFFFF

def inDisplay (n : Int) : Bool := displayStart ≤ n && n ≤ displayEnd

/-- Parts of names that suggest a size. -/
def sizeHints : List Text := ["GRID", "LCD_W", "LCD_H", "SCREEN", "DISPLAY_SIZE"]

def isSizeName (name : Text) : Bool := sizeHints.any fun hint => Text.contains hint (Text.upper name)

/-- The greatest value of the constants named like a size, or zero. -/
def sizeConstant (constants : Bindings Int) : Int :=
  (constants.filter fun c => isSizeName c.1).foldl (fun best c => max best c.2) 0

/-- Addresses of four hexadecimal digits that start with F, in an upper-cased text. -/
def hexAddresses : Text → List Int
  | [] => []
  | c :: rest =>
    let here : List Int := match c :: rest with
      | '0' :: 'X' :: 'F' :: x :: y :: z :: after =>
        if Text.endsWord after then
          match [x, y, z].mapM Numeral.hexDigit? with
          | some digits => [(Numeral.value 16 (0xF :: digits) : Nat)]
          | none => []
        else []
      | _ => []
    here ++ hexAddresses rest

/-- Runs of decimal digits of any script that are words by themselves. -/
def digitWords (inWord : Bool) : Text → List (List Nat)
  | [] => []
  | c :: rest =>
    let here : List (List Nat) :=
      if !inWord && Text.isDigit c && Text.endsWord (rest.dropWhile Text.isDigit) then
        [((c :: rest).takeWhile Text.isDigit).filterMap Text.digitValue?]
      else []
    here ++ digitWords (Text.isWordChar c) rest

def operandAddresses (operand : Text) : Except TooLong (List Int) := do
  let t := Text.upper operand
  let decimals ← (digitWords false t).mapM Numeral.ofDigits
  .ok (hexAddresses t ++ (decimals.map Int.ofNat).filter inDisplay)

def displayAddresses (p : Program) : Except TooLong (List Int) := do
  let found ← (p.instructions.flatMap Instruction.operands).mapM operandAddresses
  .ok found.flatten

/-- The width and the height of the display. -/
def displaySize (p : Program) : Except TooLong (Int × Int) := do
  let size := sizeConstant p.constants
  if (p.constants.any fun c => inDisplay c.2) && 0 < size then .ok (size, size)
  else
    let addresses ← p.displayAddresses
    if addresses.isEmpty then .ok (8, 8)
    else if addresses.foldl max 0 - displayStart ≥ 256 then .ok (64, 64)
    else .ok (16, 16)

end AsmCheck.Program
