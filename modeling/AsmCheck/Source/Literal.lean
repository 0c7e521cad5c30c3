import AsmCheck.Numeral
import AsmCheck.Source.Quote

/-! Literals: numbers in three bases with an optional minus, and texts between quotes. -/

set_option autoImplicit false

namespace AsmCheck.Source

open Numeral (TooLong)

/-- A hexadecimal or binary numeral with its mark. -/
def basedNumber? : Text → Option Nat
  | '0' :: mark :: rest =>
    if mark = 'x' ∨ mark = 'X' then (Numeral.digits? Numeral.hexDigit? rest).map (Numeral.value 16)
    else if mark = 'b' ∨ mark = 'B' then (Numeral.digits? Numeral.binaryDigit? rest).map (Numeral.value 2)
    else none
  | _ => none

def unsignedNumber? (t : Text) : Except TooLong (Option Nat) :=
  match basedNumber? t with
  | some n => .ok (some n)
  | none => match Numeral.digits? Numeral.decimalDigit? t with
    | some digits => (Numeral.ofDigits digits).map some
    | none => .ok none

/-- White space may stand around the number and after its minus. -/
def number? (t : Text) : Except TooLong (Option Int) :=
  match Text.trim t with
  | '-' :: rest => (unsignedNumber? (Text.trim rest)).map (·.map fun n => -(n : Int))
  | unsigned => (unsignedNumber? unsigned).map (·.map fun n => (n : Int))

/-- What stands between the quotes of a text that is one quoted part. -/
def stringBody? : Text → Option Text
  | [] => none
  | q :: rest =>
    if isQuote q then
      match closeQuote? q rest with
      | some (inside, []) => some inside
      | _ => none
    else none

def isString (t : Text) : Bool := (stringBody? t).isSome

/-- The code point of a single character between quotes. -/
def charCode? (t : Text) : Option Nat :=
  match stringBody? t with
  | some [c] => some c.toNat
  | _ => none

end AsmCheck.Source
