import AsmCheck.Bindings
import AsmCheck.Numeral

/-! JSON values. A number written with a fraction or an exponent is never an integer, whatever its
value, so it keeps the text it was written with. -/

set_option autoImplicit false

namespace AsmCheck

inductive Json where
  | null
  | bool (value : Bool)
  | int (value : Int)
  | real (literal : Text)
  | str (value : Text)
  | arr (items : List Json)
  | obj (members : List (Text × Json))

namespace Json

def member? (value : Json) (name : Text) : Option Json :=
  match value with
  | .obj members => Bindings.get? members name
  | _ => none

def isExponentMark (c : CodePoint) : Bool := c == 'e' || c == 'E'

/-- The number of digits after the point and the exponent of a real literal. -/
def scale (literal : Text) : Nat × Int :=
  let mantissa := literal.takeWhile (!isExponentMark ·)
  let places := Text.after '.' mantissa
  let exponent := (literal.dropWhile (!isExponentMark ·)).drop 1
  let size : Int := Numeral.value 10 (exponent.filterMap Numeral.decimalDigit?)
  (places.length, if exponent.head? = some '-' then -size else size)

/-- A real literal stands for the nearest double. That is zero up to half of the least positive
double, which is the power 1075 of one half. -/
def isZeroLiteral (literal : Text) : Bool :=
  let mantissa := literal.takeWhile (!isExponentMark ·)
  let digits := mantissa.filterMap Numeral.decimalDigit?
  let significand := Numeral.value 10 digits
  let power := (scale literal).2 - (scale literal).1
  if digits.isEmpty then false
  else if significand = 0 then true
  else if 0 ≤ power then false
  else if digits.length + power < -330 then true
  else significand * Nat.pow 2 1075 ≤ Nat.pow 10 power.natAbs

/-- Whether a value counts as given: null, false, zero and everything empty do not. -/
def isGiven : Json → Bool
  | .null => false
  | .bool b => b
  | .int n => n != 0
  | .real literal => !isZeroLiteral literal
  | .str t => !t.isEmpty
  | .arr items => !items.isEmpty
  | .obj members => !members.isEmpty

end Json

end AsmCheck
