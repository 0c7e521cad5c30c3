import AsmCheck.Text.Basic

/-! Decimal numerals and their limit. Numbers are unbounded, but no decimal numeral of more than 4300
digits is read or written; numerals in other bases have no limit. -/

set_option autoImplicit false

namespace AsmCheck.Numeral

/-- A decimal numeral goes beyond the limit. -/
structure TooLong where
  deriving DecidableEq, Repr

def limit : Nat := 4300

/-- Give way to an error of another kind where a numeral goes beyond the limit. -/
def failWith {ε α : Type} (error : ε) : Except TooLong α → Except ε α
  | .ok a => .ok a
  | .error _ => .error error

/-- The positional value of digits, most significant first. -/
def value (base : Nat) (digits : List Nat) : Nat := digits.foldl (fun total d => total * base + d) 0

def hexDigit? (c : CodePoint) : Option Nat :=
  let n := c.toNat
  if c.isDigit then some (n - '0'.toNat)
  else if 'a'.toNat ≤ n ∧ n ≤ 'f'.toNat then some (n - 'a'.toNat + 10)
  else if 'A'.toNat ≤ n ∧ n ≤ 'F'.toNat then some (n - 'A'.toNat + 10)
  else none

def binaryDigit? (c : CodePoint) : Option Nat :=
  if c = '0' then some 0 else if c = '1' then some 1 else none

def decimalDigit? (c : CodePoint) : Option Nat :=
  if c.isDigit then some (c.toNat - '0'.toNat) else none

/-- The digits of a non-empty text that holds nothing else. -/
def digits? (digit? : CodePoint → Option Nat) (t : Text) : Option (List Nat) :=
  if t.isEmpty then none else t.mapM digit?

/-- The value of decimal digits, leading zeros counted against the limit. -/
def ofDigits (digits : List Nat) : Except TooLong Nat :=
  if limit < digits.length then .error ⟨⟩ else .ok (value 10 digits)

/-- The decimal numeral of a number. -/
def write (n : Int) : Except TooLong Text :=
  if limit < (Text.ofNat n.natAbs).length then .error ⟨⟩ else .ok (Text.ofInt n)

end AsmCheck.Numeral
