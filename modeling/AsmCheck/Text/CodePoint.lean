/-! Code points. A file in UTF-8 holds characters only, but an escape in JSON may name one half of a
surrogate pair without the other. Such a half is no character, and it is told apart from all of them and
from every other half. -/

set_option autoImplicit false

namespace AsmCheck

/-- A character, or a surrogate that stands alone, by its place among the surrogates. -/
inductive CodePoint where
  | scalar (c : Char)
  | surrogate (index : Fin 2048)
  deriving DecidableEq, Repr

instance : Coe Char CodePoint := ⟨.scalar⟩

namespace CodePoint

def toNat : CodePoint → Nat
  | .scalar c => c.toNat
  | .surrogate index => 0xD800 + index

/-- A number that is no code point gives the character of code zero. -/
def ofNat (n : Nat) : CodePoint :=
  if h : 0xD800 ≤ n ∧ n < 0xE000 then .surrogate ⟨n - 0xD800, by omega⟩ else .scalar (Char.ofNat n)

instance : LT CodePoint := ⟨fun a b => a.toNat < b.toNat⟩

instance : DecidableLT CodePoint := fun a b => inferInstanceAs (Decidable (a.toNat < b.toNat))

def char? : CodePoint → Option Char
  | .scalar c => some c
  | .surrogate _ => none

/-- No surrogate, so that UTF-8 can hold it. -/
def isScalar (c : CodePoint) : Bool := c.char?.isSome

def isDigit (c : CodePoint) : Bool := c.char?.any Char.isDigit

def isAlpha (c : CodePoint) : Bool := c.char?.any Char.isAlpha

def isAlphanum (c : CodePoint) : Bool := c.char?.any Char.isAlphanum

def isUpper (c : CodePoint) : Bool := c.char?.any Char.isUpper

def toUpper : CodePoint → CodePoint
  | .scalar c => .scalar c.toUpper
  | c => c

def toLower : CodePoint → CodePoint
  | .scalar c => .scalar c.toLower
  | c => c

def isHighSurrogate (c : CodePoint) : Bool := 0xD800 ≤ c.toNat && c.toNat < 0xDC00

def isLowSurrogate (c : CodePoint) : Bool := 0xDC00 ≤ c.toNat && c.toNat < 0xE000

/-- The character that a high surrogate and the low one after it stand for. -/
def pair? (high low : CodePoint) : Option CodePoint :=
  if high.isHighSurrogate && low.isLowSurrogate then
    some (ofNat (0x10000 + (high.toNat - 0xD800) * 0x400 + (low.toNat - 0xDC00)))
  else none

end CodePoint

end AsmCheck
