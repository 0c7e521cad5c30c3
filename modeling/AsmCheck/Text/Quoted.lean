import AsmCheck.Text.Printable

/-! A text between quotes on one line of printable characters. Single quotes are used unless the text
holds one and holds no double quote. -/

set_option autoImplicit false

namespace AsmCheck.Text

def hexEscape (mark : CodePoint) (width n : Nat) : Text :=
  '\\' :: mark :: padZeros width (lowerHex n)

def escapeChar (quote c : CodePoint) : Text :=
  if c = quote ∨ c = '\\' then ['\\', c]
  else if c = '\t' then ['\\', 't']
  else if c = '\n' then ['\\', 'n']
  else if c = '\r' then ['\\', 'r']
  else if isPrintable c then [c]
  else if c.toNat < 0x100 then hexEscape 'x' 2 c.toNat
  else if c.toNat < 0x10000 then hexEscape 'u' 4 c.toNat
  else hexEscape 'U' 8 c.toNat

def quoteFor (t : Text) : CodePoint := if ('\'' : CodePoint) ∈ t ∧ ('"' : CodePoint) ∉ t then '"' else '\''

def quoted (t : Text) : Text :=
  quoteFor t :: (t.flatMap (escapeChar (quoteFor t)) ++ [quoteFor t])

end AsmCheck.Text
