import AsmCheck.Bindings
import AsmCheck.Numeral
import AsmCheck.Source.Piece

/-! Constants are put in by text: every word outside quotes that names a constant gives way to the
decimal numeral of its value. A word that starts with a digit names nothing. -/

set_option autoImplicit false

namespace AsmCheck.Program

open Source (Piece pieces isNameStart)
open Numeral (TooLong)

/-- Whether a piece is looked up among the constants. -/
def canName : Piece → Bool
  | .quoted _ _ => true
  | .word letters => letters.head?.any isNameStart
  | .other _ => false

def substitutePiece (constants : Bindings Int) (piece : Piece) : Except TooLong Text :=
  if canName piece then
    match constants.get? piece.text with
    | some v => Numeral.write v
    | none => .ok piece.text
  else .ok piece.text

def substitute (constants : Bindings Int) (t : Text) : Except TooLong Text := do
  let parts ← (pieces t).mapM (substitutePiece constants)
  .ok parts.flatten

end AsmCheck.Program
