import AsmCheck.Source.Quote

/-! A text cut into quoted parts, words and single characters. A quote without a partner is a
character like any other here. -/

set_option autoImplicit false

namespace AsmCheck.Source

/-- A label may hold points, dollar and at signs. -/
def isNameChar (c : CodePoint) : Bool := c.isAlphanum || c == '_' || c == '.' || c == '$' || c == '@'

def isNameStart (c : CodePoint) : Bool := isNameChar c && !c.isDigit

inductive Piece where
  | quoted (quote : CodePoint) (inside : Text)
  | word (letters : Text)
  | other (c : CodePoint)
  deriving DecidableEq

def Piece.text : Piece → Text
  | .quoted q inside => q :: (inside ++ [q])
  | .word letters => letters
  | .other c => [c]

/-- Words are as long as they can be. -/
def pieces : Text → List Piece
  | [] => []
  | c :: rest =>
    if isQuote c then
      match _h : closeQuote? c rest with
      | some (inside, after) => .quoted c inside :: pieces after
      | none => .other c :: pieces rest
    else if isNameChar c then .word (c :: rest.takeWhile isNameChar) :: pieces (rest.dropWhile isNameChar)
    else .other c :: pieces rest
termination_by t => t.length
decreasing_by
  · have := length_of_closeQuote? _h
    simp only [List.length_cons]
    omega
  · simp
  · have := length_dropWhile_le isNameChar rest
    simp only [List.length_cons]
    omega
  · simp

/-- The text without its quoted parts. -/
def unquoted (t : Text) : Text :=
  (pieces t).flatMap fun
    | .quoted _ _ => []
    | piece => piece.text

end AsmCheck.Source
