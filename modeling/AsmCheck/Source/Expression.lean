import AsmCheck.Source.Literal

/-! Additive expressions over numbers, quoted characters and names. Signs may be repeated before a
term, and each minus among them turns the sign. -/

set_option autoImplicit false

namespace AsmCheck.Source

open Numeral (TooLong)

inductive Token where
  | plus
  | minus
  | term (t : Text)
  deriving DecidableEq

def inTerm (c : CodePoint) : Bool := !Text.isSpace c && c != '+' && c != '-'

/-- A closed quoted part is a term of its own; any other term runs up to white space or a sign. -/
def tokens : Text → List Token
  | [] => []
  | c :: rest =>
    if Text.isSpace c then tokens rest
    else if c = '+' then .plus :: tokens rest
    else if c = '-' then .minus :: tokens rest
    else
      match _h : if isQuote c then closeQuote? c rest else none with
      | some (inside, after) => .term (c :: (inside ++ [c])) :: tokens after
      | none => .term (c :: rest.takeWhile inTerm) :: tokens (rest.dropWhile inTerm)
termination_by t => t.length
decreasing_by
  · simp
  · simp
  · simp
  · split at _h
    · have := length_of_closeQuote? _h
      simp only [List.length_cons]
      omega
    · simp at _h
  · have := length_dropWhile_le inTerm rest
    simp only [List.length_cons]
    omega

/-- Of white space a quoted term may hold the plain space only. -/
def Token.isPlain : Token → Bool
  | .term t => t.all fun c => c == ' ' || !Text.isSpace c
  | _ => true

def termValue (resolve : Text → Option Int) (t : Text) : Except TooLong (Option Int) := do
  match ← number? t with
  | some n => .ok (some n)
  | none => match charCode? t with
    | some code => .ok (some code)
    | none => .ok (resolve t)

/-- Add up terms. While a term is due, `due` is the sign it will have. -/
def sumTokens (resolve : Text → Option Int) (total : Int) (due : Option Int) :
    List Token → Except TooLong (Option Int)
  | [] => .ok (if due.isSome then none else some total)
  | .plus :: rest => sumTokens resolve total (some (due.getD 1)) rest
  | .minus :: rest => sumTokens resolve total (some (-(due.getD 1))) rest
  | .term t :: rest => match due with
    | none => .ok none
    | some sign => do
      match ← termValue resolve t with
      | none => .ok none
      | some v => sumTokens resolve (total + sign * v) none rest

/-- The value of an expression whose names have the values that `resolve` gives. -/
def evaluate (resolve : Text → Option Int) (t : Text) : Except TooLong (Option Int) :=
  if (tokens t).all Token.isPlain then sumTokens resolve 0 (some 1) (tokens t) else .ok none

end AsmCheck.Source
