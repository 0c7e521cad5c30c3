import AsmCheck.Source.Quote

/-! Operands are divided by commas outside quotes and brackets. Round and square brackets count
together, and a closing bracket without an opening one counts for nothing. -/

set_option autoImplicit false

namespace AsmCheck.Source

/-- Where a scan of operands stands: the open quote and the number of open brackets. -/
structure Nesting where
  quote : Option CodePoint := none
  depth : Nat := 0
  deriving DecidableEq

def Nesting.after (n : Nesting) (c : CodePoint) : Nesting where
  quote := openAfter n.quote c
  depth :=
    if n.quote.isSome then n.depth
    else if c = '[' ∨ c = '(' then n.depth + 1
    else if c = ']' ∨ c = ')' then n.depth - 1
    else n.depth

def Nesting.separates (n : Nesting) (c : CodePoint) : Bool := n.quote.isNone && n.depth == 0 && c == ','

/-- The texts between separating commas, one more than there are such commas. -/
def fieldsFrom (n : Nesting) : Text → List Text
  | [] => [[]]
  | c :: rest =>
    if n.separates c then [] :: fieldsFrom (n.after c) rest
    else Text.consHead c (fieldsFrom (n.after c) rest)

/-- The fields without white space around them, empty ones left out. -/
def operands (t : Text) : List Text :=
  ((fieldsFrom {} t).map Text.trim).filter (!·.isEmpty)

end AsmCheck.Source
