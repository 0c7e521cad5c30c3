import AsmCheck.Source.Statement

/-! Numbered source lines and places in them. Lines and columns count from zero. -/

set_option autoImplicit false

namespace AsmCheck

/-- A place from one column of a line to another column of the same or another line. -/
structure Range where
  startLine : Int
  startColumn : Nat
  endLine : Int
  endColumn : Nat
  deriving DecidableEq, Repr

/-- The element at a position; a negative position counts back from the end. -/
def atPosition? {α : Type} (l : List α) (position : Int) : Option α :=
  if 0 ≤ position then l[position.toNat]?
  else if position.natAbs ≤ l.length then l[l.length - position.natAbs]?
  else none

namespace Source

/-- A semicolon, white space and then the marker as a word, anywhere in the line. -/
def hasMarker (marker : Text) : Text → Bool
  | [] => false
  | c :: rest =>
    (c == ';' && marker.isPrefixOf (Text.trimStart rest) &&
      Text.endsWord ((Text.trimStart rest).drop marker.length)) || hasMarker marker rest

def ignoresItself (line : Text) : Bool := hasMarker "asm-ignore" line

def ignoresNext (line : Text) : Bool := hasMarker "asm-disable-next-line" line

/-- A line of a source text, with its statement and whether warnings on it are muted. -/
structure Line where
  index : Nat
  text : Text
  statement : Statement
  muted : Bool

def Line.label? (line : Line) : Option Text := line.statement.label?

def numberFrom (previous : Option Text) (index : Nat) : List Text → List Line
  | [] => []
  | t :: rest =>
    ⟨index, t, classify t, ignoresItself t || previous.any ignoresNext⟩ :: numberFrom (some t) (index + 1) rest

def number (texts : List Text) : List Line := numberFrom none 0 texts

/-- The column of the first character of a line that is not blank. -/
def startColumn (t : Text) : Nat := if Text.isBlank t then 0 else Text.indent t

def endColumn (t : Text) : Nat := (Text.trimEnd t).length

def Line.rangeTo (first last : Line) : Range :=
  ⟨first.index, startColumn first.text, last.index, endColumn last.text⟩

def Line.range (line : Line) : Range := line.rangeTo line

/-- The range over whole lines, from one to another, if both are there. -/
def span? (texts : List Text) (first last : Int) : Option Range := do
  let start ← atPosition? texts first
  let stop ← atPosition? texts last
  some ⟨first, startColumn start, last, endColumn stop⟩

end Source

end AsmCheck
