import AsmCheck.Text.CodePoint

/-! Text is a list of code points, so a position in it is a count of code points. White space and line
breaks are what every scanner of the library asks of a code point. -/

set_option autoImplicit false

namespace AsmCheck

abbrev Text := List CodePoint

/-- A text of characters only. -/
def Text.ofChars (chars : List Char) : Text := chars.map .scalar

def Text.ofString (s : String) : Text := Text.ofChars s.toList

instance : Coe String Text := ⟨Text.ofString⟩

instance : LawfulBEq Text := inferInstanceAs (LawfulBEq (List CodePoint))

namespace Text

def isSpace (c : CodePoint) : Bool :=
  let n := c.toNat
  (0x09 ≤ n && n ≤ 0x0D) || (0x1C ≤ n && n ≤ 0x20) || n == 0x85 || n == 0xA0 || n == 0x1680 ||
  (0x2000 ≤ n && n ≤ 0x200A) || n == 0x2028 || n == 0x2029 || n == 0x202F || n == 0x205F || n == 0x3000

/-- Every line break is white space; the unit separator and the wide spaces break no line. -/
def isBreak (c : CodePoint) : Bool :=
  let n := c.toNat
  (0x0A ≤ n && n ≤ 0x0D) || (0x1C ≤ n && n ≤ 0x1E) || n == 0x85 || n == 0x2028 || n == 0x2029

def trimStart (t : Text) : Text := t.dropWhile isSpace

def trimEnd (t : Text) : Text := (t.reverse.dropWhile isSpace).reverse

def trim (t : Text) : Text := trimEnd (trimStart t)

def isBlank (t : Text) : Bool := t.all isSpace

/-- The number of white-space characters in front. -/
def indent (t : Text) : Nat := (t.takeWhile isSpace).length

/-- Put a character in front of the first of several pieces. -/
def consHead (c : CodePoint) : List Text → List Text
  | [] => [[c]]
  | piece :: pieces => (c :: piece) :: pieces

/-- The lines of a text without their breaks. A carriage return and the line feed after it are one
break, and a break at the very end starts no further line. -/
def lines : Text → List Text
  | [] => []
  | '\r' :: '\n' :: rest => [] :: lines rest
  | c :: rest => if isBreak c then [] :: lines rest else consHead c (lines rest)

/-- The pieces between separators, one more than there are separators. -/
def splitOn (separator : CodePoint) : Text → List Text
  | [] => [[]]
  | c :: rest => if c = separator then [] :: splitOn separator rest else consHead c (splitOn separator rest)

/-- Each of the three line endings of a text file becomes a line feed. -/
def normalizeBreaks : Text → Text
  | [] => []
  | '\r' :: '\n' :: rest => '\n' :: normalizeBreaks rest
  | c :: rest => (if c = '\r' then '\n' else c) :: normalizeBreaks rest

def ofNat (n : Nat) : Text := ofChars (Nat.toDigits 10 n)

def ofInt (n : Int) : Text := if n < 0 then '-' :: ofNat n.natAbs else ofNat n.natAbs

def lowerHex (n : Nat) : Text := ofChars (Nat.toDigits 16 n)

/-- Hexadecimal digits in capitals. -/
def hex (n : Nat) : Text := (lowerHex n).map CodePoint.toUpper

/-- Fill with zeros in front up to a width. -/
def padZeros (width : Nat) (t : Text) : Text := ofChars (List.replicate (width - t.length) '0') ++ t

def join (separator : Text) (pieces : List Text) : Text := List.intercalate separator pieces

/-- Every line with a line feed after it. -/
def terminated (lines : List Text) : Text := lines.flatMap (· ++ [.scalar '\n'])

/-- What stands before the first occurrence of a code point. -/
def before (stop : CodePoint) (t : Text) : Text := t.takeWhile (· != stop)

/-- What stands after the first occurrence of a code point. -/
def after (stop : CodePoint) (t : Text) : Text := (t.dropWhile (· != stop)).drop 1

/-- A line feed at the very end counts for nothing. -/
def dropLastFeed (t : Text) : Text := if t.getLast? = some '\n' then t.dropLast else t

/-- Some part of the text reads as `part`. -/
def contains (part : Text) : Text → Bool
  | [] => part.isEmpty
  | c :: rest => part.isPrefixOf (c :: rest) || contains part rest

/-- The characters of a text. A surrogate has none, and the escape that names it stands in its place. -/
def chars (t : Text) : List Char :=
  t.flatMap fun
    | .scalar c => [c]
    | .surrogate index => '\\' :: 'u' :: Nat.toDigits 16 (0xD800 + index)

def render (t : Text) : String := String.ofList t.chars

/-- In the order of code points, each text once. -/
def sorted (texts : List Text) : List Text :=
  texts.eraseDups.mergeSort fun a b => !decide (b < a)

end Text

end AsmCheck
