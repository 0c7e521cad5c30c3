import AsmCheck.Json.Basic

/-! Writing JSON text in ASCII, on one line or with an indent of two spaces a level. -/

set_option autoImplicit false

namespace AsmCheck.Json

def unitEscape (n : Nat) : Text := '\\' :: 'u' :: Text.padZeros 4 (Text.lowerHex n)

def escapeChar (c : CodePoint) : Text :=
  let n := c.toNat
  if c = '"' ∨ c = '\\' then ['\\', c]
  else if 0x20 ≤ n ∧ n < 0x7F then [c]
  else if n = 0x08 then ['\\', 'b']
  else if n = 0x09 then ['\\', 't']
  else if n = 0x0A then ['\\', 'n']
  else if n = 0x0C then ['\\', 'f']
  else if n = 0x0D then ['\\', 'r']
  else if n < 0x10000 then unitEscape n
  else unitEscape (0xD800 + (n - 0x10000) / 0x400) ++ unitEscape (0xDC00 + (n - 0x10000) % 0x400)

def writeString (t : Text) : Text := '"' :: (t.flatMap escapeChar ++ "\"")

mutual

def write : Json → Text
  | .null => "null"
  | .bool b => if b then "true" else "false"
  | .int n => Text.ofInt n
  | .real literal => literal
  | .str t => writeString t
  | .arr items => "[" ++ Text.join ", " (writeItems items) ++ "]"
  | .obj members => "\x7b" ++ Text.join ", " (writeMembers members) ++ "\x7d"

def writeItems : List Json → List Text
  | [] => []
  | item :: rest => write item :: writeItems rest

def writeMembers : List (Text × Json) → List Text
  | [] => []
  | (name, v) :: rest => (writeString name ++ ": " ++ write v) :: writeMembers rest

end

def lineAt (depth : Nat) : Text := '\n' :: Text.ofChars (List.replicate (2 * depth) ' ')

/-- Pieces on lines of their own between two brackets, which stand together if there is no piece. -/
def bracketed (depth : Nat) (opening closing : Text) (pieces : List Text) : Text :=
  if pieces.isEmpty then opening ++ closing
  else opening ++ lineAt (depth + 1) ++ Text.join ("," ++ lineAt (depth + 1)) pieces ++ lineAt depth ++ closing

mutual

def writeAt (depth : Nat) : Json → Text
  | .null => "null"
  | .bool b => if b then "true" else "false"
  | .int n => Text.ofInt n
  | .real literal => literal
  | .str t => writeString t
  | .arr items => bracketed depth "[" "]" (writeItemsAt (depth + 1) items)
  | .obj members => bracketed depth "\x7b" "\x7d" (writeMembersAt (depth + 1) members)

def writeItemsAt (depth : Nat) : List Json → List Text
  | [] => []
  | item :: rest => writeAt depth item :: writeItemsAt depth rest

def writeMembersAt (depth : Nat) : List (Text × Json) → List Text
  | [] => []
  | (name, v) :: rest => (writeString name ++ ": " ++ writeAt depth v) :: writeMembersAt depth rest

end

def writeIndented (v : Json) : Text := writeAt 0 v

end AsmCheck.Json
