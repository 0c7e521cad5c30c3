import AsmCheck.Fault
import AsmCheck.Text.Basic

/-! Paths as they are spelled. A path is a sequence of names divided by slashes, and it is absolute if a
slash stands in front. -/

set_option autoImplicit false

namespace AsmCheck

/-- Names from a folder down; the empty path is the folder itself. -/
abbrev Path := List Text

namespace Path

def names (t : Text) : List Text := Text.splitOn '/' t

def isSlash (c : CodePoint) : Bool := c == '/'

def isAbsolute (t : Text) : Bool := t.head?.any isSlash

/-- An empty name and a single point stay where they are. -/
def isHere (name : Text) : Bool := name.isEmpty || name == "."

def isParent (name : Text) : Bool := name == ".."

/-- The bytes by which the file system knows a code point. A surrogate between U+DC80 and U+DCFF stands for a byte
that belongs to no character, and the others stand for nothing. -/
def bytesOf? : CodePoint → Option (List UInt8)
  | .scalar c => some (String.utf8EncodeChar c)
  | .surrogate index => if 0x480 ≤ index.val ∧ index.val < 0x500 then some [UInt8.ofNat (index.val - 0x400)] else none

def bytes (t : Text) : List UInt8 := t.flatMap fun c => (bytesOf? c).getD []

def byteLength (t : Text) : Nat := (bytes t).length

/-- Two paths are one if their bytes are. -/
def isSame (path other : Path) : Bool := path.map bytes == other.map bytes

def isAbove (path other : Path) : Bool := (path.map bytes).isPrefixOf (other.map bytes)

/-- The greatest number of bytes in a name. -/
def nameLimit : Nat := 255

/-- The greatest number of bytes in a path. -/
def pathLimit : Nat := 4095

/-- Why a path cannot even be handed over to the file system. -/
def fault? (t : Text) : Option Fault :=
  if t.any fun c => (bytesOf? c).isNone then some .unencodable
  else if t.any (·.toNat == 0) then some .nulInPath
  else none

/-- The user whose home folder a tilde in front of a relative path asks for. The caller needs no name. -/
def user? (t : Text) : Option Text :=
  if isAbsolute t then none
  else match (names t).find? (!isHere ·) with
    | some ('~' :: user) => some user
    | _ => none

/-- The slashes in front of a path. Two of them are kept, any other number counts as one. -/
def front (t : Text) : Text :=
  match t.takeWhile isSlash with
  | [] => []
  | ['/', '/'] => ['/', '/']
  | _ => ['/']

/-- A path without names that lead nowhere. -/
def tidy (t : Text) : Text :=
  let kept := (names t).filter (!isHere ·)
  if kept.isEmpty && (front t).isEmpty then "." else front t ++ Text.join "/" kept

/-- Follow names from a path by their spelling alone. Nothing lies above the start. -/
def follow (path : Path) : List Text → Path
  | [] => path
  | name :: rest =>
    if isHere name then follow path rest
    else if isParent name then follow path.dropLast rest
    else follow (path ++ [name]) rest

/-- The path from the root that a path stands for in a folder. -/
def resolve (folder t : Text) : Text :=
  let full := if isAbsolute t then t else folder ++ "/" ++ t
  (if isAbsolute full then "/" else "") ++ Text.join "/" (follow [] (names full))

end Path

end AsmCheck
