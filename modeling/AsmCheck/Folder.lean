import AsmCheck.Path
import AsmCheck.Text.Quoted

/-! A file system held as a value, as it is seen from a working folder: files and folders by their path from the
root, and the home folders of users. -/

set_option autoImplicit false

namespace AsmCheck

inductive FileFault where
  | missing
  | notFolder
  | isFolder
  | nameTooLong
  deriving DecidableEq, Repr

def FileFault.message : FileFault → Text
  | .missing => "[Errno 2] No such file or directory"
  | .notFolder => "[Errno 20] Not a directory"
  | .isFolder => "[Errno 21] Is a directory"
  | .nameTooLong => "[Errno 36] File name too long"

/-- A file that cannot be opened, under the path by which it was asked for. -/
structure FileError where
  fault : FileFault
  path : Text
  deriving DecidableEq, Repr

def FileError.message (e : FileError) : Text := e.fault.message ++ ": " ++ Text.quoted e.path

def decodeUtf8? (bytes : ByteArray) : Option Text := (String.fromUTF8? bytes).map Text.ofString

/-- The text of a file in UTF-8, with every line ending as a line feed. -/
def decodeText? (bytes : ByteArray) : Option Text := (decodeUtf8? bytes).map Text.normalizeBreaks

def encodeText (t : Text) : ByteArray := t.render.toUTF8

inductive Entry where
  | folder
  | file (bytes : ByteArray)

/-- The working folder by its place, with all files. The home of the caller is listed under the empty name. -/
structure Folder where
  location : Text
  entries : List (Path × Entry)
  homes : List (Text × Text) := []

namespace Folder

/-- The path of the working folder. -/
def here (folder : Folder) : Path := Path.follow [] (Path.names folder.location)

/-- Where the names of a path start from. -/
def start (folder : Folder) (t : Text) : Path := if Path.isAbsolute t then [] else folder.here

/-- A path above an entry or above the working folder is a folder even if it has no entry of its own. -/
def find? (folder : Folder) (path : Path) : Option Entry :=
  match folder.entries.find? (path.isSame ·.1) with
  | some found => some found.2
  | none => if path.isAbove folder.here || folder.entries.any (path.isAbove ·.1) then some .folder else none

def read (folder : Folder) (path : Path) : Except FileFault ByteArray :=
  match folder.find? path with
  | none => .error .missing
  | some .folder => .error .isFolder
  | some (.file bytes) => .ok bytes

/-- Go on from a path by names; every name has to stand in a folder. -/
def descend (folder : Folder) (path : Path) : List Text → Except FileFault Path
  | [] => .ok path
  | name :: rest => match folder.find? path with
    | none => .error .missing
    | some (.file _) => .error .notFolder
    | some .folder =>
      if Path.isHere name then folder.descend path rest
      else if Path.isParent name then folder.descend path.dropLast rest
      else if Path.nameLimit < Path.byteLength name then .error .nameTooLong
      else folder.descend (path ++ [name]) rest

def locate (folder : Folder) (t : Text) : Except FileFault Path :=
  if Path.pathLimit < Path.byteLength t then .error .nameTooLong
  else folder.descend (folder.start t) (Path.names t)

def openFile (folder : Folder) (t : Text) : Except FileFault ByteArray := do
  folder.read (← folder.locate t)

/-- Open what a path stands for by its spelling: a parent takes away the name before it, even if that name is
not there. -/
def openResolved (folder : Folder) (t : Text) : Except FileFault ByteArray := do
  if Path.pathLimit < Path.byteLength (Path.resolve folder.location t) then .error .nameTooLong
  else folder.read (← folder.descend [] (Path.follow (folder.start t) (Path.names t)))

/-- The home of a user, without slashes at its end unless it is the root. -/
def home? (folder : Folder) (user : Text) : Option Text :=
  (folder.homes.lookup user).map fun home =>
    let bare := (home.reverse.dropWhile Path.isSlash).reverse
    if bare.isEmpty then "/" else bare

/-- Put the home of a user in the place of a tilde in front of a path. A home that starts with a tilde is none. -/
def expand (folder : Folder) (t : Text) : Except Fault Text :=
  match Path.user? t with
  | none => .ok t
  | some user => match Path.fault? user with
    | some fault => .error fault
    | none => match folder.home? user with
      | none | some ('~' :: _) => .error .homeUnknown
      | some home => .ok (Text.join "/" (home :: ((Path.names t).filter (!Path.isHere ·)).drop 1))

/-- The path to look for, from the root or from the working folder. Its names are handed over one by one. -/
def reach (folder : Folder) (t : Text) : Except Fault Text := do
  let path ← folder.expand t
  match (Path.names path).findSome? Path.fault? with
  | some fault => .error fault
  | none => .ok path

def put (folder : Folder) (path : Path) (entry : Entry) : Folder :=
  { folder with entries := folder.entries.filter (!path.isSame ·.1) ++ [(path, entry)] }

/-- Remove a file; the folder that held it stays. -/
def remove (folder : Folder) (path : Path) : Folder :=
  { folder with entries := folder.entries.filter (!path.isSame ·.1) ++ [(path.dropLast, .folder)] }

/-- Put a file under a name of a folder. -/
def putFile (folder : Folder) (holder : Path) (name : Text) (bytes : ByteArray) : Except FileFault Folder :=
  if Path.isHere name || Path.isParent name then .error .isFolder
  else if Path.nameLimit < Path.byteLength name then .error .nameTooLong
  else match folder.find? (holder ++ [name]) with
    | some .folder => .error .isFolder
    | _ => .ok (folder.put (holder ++ [name]) (.file bytes))

/-- Write a file; the folder it goes to has to be there. A slash at the end asks for a folder. -/
def writeFile (folder : Folder) (t : Text) (bytes : ByteArray) : Except FileFault Folder :=
  if Path.pathLimit < Path.byteLength t then .error .nameTooLong
  else match (Path.names t).reverse.dropWhile List.isEmpty with
    | [] => .error .isFolder
    | last :: before => do
      let holder ← folder.descend (folder.start t) before.reverse
      match folder.find? holder with
      | none => .error .missing
      | some (.file _) => .error .notFolder
      | some .folder => if t.getLast? = some '/' then .error .isFolder else folder.putFile holder last bytes

/-- The names of what stands directly in a folder. -/
def children (folder : Folder) (path : Path) : List Text :=
  Text.sorted ((folder.here :: folder.entries.map Prod.fst).filterMap fun p =>
    if path.isAbove p then p[path.length]? else none)

end Folder

end AsmCheck
