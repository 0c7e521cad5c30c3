import AsmCheck.InstructionSet.Bundled
import AsmCheck.InstructionSet.Load

/-! The instruction set in use. It is loaded from a place, which is kept to load it again, and those
who have subscribed are told of every set that is loaded. -/

set_option autoImplicit false

namespace AsmCheck

/-- Where an instruction set comes from: the library itself, or a file under the path it is asked for by. -/
inductive Place where
  | bundled
  | file (path : Text)
  deriving DecidableEq, Repr

namespace Place

def bundledText : Text := "<default>"

/-- The path from the root, or the path as it is if there is no way to follow it. -/
def text (folder : Folder) : Place → Text
  | .bundled => bundledText
  | .file path => Path.resolve folder.location ((folder.reach path).toOption.getD path)

def load (folder : Folder) : Place → Except InstructionSet.LoadError InstructionSet
  | .bundled => .ok InstructionSet.bundled
  | .file path => match folder.reach path with
    | .error fault => .error (.fault fault)
    | .ok found => InstructionSet.load (Path.resolve folder.location found) (folder.openResolved found)

def isJsonName (name : Text) : Bool := (".json" : Text).isSuffixOf name

/-- The tables that stand beside a file, if the file is there. -/
def siblingsOf (folder : Folder) (path : Path) : List Text :=
  if (folder.find? path).isSome then (folder.children path.dropLast).filter isJsonName else []

def siblings (folder : Folder) : Place → List Text
  | .bundled => ["default_mnemonics.json"]
  | .file path => match folder.locate (Path.tidy path) with
    | .ok found => siblingsOf folder found
    | .error _ => []

end Place

/-- The default place, the set in use with its place, and the subscribers in the order they came. -/
structure Selection where
  home : Place
  active : Option InstructionSet := none
  place : Option Place := none
  subscribers : List Text := []

namespace Selection

/-- Who is told of a set. -/
abbrev Notices := List (Text × InstructionSet)

def notices (s : Selection) : Notices :=
  match s.active with
  | some set => s.subscribers.map fun tag => (tag, set)
  | none => []

inductive Reply where
  | done
  | used (set : InstructionSet)
  | names (names : List Text)
  | failed (error : InstructionSet.LoadError)

/-- Load a set and use it. After a failure everything is as before. -/
def loadFrom (folder : Folder) (s : Selection) (place : Place) : Selection × Reply × Notices :=
  match place.load folder with
  | .error error => (s, .failed error, [])
  | .ok set =>
    let next := { s with active := some set, place := some place }
    (next, .used set, next.notices)

def reload (folder : Folder) (s : Selection) : Selection × Reply × Notices :=
  s.loadFrom folder (s.place.getD s.home)

/-- The set in use; the default one is loaded if there is none. -/
def current (folder : Folder) (s : Selection) : Selection × Reply × Notices :=
  match s.active with
  | some set => (s, .used set, [])
  | none => s.loadFrom folder s.home

def start (folder : Folder) (home : Place) : Selection × Reply :=
  let (s, reply, _) := loadFrom folder { home } home
  (s, reply)

/-- What can be asked of a selection, and what can happen to the files below it. -/
inductive Command where
  | load (path : Text)
  | reload
  | restore
  | current
  | subscribe (tag : Text)
  | announce
  | forget (placeToo : Bool)
  | siblings
  | write (path : Path) (entry : Entry)
  | remove (path : Path)

def step (folder : Folder) (s : Selection) : Command → Folder × Selection × Reply × Notices
  | .load path => (folder, s.loadFrom folder (.file path))
  | .reload => (folder, s.reload folder)
  | .restore => (folder, s.loadFrom folder s.home)
  | .current => (folder, s.current folder)
  | .subscribe tag => (folder, { s with subscribers := s.subscribers ++ [tag] }, .done, [])
  | .announce => (folder, s, .done, s.notices)
  | .forget placeToo => (folder, { s with active := none, place := if placeToo then none else s.place }, .done, [])
  | .siblings => (folder, s, .names (s.home.siblings folder), [])
  | .write path entry => (folder.put path entry, s, .done, [])
  | .remove path => (folder.remove path, s, .done, [])

end Selection

end AsmCheck
