import AsmCheck.Command.Check
import AsmCheck.Editor.Document
import AsmCheck.Editor.Highlight
import AsmCheck.Editor.Problems

/-! The editing window: a document, the panel of its problems, the instruction set in use, and the files
that are opened and saved. Every part that needs the instruction set has it for itself, and a change of
the set goes to all of them. A fault cuts short what is being done, but the window stays and keeps what was
done up to it. -/

set_option autoImplicit false

namespace AsmCheck.Editor

open Analysis (Check)
open Numeral (TooLong)

/-- What the user is shown. -/
inductive Notice where
  | warning (title text : Text)
  | critical (title text : Text)
  | tooltip (text : Option Text)
  deriving DecidableEq, Repr

/-- The editor with what it takes from an instruction set. -/
structure Pane where
  document : Document := {}
  set : InstructionSet
  mnemonics : List Text
  registers : List Text
  words : List Text
  marks : List Mark := []

def Pane.useSet (p : Pane) (set : InstructionSet) : Pane :=
  { p with
    set
    mnemonics := set.mnemonics
    registers := set.registerNames
    words := (Assist.completions set).map Assist.Completion.label }

def Pane.start (set : InstructionSet) : Pane :=
  Pane.useSet { set, mnemonics := [], registers := [], words := [] } set

structure Window where
  folder : Folder
  selection : Selection
  set : InstructionSet
  pane : Pane
  panel : Panel
  version : Nat := 0
  file : Option Text := none
  title : Text := "ASM Studio"
  stateLabel : Text := []
  setLabel : Text := []

namespace Window

def showStatus (w : Window) : Window :=
  let diagnostics := w.panel.problems.diagnostics
  let state : Text := if hasErrors diagnostics then "Errors" else "OK"
  { w with
    stateLabel := state ++ " | " ++ Text.ofNat diagnostics.length ++ " problems"
    setLabel := "Table: " ++ w.set.name }

/-- Everything that shows diagnostics follows the panel. -/
def diagnosticsChanged (w : Window) : Window :=
  showStatus { w with pane := { w.pane with marks := w.pane.document.marks w.panel.problems.diagnostics } }

/-- An analysis that reaches the limit of numerals leaves the window as it was. -/
def analyze (w : Window) : Window × Except Fault Unit :=
  match w.panel.run w.version w.pane.document.text with
  | .error _ => (w, .error .numeral)
  | .ok (panel, true) => (diagnosticsChanged { w with panel }, .ok ())
  | .ok (panel, false) => ({ w with panel }, .ok ())

/-- Give a new instruction set to every part that has one, and then analyse the text. -/
def useSet (w : Window) (set : InstructionSet) : Window × Except Fault Unit :=
  analyze { w with set, panel := w.panel.useSet set, pane := w.pane.useSet set }

def subscriber : Text := "window"

/-- The window takes over each set that it is told of, up to a fault. What others are told does not concern it. -/
def followNotices (w : Window) : Selection.Notices → Window × Except Fault Unit
  | [] => (w, .ok ())
  | (tag, set) :: rest =>
    if tag = subscriber then
      match w.useSet set with
      | (next, .ok ()) => next.followNotices rest
      | (next, .error fault) => (next, .error fault)
    else w.followNotices rest

/-- A window on a selection and the set that is in use there. From then on it is told of every set that is loaded. -/
def startOn (folder : Folder) (selection : Selection) (set : InstructionSet) : Window :=
  (analyze {
    folder
    selection := { selection with subscribers := selection.subscribers ++ [subscriber] }
    set
    pane := Pane.start set
    panel := { problems := { set := some set } } }).1

def start (folder : Folder) : Window :=
  let set := InstructionSet.bundled
  startOn folder { home := .bundled, active := some set, place := some .bundled } set

def setDocument (w : Window) (document : Document) : Window :=
  { w with pane := { w.pane with document }, version := w.version + 1 }

def setText (w : Window) (t : Text) : Window := w.setDocument { text := t }

def moveTo (w : Window) (document : Document) : Window := { w with pane := { w.pane with document } }

def setFile (w : Window) (file : Option Text) : Window :=
  { w with file, title := "ASM Studio - " ++ file.getD "untitled" }

inductive Result where
  | none
  | truth (b : Bool)
  | text (t : Text)
  | words (words : List Text)
  | notUtf8
  deriving DecidableEq, Repr

/-- What a step has to tell: its result, what was shown and what was logged. -/
structure Reply where
  result : Result := .none
  shown : List Notice := []
  log : List Text := []
  deriving DecidableEq, Repr

/-- The window after a step, and what the step has to tell unless a fault has cut it short. -/
abbrev Step := Window × Except Fault Reply

/-- Tell something of what is done, if it was done to the end. -/
def telling (done : Window × Except Fault Unit) (reply : Reply) : Step := (done.1, done.2.map fun _ => reply)

def openFile (w : Window) (path : Text) : Step :=
  if path.isEmpty then (w, .ok {})
  else match Path.fault? path, w.folder.openFile path with
    | some fault, _ => (w, .error fault)
    | none, .error fault => (w, .ok { shown := [.warning "Open Failed" (FileError.message ⟨fault, path⟩)] })
    | none, .ok bytes => match decodeText? bytes with
      | none => (w, .ok { result := .notUtf8 })
      | some t => telling ((w.setText t).setFile (some path)).analyze { log := ["Opened " ++ path] }

/-- A file that is opened for writing is empty, and it stays empty if the text cannot be encoded. -/
def saveTo (w : Window) (path : Text) : Step :=
  let encodable := w.pane.document.text.all CodePoint.isScalar
  let bytes := if encodable then encodeText w.pane.document.text else .empty
  match Path.fault? path, w.folder.writeFile path bytes with
  | some fault, _ => (w, .error fault)
  | none, .error fault => (w, .ok { shown := [.warning "Save Failed" (FileError.message ⟨fault, path⟩)] })
  | none, .ok folder => ({ w with folder }, if encodable then .ok { log := ["Saved " ++ path] } else .error .unencodable)

/-- Without a path nothing is saved. -/
def saveAs (w : Window) (path : Text) : Step :=
  if path.isEmpty then (w, .ok {}) else (w.setFile (some path)).saveTo path

/-- A text that has no file yet is saved under the path that is asked for. -/
def save (w : Window) (path : Text) : Step :=
  match w.file with
  | some file => w.saveTo file
  | none => w.saveAs path

/-- At least four hexadecimal digits, the sign counted among them. -/
def addressText (n : Int) : Text :=
  if n < 0 then '-' :: Text.padZeros 3 (Text.hex n.natAbs) else Text.padZeros 4 (Text.hex n.natAbs)

def programText (s : Command.Summary) : Except TooLong Text := do
  let width ← Numeral.write s.width
  let height ← Numeral.write s.height
  .ok ("Parsed " ++ Text.ofNat s.program.instructions.length ++ " instructions, " ++
    Text.ofNat s.program.labels.length ++ " labels, " ++ Text.ofNat s.program.constants.length ++ " constants, " ++
    Text.ofNat s.program.items.length ++ " data items; code starts at 0x" ++ addressText s.program.codeStart ++
    "; LCD " ++ width ++ "x" ++ height)

/-- Assemble the text, and go to the line that stops it. -/
def assemble (w : Window) : Step :=
  match (Assembly.assemble w.pane.document.text).program with
  | .error .numeral => (w, .error .numeral)
  | .error (.rejected r) =>
    let number := Text.ofNat r.line
    let message := r.cause.message
    (w.moveTo (w.pane.document.jump (r.line - 1)), .ok {
      result := .truth false
      shown := [.critical "Parse Error" ("Line " ++ number ++ ": " ++ message ++ "\n\n" ++ Text.trim r.text)]
      log := ["Parse error (line " ++ number ++ "): " ++ message, "  " ++ r.text] })
  | .ok program => (w, do
    let summary ← Numeral.failWith .numeral (Command.summarize program)
    .ok { result := .truth true, log := [← Numeral.failWith .numeral (programText summary)] })

/-- Take over what a selection has done, with a message if it has used a set. -/
def follow (w : Window) (told : InstructionSet → Text) (done : Selection × Selection.Reply × Selection.Notices) : Step :=
  match done with
  | (selection, .used set, notices) => telling (followNotices { w with selection } notices) { log := [told set] }
  | (_, .failed (.fault .notUtf8), _) => (w, .ok { result := .notUtf8 })
  | (_, .failed (.fault fault), _) => (w, .error fault)
  | (_, .failed error, _) => (w, .ok { shown := [.warning "Mnemonic Table" (error.message?.getD [])] })
  | (selection, _, _) => ({ w with selection }, .ok {})

def loadSet (w : Window) (path : Text) : Step :=
  if path.isEmpty then (w, .ok {})
  else w.follow (fun _ => "Loaded mnemonic table from " ++ path) (w.selection.loadFrom w.folder (.file path))

def reloadSet (w : Window) : Step :=
  w.follow (fun set => "Reloaded mnemonic table " ++ Text.quoted set.name) (w.selection.reload w.folder)

/-- The choices of the filter: everything, or a single check. -/
def filters : List (Option (List Text)) :=
  none :: [Check.labels, .instructions, .flow, .conventions].map fun c => some [c.name]

def chooseFilter (w : Window) (choice : Int) : Step :=
  match atPosition? filters choice with
  | some filter => ({ w with panel := w.panel.setFilter filter }, .ok {})
  | none => (w, .error .noSuchFilter)

def activate (w : Window) (row : Int) : Window :=
  match w.panel.row? row with
  | some d => w.moveTo (w.pane.document.jump d.range.startLine)
  | none => w

/-- The problems of a line and the help on the word at a column. -/
def tooltip (w : Window) (line column : Int) : Option Text :=
  let messages := (w.panel.problems.onLine line).map Diagnostic.message
  let help := Assist.helpAt? w.pane.set ((w.pane.document.block? line).getD []) column
  let parts := messages ++ help.toList.filter (!·.isEmpty)
  if parts.isEmpty then none else some (Text.join "\n\n" parts)

/-- The content of a file as it stands there. -/
def readFile (w : Window) (path : Text) : Result :=
  match w.folder.openFile path with
  | .error _ => .none
  | .ok bytes => match decodeUtf8? bytes with
    | some t => .text t
    | none => .notUtf8

inductive Event where
  | setText (text : Text)
  | analyze
  | assemble
  | newFile
  | openFile (path : Text)
  | save (path : Text)
  | saveAs (path : Text)
  | loadSet (path : Text)
  | reloadSet
  | write (path : Path) (entry : Entry)
  | read (path : Text)
  | chooseFilter (choice : Int)
  | activate (row : Int)
  | jump (line : Int)
  | moveCursor (position : Nat)
  | complete (word : Text)
  | hover (line column : Int)
  | words

def step (w : Window) : Event → Step
  | .setText t => (w.setText t, .ok {})
  | .analyze => telling w.analyze {}
  | .assemble => w.assemble
  | .newFile => ((w.setText []).setFile none, .ok { log := ["New file created."] })
  | .openFile path => w.openFile path
  | .save path => w.save path
  | .saveAs path => w.saveAs path
  | .loadSet path => w.loadSet path
  | .reloadSet => w.reloadSet
  | .write path entry => ({ w with folder := w.folder.put path entry }, .ok {})
  | .read path => (w, .ok { result := w.readFile path })
  | .chooseFilter choice => w.chooseFilter choice
  | .activate row => (w.activate row, .ok {})
  | .jump line => (w.moveTo (w.pane.document.jump line), .ok {})
  | .moveCursor position =>
    let moved := w.moveTo { w.pane.document with cursor := min position w.pane.document.text.length }
    (moved, .ok { result := .text moved.pane.document.typed })
  | .complete word => (w.setDocument (w.pane.document.complete word), .ok {})
  | .hover line column => (w, .ok { shown := [.tooltip (w.tooltip line column)] })
  | .words => (w, .ok { result := .words w.pane.words })

end Window

end AsmCheck.Editor
