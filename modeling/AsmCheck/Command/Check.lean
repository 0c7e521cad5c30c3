import AsmCheck.Analysis.Basic
import AsmCheck.Command.Options
import AsmCheck.InstructionSet.Selection
import AsmCheck.Json.Writer
import AsmCheck.Program.Assembly
import AsmCheck.Program.Display

/-! Checking a source file from the command line: what is printed, and the exit code. -/

set_option autoImplicit false

namespace AsmCheck.Command

open Numeral (TooLong)

/-- The characters that a stream can take. Every encoding has those of ASCII. -/
structure Sink where
  takes : CodePoint → Bool
  ascii : ∀ c, c.toNat < 0x80 → takes c = true

namespace Sink

/-- A buffer in memory takes everything. -/
def memory : Sink := ⟨fun _ => true, fun _ _ => rfl⟩

theorem isScalar_of_ascii (c : CodePoint) (small : c.toNat < 0x80) : c.isScalar = true := by
  cases c with
  | scalar c => rfl
  | surrogate index =>
    simp only [CodePoint.toNat] at small
    omega

def utf8 : Sink := ⟨CodePoint.isScalar, isScalar_of_ascii⟩

def takesText (sink : Sink) (t : Text) : Bool := t.all sink.takes

/-- Print lines one after another. The first that holds a character which the stream cannot take is a fault. -/
def print (sink : Sink) (lines : List Text) : Except Fault Text :=
  if lines.all sink.takesText then .ok (Text.terminated lines) else .error .unencodable

end Sink

structure Output where
  exit : Nat
  stdout : Text
  stderr : Text
  deriving DecidableEq, Repr

def exitOk : Nat := 0

def exitErrors : Nat := 1

def exitUnloadable : Nat := 2

def level (verbosity : Nat) : Log.Level :=
  match verbosity with
  | 0 => .warning
  | 1 => .info
  | _ => .debug

/-- The records that the verbosity lets through, as lines. -/
def logLines (options : Options) (records : List Log.Record) : List Text :=
  (records.filter fun r => (level options.verbosity).rank ≤ r.level.rank).map Log.Record.line

def diagnosticLine (source : Text) (d : Diagnostic) : Text :=
  source ++ ":" ++ Text.ofInt (d.range.startLine + 1) ++ ":" ++ Text.ofNat (d.range.startColumn + 1) ++ ": " ++
    d.severity.name ++ ": " ++ d.message ++ " [" ++ d.source ++ "]"

def diagnosticJson (d : Diagnostic) : Json :=
  let place (line : Int) (column : Nat) : Json := .obj [("line", .int line), ("character", .int column)]
  .obj [
    ("severity", .str d.severity.name),
    ("range", .obj [("start", place d.range.startLine d.range.startColumn), ("end", place d.range.endLine d.range.endColumn)]),
    ("message", .str d.message),
    ("source", .str d.source)]

/-- An assembled program with the size of its display. -/
structure Summary where
  program : Program
  width : Int
  height : Int

def bindingsJson (bindings : Bindings Int) : Json := .obj (bindings.map fun p => (p.1, .int p.2))

def itemJson (d : DataItem) : Json := .obj [
  ("address", .int d.address), ("size", .int d.width.size), ("values", .arr (d.values.map .int)),
  ("label", match d.label with | some name => .str name | none => .null)]

def summaryJson (s : Summary) : Json :=
  .obj [
    ("instructions", .int s.program.instructions.length),
    ("labels", bindingsJson s.program.labels),
    ("constants", bindingsJson s.program.constants),
    ("data_items", .arr (s.program.items.map itemJson)),
    ("code_start_address", .int s.program.codeStart),
    ("lcd", .arr [.int s.width, .int s.height])]

/-- The numbers of a summary that have no bound. -/
def Summary.numbers (s : Summary) : List Int :=
  s.program.labels.map Prod.snd ++ s.program.constants.map Prod.snd ++
    s.program.items.flatMap (fun d => d.address :: d.values) ++ [s.program.codeStart, s.width, s.height]

def summaryLine (source : Text) (s : Summary) : Except TooLong Text := do
  let width ← Numeral.write s.width
  let height ← Numeral.write s.height
  .ok (source ++ ": " ++ Text.ofNat s.program.instructions.length ++ " instructions, " ++
    Text.ofNat s.program.labels.length ++ " labels, " ++ Text.ofNat s.program.constants.length ++ " constants, " ++
    Text.ofNat s.program.items.length ++ " data items, LCD " ++ width ++ "x" ++ height)

/-- The diagnostics are out before the summary is put into words. -/
def printText (sink : Sink) (options : Options) (diagnostics : List Diagnostic) (summary : Option Summary) :
    Except Fault Text := do
  let front ← sink.print (diagnostics.map (diagnosticLine options.source))
  let last ← Numeral.failWith .numeral (summary.toList.mapM (summaryLine options.source))
  .ok (front ++ (← sink.print last))

def outputJson (diagnostics : List Diagnostic) (summary : Option Summary) : Json :=
  .obj (("diagnostics", .arr (diagnostics.map diagnosticJson)) ::
    summary.toList.map fun s => ("program", summaryJson s))

def printJson (sink : Sink) (diagnostics : List Diagnostic) (summary : Option Summary) : Except Fault Text := do
  let _ ← Numeral.failWith .numeral ((summary.toList.flatMap Summary.numbers).mapM Numeral.write)
  sink.print [Json.writeIndented (outputJson diagnostics summary)]

def printed (sink : Sink) (options : Options) (diagnostics : List Diagnostic) (summary : Option Summary) :
    Except Fault Text :=
  match options.format with
  | .text => printText sink options diagnostics summary
  | .json => printJson sink diagnostics summary

/-- The diagnostics that are at least as severe as a threshold. -/
def shownDiagnostics (threshold : Severity) (diagnostics : List Diagnostic) : List Diagnostic :=
  diagnostics.filter fun d => d.severity.rank ≤ threshold.rank

def countRecord (options : Options) (diagnostics : List Diagnostic) : Log.Record :=
  ⟨"asmcore.cli", .info, "%s: %d diagnostics", [.text options.source, .number diagnostics.length]⟩

/-- Report diagnostics and a summary; `before` holds what has been logged so far. -/
def finish (sink : Sink) (options : Options) (before : List Text) (diagnostics : List Diagnostic)
    (summary : Option Summary) : Except Fault Output := do
  let stdout ← printed sink options diagnostics summary
  .ok {
    exit := if hasErrors diagnostics then exitErrors else exitOk
    stdout
    stderr := Text.terminated (before ++ logLines options [countRecord options diagnostics]) }

def summarize (program : Program) : Except TooLong Summary := do
  let (width, height) ← program.displaySize
  .ok ⟨program, width, height⟩

/-- Check a source text against an instruction set. -/
def checkText (sink : Sink) (options : Options) (set : InstructionSet) (place t : Text) : Except Fault Output := do
  let some threshold := options.threshold | .error .noThreshold
  let analysis ← Numeral.failWith .numeral (Analysis.ofText set t)
  let diagnostics := shownDiagnostics threshold analysis.diagnostics
  let before := logLines options [set.record place, analysis.record]
  if options.program then
    let assembly := Assembly.assemble t
    let logged := before ++ logLines options (assembly.remarks.map Assembly.Remark.record)
    match assembly.program with
    | .error .numeral => .error .numeral
    | .error (.rejected r) =>
      let line := options.source ++ ":" ++ Text.ofNat r.line ++ ": load error: " ++ r.cause.message
      .ok ⟨exitUnloadable, [], Text.terminated (logged ++ [line])⟩
    | .ok program => do
      let summary ← Numeral.failWith .numeral (summarize program)
      finish sink options logged diagnostics (some summary)
  else finish sink options before diagnostics none

/-- An empty name of a table asks for the bundled one. -/
def Options.place (options : Options) : Place :=
  match options.table with
  | none | some [] => .bundled
  | some table => .file table

/-- Check what opening the source has given, with an instruction set from a place. -/
def check (sink : Sink) (options : Options) (source : Except FileFault ByteArray) (place : Text)
    (set : Except InstructionSet.LoadError InstructionSet) : Except Fault Output :=
  match Path.fault? options.source, source with
  | some fault, _ => .error fault
  | none, .error fault =>
    let error : FileError := ⟨fault, Path.tidy options.source⟩
    .ok ⟨exitUnloadable, [], Text.terminated [options.source ++ ": cannot read file: " ++ error.message]⟩
  | none, .ok bytes => match decodeText? bytes with
    | none => .error .notUtf8
    | some t => match set with
      | .error (.fault fault) => .error fault
      | .error error =>
        .ok ⟨exitUnloadable, [], Text.terminated [options.table.getD [] ++ ": " ++ error.message?.getD []]⟩
      | .ok set => checkText sink options set place t

inductive Outcome where
  | stopped (stop : Stop)
  | faulted (fault : Fault)
  | finished (output : Output)
  deriving DecidableEq, Repr

def Outcome.ofExcept : Except Fault Output → Outcome
  | .error fault => .faulted fault
  | .ok output => .finished output

/-- Run the command in a folder, with a stream for what it prints. -/
def run (sink : Sink) (folder : Folder) (arguments : List Text) : Outcome :=
  match Options.parse arguments with
  | .error stop => .stopped stop
  | .ok options =>
    let source := folder.openFile (Path.tidy options.source)
    let place := options.place
    .ofExcept (check sink options source (place.text folder) (place.load folder))

end AsmCheck.Command
