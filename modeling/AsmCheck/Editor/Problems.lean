import AsmCheck.Analysis.Basic
import AsmCheck.InstructionSet.Bundled

/-! The diagnostics of a text that is being edited, and the table that shows them. Analyses may end out
of order, so each carries the version of the text it is about, and one of an older version than has
been seen is dropped. -/

set_option autoImplicit false

namespace AsmCheck.Editor

open Numeral (TooLong)

/-- The latest diagnostics with their version. No version has been seen at first. -/
structure Problems where
  set : Option InstructionSet := none
  version : Int := -1
  diagnostics : List Diagnostic := []

namespace Problems

/-- Take diagnostics unless they are older than what is there. -/
def publish (p : Problems) (version : Int) (diagnostics : List Diagnostic) : Problems × Bool :=
  if version < p.version then (p, false) else ({ p with version, diagnostics }, true)

def instructionSet (p : Problems) : InstructionSet := p.set.getD InstructionSet.bundled

def onLine (p : Problems) (line : Int) : List Diagnostic :=
  p.diagnostics.filter fun d => d.range.startLine ≤ line && line ≤ d.range.endLine

/-- The more severe of two. -/
def worse (a b : Severity) : Severity := if b.rank < a.rank then b else a

def worst? (p : Problems) (line : Int) : Option Severity :=
  match p.onLine line with
  | [] => none
  | d :: rest => some (rest.foldl (fun s e => worse s e.severity) d.severity)

end Problems

/-- The table of problems: what passes the filter on sources, or everything without a filter. -/
structure Panel where
  problems : Problems := {}
  filter : Option (List Text) := none
  rows : List Diagnostic := []

namespace Panel

def passes (filter : Option (List Text)) (d : Diagnostic) : Bool :=
  match filter with
  | some sources => d.source ∈ sources
  | none => true

def refresh (p : Panel) : Panel := { p with rows := p.problems.diagnostics.filter (passes p.filter) }

def setFilter (p : Panel) (filter : Option (List Text)) : Panel := { p with filter }.refresh

def useSet (p : Panel) (set : InstructionSet) : Panel := { p with problems := { p.problems with set := some set } }

/-- The panel after diagnostics came in, and whether they were taken. -/
def publish (p : Panel) (version : Int) (diagnostics : List Diagnostic) : Panel × Bool :=
  match p.problems.publish version diagnostics with
  | (problems, true) => ({ p with problems }.refresh, true)
  | (_, false) => (p, false)

def run (p : Panel) (version : Int) (t : Text) : Except TooLong (Panel × Bool) := do
  .ok (p.publish version (← analyze p.problems.instructionSet t))

def row? (p : Panel) (row : Int) : Option Diagnostic := if row < 0 then none else p.rows[row.toNat]?

inductive Column where
  | severity
  | line
  | message
  | source
  deriving DecidableEq, Repr

def columns : List Column := [.severity, .line, .message, .source]

def Column.title : Column → Text
  | .severity => "Severity"
  | .line => "Line"
  | .message => "Message"
  | .source => "Source"

def Column.text (d : Diagnostic) : Column → Text
  | .severity => d.severity.label
  | .line => Text.ofInt (d.range.startLine + 1)
  | .message => d.message
  | .source => d.source

/-- What a cell shows: its text, its colour and what is told of it. -/
structure Cell where
  text : Text
  color : Option Text
  tip : Text

def cell? (p : Panel) (row column : Int) : Option Cell := do
  let d ← p.row? row
  let c ← if column < 0 then none else columns[column.toNat]?
  some ⟨c.text d, if c = .severity then some d.severity.color else none, d.message⟩

def title? (column : Int) : Option Text := (atPosition? columns column).map Column.title

def rowTexts (p : Panel) : List (List Text) := p.rows.map fun d => columns.map (Column.text d)

/-- What happens to a panel. -/
inductive Event where
  | run (version : Int) (text : Text)
  | publish (version : Int) (diagnostics : List Diagnostic)
  | useSet (set : InstructionSet)
  | filter (sources : Option (List Text))

/-- The panel after an event, and whether new diagnostics were taken. -/
def step (p : Panel) : Event → Except TooLong (Panel × Bool)
  | .run version t => p.run version t
  | .publish version diagnostics => .ok (p.publish version diagnostics)
  | .useSet set => .ok (p.useSet set, false)
  | .filter sources => .ok (p.setFilter sources, false)

end Panel

end AsmCheck.Editor
