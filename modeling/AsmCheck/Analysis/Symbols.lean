import AsmCheck.Analysis.Issue
import AsmCheck.Bindings

/-! The labels and constants that a source text defines, with the lines that define them. -/

set_option autoImplicit false

namespace AsmCheck.Analysis

open Source (Line)

structure Symbols where
  labels : Bindings (List Line) := []
  constants : Bindings (List Line) := []

namespace Symbols

def addLine (bindings : Bindings (List Line)) (name : Text) (line : Line) : Bindings (List Line) :=
  bindings.alter name fun lines => lines.getD [] ++ [line]

def add (symbols : Symbols) (line : Line) : Symbols :=
  match line.statement with
  | .constant name _ => { symbols with constants := addLine symbols.constants name line }
  | statement => match statement.label? with
    | some name => { symbols with labels := addLine symbols.labels name line }
    | none => symbols

def ofLines (lines : List Line) : Symbols := lines.foldl add {}

def knows (symbols : Symbols) (name : Text) : Bool :=
  (symbols.labels.get? name).isSome || (symbols.constants.get? name).isSome

/-- The numbers, counted from one, of the lines other than a given one. -/
def otherLines (lines : List Line) (line : Line) : List Nat :=
  (lines.filter (·.index ≠ line.index)).map (·.index + 1)

/-- One report on each of several lines that define one name. -/
def repetitions (issue : Text → List Nat → Issue) (bindings : Bindings (List Line)) : List Report :=
  bindings.flatMap fun (name, lines) =>
    if lines.length < 2 then [] else lines.map fun line => ⟨line.range, issue name (otherLines lines line)⟩

def reports (symbols : Symbols) : List Report :=
  repetitions .duplicateLabel symbols.labels ++ repetitions .repeatedConstant symbols.constants

end Symbols

end AsmCheck.Analysis
