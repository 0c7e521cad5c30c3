import AsmCheck.Source.Line

/-! Diagnostics: something to say about a place in a source text, with its severity and with the
check that says it. -/

set_option autoImplicit false

namespace AsmCheck

inductive Severity where
  | error
  | warning
  | information
  | hint
  deriving DecidableEq, Repr

namespace Severity

/-- One for the most severe, four for the least. -/
def rank : Severity → Nat
  | .error => 1
  | .warning => 2
  | .information => 3
  | .hint => 4

def all : List Severity := [.error, .warning, .information, .hint]

def ofRank? (n : Int) : Option Severity := all.find? fun s => (s.rank : Int) == n

def name : Severity → Text
  | .error => "error"
  | .warning => "warning"
  | .information => "information"
  | .hint => "hint"

def ofName? (t : Text) : Option Severity := all.find? (·.name = t)

def label : Severity → Text
  | .error => "Error"
  | .warning => "Warning"
  | .information => "Information"
  | .hint => "Hint"

/-- The colour in which a severity is shown. -/
def color : Severity → Text
  | .error => "#ff5555"
  | .warning => "#ffb86c"
  | .information => "#8be9fd"
  | .hint => "#6272a4"

end Severity

structure Diagnostic where
  severity : Severity
  range : Range
  message : Text
  source : Text
  deriving DecidableEq, Repr

def Diagnostic.isError (d : Diagnostic) : Bool := d.severity = .error

def hasErrors (diagnostics : List Diagnostic) : Bool := diagnostics.any Diagnostic.isError

end AsmCheck
