import AsmCheck.Text.Quoted

/-! Records of what a run has noticed. A record keeps its pattern and its arguments apart; each mark
in the pattern stands for the next argument, and one of the marks asks for quotes. -/

set_option autoImplicit false

namespace AsmCheck.Log

inductive Level where
  | debug
  | info
  | warning
  deriving DecidableEq, Repr

def Level.name : Level → Text
  | .debug => "DEBUG"
  | .info => "INFO"
  | .warning => "WARNING"

def Level.rank : Level → Nat
  | .debug => 0
  | .info => 1
  | .warning => 2

inductive Argument where
  | number (n : Nat)
  | text (t : Text)
  deriving DecidableEq, Repr

def Argument.plain : Argument → Text
  | .number n => Text.ofNat n
  | .text t => t

structure Record where
  origin : Text
  level : Level
  pattern : Text
  arguments : List Argument
  deriving DecidableEq, Repr

/-- Put arguments in place of the marks of a pattern, in order. -/
def fill : Text → List Argument → Text
  | '%' :: 'r' :: rest, a :: more => Text.quoted a.plain ++ fill rest more
  | '%' :: _ :: rest, a :: more => a.plain ++ fill rest more
  | c :: rest, more => c :: fill rest more
  | [], _ => []

def Record.message (r : Record) : Text := fill r.pattern r.arguments

/-- The record as a line of a log. -/
def Record.line (r : Record) : Text := r.level.name ++ " " ++ r.origin ++ ": " ++ r.message

end AsmCheck.Log
