import AsmCheck.Diagnostic
import AsmCheck.Text.Digit

/-! Command-line options. They may stand anywhere before a double dash, long ones may be cut short as
long as they stay unambiguous, and short ones may share a dash. -/

set_option autoImplicit false

namespace AsmCheck.Command

inductive Format where
  | text
  | json
  deriving DecidableEq, Repr

/-- Without a threshold there is nothing to compare severities with. -/
structure Options where
  source : Text
  table : Option Text := none
  format : Format := .text
  threshold : Option Severity := some .hint
  program : Bool := false
  verbosity : Nat := 0
  deriving DecidableEq, Repr

/-- Why the arguments do not lead to a check. -/
inductive Stop where
  | help
  | misuse
  deriving DecidableEq, Repr

inductive Switch where
  | help
  | table
  | format
  | threshold
  | program
  | verbose
  deriving DecidableEq, Repr

def Switch.takesValue : Switch → Bool
  | .table | .format | .threshold => true
  | .help | .program | .verbose => false

def longSwitches : List (Text × Switch) := [
  ("--help", .help), ("--table", .table), ("--format", .format), ("--min-severity", .threshold),
  ("--program", .program), ("--verbose", .verbose)]

def shortSwitch? : CodePoint → Option Switch
  | 'h' => some .help
  | 'v' => some .verbose
  | _ => none

/-- What an argument is by its spelling. -/
inductive Shape where
  | operand
  | divider
  | long (switch : Switch) (value : Option Text)
  | short (switch : Switch) (rest : Text)
  | unknown
  deriving DecidableEq, Repr

/-- A minus and a decimal number. -/
def isNegativeNumber (t : Text) : Bool :=
  match Text.dropLastFeed t with
  | '-' :: rest =>
    let fraction := (rest.dropWhile Text.isDigit).drop 1
    (!rest.isEmpty && rest.all Text.isDigit) ||
      ((rest.dropWhile Text.isDigit).head? == some '.' && !fraction.isEmpty && fraction.all Text.isDigit)
  | _ => false

/-- What is not an option is an operand if it looks like a number or holds a space. -/
def strayShape (t : Text) : Shape := if isNegativeNumber t || (' ' : CodePoint) ∈ t then .operand else .unknown

def longShape (t : Text) : Except Stop Shape :=
  let name := Text.before '=' t
  let value := if ('=' : CodePoint) ∈ t then some (Text.after '=' t) else none
  match longSwitches.lookup name with
  | some switch => .ok (.long switch value)
  | none => match longSwitches.filter fun s => name.isPrefixOf s.1 with
    | [] => .ok (strayShape t)
    | [(_, switch)] => .ok (.long switch value)
    | _ => .error .misuse

def shapeOf (t : Text) : Except Stop Shape :=
  match t with
  | '-' :: '-' :: _ => longShape t
  | '-' :: c :: rest => match shortSwitch? c with
    | some switch => .ok (.short switch rest)
    | none => .ok (strayShape t)
  | _ => .ok .operand

/-- After a double dash everything is an operand. -/
def shapes : List Text → Except Stop (List (Text × Shape))
  | [] => .ok []
  | t :: rest =>
    if t = "--" then .ok ((t, .divider) :: rest.map fun r => (r, .operand))
    else do
      let shape ← shapeOf t
      let more ← shapes rest
      .ok ((t, shape) :: more)

/-- What has been gathered so far. `waiting` is a switch whose value comes next, `fresh` tells that the
source has just been named, and `stray` that some argument has no use. -/
structure Gathered where
  source : Option Text := none
  table : Option Text := none
  format : Format := .text
  threshold : Option Severity := some .hint
  program : Bool := false
  verbosity : Nat := 0
  waiting : Option Switch := none
  fresh : Bool := false
  stray : Bool := false

namespace Gathered

def flag (g : Gathered) : Switch → Except Stop Gathered
  | .help => .error .help
  | .program => .ok { g with program := true }
  | .verbose => .ok { g with verbosity := g.verbosity + 1 }
  | _ => .error .misuse

/-- A double dash in the place of a value takes away the value that there was. -/
def clearValue (g : Gathered) : Switch → Gathered
  | .table => { g with table := none }
  | .format => { g with format := .text }
  | .threshold => { g with threshold := none }
  | _ => g

def setValue (g : Gathered) (switch : Switch) (value : Text) : Except Stop Gathered :=
  if value = "--" then .ok (g.clearValue switch)
  else match switch with
  | .table => .ok { g with table := some value }
  | .format =>
    if value = "text" then .ok { g with format := .text }
    else if value = "json" then .ok { g with format := .json }
    else .error .misuse
  | .threshold => match Severity.ofName? value with
    | some severity => .ok { g with threshold := some severity }
    | none => .error .misuse
  | _ => .error .misuse

/-- The switches that share a dash. -/
def cluster (letters : Text) : Except Stop (List Switch) :=
  match letters.mapM shortSwitch? with
  | some switches => .ok switches
  | none => .error .misuse

def flags (g : Gathered) : List Switch → Except Stop Gathered
  | [] => .ok g
  | switch :: rest => do (← g.flag switch).flags rest

/-- The first operand is the source. -/
def operand (g : Gathered) (t : Text) : Gathered :=
  if g.source.isSome then { g with stray := true } else { g with source := some t, fresh := true }

/-- A double dash may stand right before or right after the source. -/
def divider (g : Gathered) : Gathered := { g with stray := g.stray || (g.source.isSome && !g.fresh) }

def long (g : Gathered) (switch : Switch) : Option Text → Except Stop Gathered
  | some value => if switch.takesValue then g.setValue switch value else .error .misuse
  | none => if switch.takesValue then .ok { g with waiting := some switch } else g.flag switch

/-- An equals sign may stand between the first switch and those that share its dash. -/
def sharing : Text → Text
  | '=' :: c :: rest => c :: rest
  | letters => letters

def short (g : Gathered) (switch : Switch) (letters : Text) : Except Stop Gathered := do
  g.flags (switch :: (← cluster (sharing letters)))

def step (g : Gathered) (argument : Text × Shape) : Except Stop Gathered :=
  match g.waiting with
  | some switch =>
    if argument.2 = .operand then { g with waiting := none }.setValue switch argument.1 else .error .misuse
  | none =>
    let stale := { g with fresh := false }
    match argument.2 with
    | .operand => .ok (stale.operand argument.1)
    | .divider => .ok { g.divider with fresh := false }
    | .unknown => .ok { stale with stray := true }
    | .short switch letters => stale.short switch letters
    | .long switch value => stale.long switch value

def options (g : Gathered) : Except Stop Options :=
  match g.source with
  | some source =>
    if g.stray || g.waiting.isSome then .error .misuse
    else .ok ⟨source, g.table, g.format, g.threshold, g.program, g.verbosity⟩
  | none => .error .misuse

end Gathered

def Options.parse (arguments : List Text) : Except Stop Options := do
  let shaped ← shapes arguments
  (← shaped.foldlM Gathered.step {}).options

def usage : Text :=
  "usage: asm-check [-h] [--table TABLE] [--format \x7btext,json\x7d]\n" ++
  "                 [--min-severity \x7berror,warning,information,hint\x7d] [--program] [-v]\n" ++
  "                 source\n"

end AsmCheck.Command
