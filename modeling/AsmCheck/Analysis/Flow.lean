import AsmCheck.Analysis.Instructions

/-! Control flow in the order of the lines: code that nothing can reach, and returns outside any
function. -/

set_option autoImplicit false

namespace AsmCheck.Analysis

open Source (Line Section)

/-- Instructions after which the next line is not reached. -/
def terminators : List Text := ["HLT", "RET", "JMP"]

def isReturn (line : Line) : Bool := line.statement.isInstruction ["RET"]

/-- The labels with a return before the next label, given the label in force. -/
def returningLabelsFrom (current : Option Text) : List Line → List Text
  | [] => []
  | line :: rest =>
    let own := line.label?.or current
    (if isReturn line then own.toList else []) ++ returningLabelsFrom own rest

def returningLabels (lines : List Line) : List Text := returningLabelsFrom none lines

/-- Walk back over the lines before a return, nearest first, to the label in force. -/
def insideFunction (labels : List Text) : List Line → Bool
  | [] => false
  | line :: before => match line.label? with
    | some name => name ∈ labels
    | none => if line.statement.isInstruction ["HLT", "RET"] then false else insideFunction labels before

def returnsInside (labels : List Text) (line : Line) (before : List Line) : Bool :=
  match line.label? with
  | some name => name ∈ labels
  | none => insideFunction labels before

/-- Where the scan stands: the active section, the terminator that nothing has been reached after, and
the lines before, nearest first. -/
structure FlowState where
  active : Section := .code
  ended : Option (Nat × Text) := none
  before : List Line := []

def unreachableIssue (ended : Option (Nat × Text)) (line : Line) : List Issue :=
  match ended with
  | some (index, mnemonic) => if line.muted then [] else [.unreachable mnemonic (index + 1)]
  | none => []

def returnIssue (labels : List Text) (before : List Line) (line : Line) : List Issue :=
  if isReturn line && !returnsInside labels line before then [.returnOutside] else []

def flowStep (labels : List Text) (s : FlowState) (line : Line) : FlowState × List Issue :=
  let active := sectionAfter s.active line.statement
  let ended := if line.label?.isSome then none else s.ended
  match line.statement, s.active with
  | .instruction _ mnemonic _, .code =>
    ({ active, ended := if mnemonic ∈ terminators then some (line.index, mnemonic) else ended,
       before := line :: s.before },
     unreachableIssue ended line ++ returnIssue labels s.before line)
  | _, _ => ({ active, ended, before := line :: s.before }, [])

def checkFlowFrom (labels : List Text) (s : FlowState) : List Line → List Report
  | [] => []
  | line :: rest =>
    (flowStep labels s line).2.map (⟨line.range, ·⟩) ++ checkFlowFrom labels (flowStep labels s line).1 rest

def checkFlow (lines : List Line) : List Report := checkFlowFrom (returningLabels lines) {} lines

end AsmCheck.Analysis
