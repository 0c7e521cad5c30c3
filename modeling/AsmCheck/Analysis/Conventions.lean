import AsmCheck.Analysis.Routine

/-! Calling conventions. Where a routine starts and ends is guessed from labels and calls, so nothing
here is more severe than a warning. -/

set_option autoImplicit false

namespace AsmCheck.Analysis

open Source (Line)

namespace Routine

def prologueReports (r : Routine) : List Report :=
  match r.prologuePush, r.prologueMove with
  | none, _ => [⟨r.first.range, .prologuePushMissing r.name⟩]
  | some push, none => [⟨push.range, .prologueMoveMissing r.name⟩]
  | some _, some _ => []

def epilogueReports (r : Routine) : List Report :=
  if r.prologuePush.isSome && r.epiloguePop.isNone then
    [⟨r.first.rangeTo r.last, .epiloguePopMissing r.name⟩]
  else []

/-- Only a routine that calls or returns is expected to set up a frame. -/
def frameReports (r : Routine) : List Report :=
  if r.calls.isEmpty && r.returns.isEmpty then [] else r.prologueReports ++ r.epilogueReports

def balanceReports (r : Routine) : List Report :=
  if r.pushes = r.pops then [] else [⟨r.first.rangeTo r.last, .stackUnbalanced r.name r.pushes r.pops⟩]

def registerReports (r : Routine) : List Report :=
  r.unsaved.map fun register => ⟨r.first.rangeTo r.last, .registerUnsaved r.name register⟩

def reports (r : Routine) : List Report :=
  if r.isEntry then [] else r.frameReports ++ r.balanceReports ++ r.registerReports

end Routine

/-- Instructions that end the search for a call. -/
def transfers : List Text := ["JMP", "JE", "JZ", "JNE", "JNZ", "RET", "HLT"]

/-- How many lines are searched for a call, the pushing line among them. -/
def lookahead : Nat := 10

/-- A call comes before any label and any transfer of control. -/
def callsSoon : List Line → Bool
  | [] => false
  | line :: rest =>
    if !line.statement.isCode then callsSoon rest
    else if line.statement.isInstruction ["CALL"] then true
    else if line.label?.isSome || line.statement.isInstruction transfers then false
    else callsSoon rest

/-- The amount that an unlabelled line adds to the stack pointer. -/
def stackCleaned? (line : Line) : Option Text :=
  match line.statement with
  | .instruction none mnemonic rest =>
    if mnemonic = "ADD" then
      match Source.operands rest with
      | pointer :: amount :: _ => if Text.upper pointer = "ESP" then some amount else none
      | _ => none
    else none
  | _ => none

def callReports (line : Line) (target : Text) (after : List Line) : List Report :=
  match after.find? (·.statement.isCode) with
  | some next => match stackCleaned? next with
    | some amount => [⟨line.rangeTo next, .callerCleans target amount⟩]
    | none => []
  | none => []

def pushReports (line : Line) (operand : Text) (after : List Line) : List Report :=
  if callsSoon (after.take (lookahead - 1)) then [⟨line.range, .parameterPush operand⟩] else []

/-- What to say of a call or a push, given the lines after it. -/
def siteReports (line : Line) (after : List Line) : List Report :=
  match line.statement.operands with
  | [] => []
  | operand :: _ =>
    if line.statement.isInstruction ["CALL"] then callReports line operand after
    else if line.statement.isInstruction ["PUSH"] then pushReports line operand after
    else []

def callSiteReports : List Line → List Report
  | [] => []
  | line :: rest => siteReports line rest ++ callSiteReports rest

def checkConventions (known : List Text) (lines : List Line) : List Report :=
  (routines (routineLabels known lines) lines).flatMap Routine.reports ++ callSiteReports lines

end AsmCheck.Analysis
