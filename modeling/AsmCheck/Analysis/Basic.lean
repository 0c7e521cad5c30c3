import AsmCheck.Analysis.Conventions
import AsmCheck.Analysis.Flow
import AsmCheck.Log

/-! The whole analysis of a source text: four checks, one after another. -/

set_option autoImplicit false

namespace AsmCheck

open Numeral (TooLong)

structure Analysis where
  lineCount : Nat
  labels : List Analysis.Report
  instructions : List Analysis.Report
  flow : List Analysis.Report
  conventions : List Analysis.Report

namespace Analysis

def ofLines (set : InstructionSet) (texts : List Text) : Except TooLong Analysis := do
  let lines := Source.number texts
  let symbols := Symbols.ofLines lines
  let instructions ← checkInstructions set symbols lines
  .ok {
    lineCount := texts.length
    labels := symbols.reports
    instructions
    flow := checkFlow lines
    conventions := checkConventions symbols.labels.names lines }

def ofText (set : InstructionSet) (t : Text) : Except TooLong Analysis := ofLines set (Text.lines t)

def reports (a : Analysis) : List Report := a.labels ++ a.instructions ++ a.flow ++ a.conventions

def diagnostics (a : Analysis) : List Diagnostic := a.reports.map Report.diagnostic

/-- How many issues each check has found. -/
def record (a : Analysis) : Log.Record where
  origin := "asmcore.analyzer"
  level := .debug
  pattern := "Analyzed %d lines: %d label, %d instruction, %d control-flow, %d convention diagnostics"
  arguments := [.number a.lineCount, .number a.labels.length, .number a.instructions.length,
    .number a.flow.length, .number a.conventions.length]

end Analysis

/-- What the analysis has to say about a source text. -/
def analyze (set : InstructionSet) (t : Text) : Except TooLong (List Diagnostic) := do
  .ok (← Analysis.ofText set t).diagnostics

end AsmCheck
