import AsmCheck.InstructionSet.Basic
import AsmCheck.Json.Basic

/-! Instruction sets as JSON. Reading checks the members one after another and names the first fault. -/

set_option autoImplicit false

namespace AsmCheck.InstructionSet

inductive SchemaError where
  | notObject
  | versionNotInteger
  | versionUnsupported (version : Whole)
  | nameMissing
  | descriptionNotText
  | listEmpty (key : Text)
  | entryNotObject (key : Text)
  | entryNameMissing (key : Text)
  | entryDescriptionNotText (key name : Text)
  | entryRepeated (key name : Text)
  | operationNotObject (number : Nat) (place : Text)
  | mnemonicMissing (number : Nat)
  | summaryMissing (mnemonic : Text)
  | usageNotText (mnemonic : Text)
  | operandsMissing (mnemonic : Text)
  | operandsUnclear (mnemonic : Text)
  | operandsTooMany (mnemonic : Text)
  | boundsNotIntegers (mnemonic : Text)
  | boundsInvalid (mnemonic : Text) (arity : Arity)
  | branchNotBoolean (mnemonic : Text)
  | branchWithoutTarget (mnemonic : Text)
  | flagsNotTexts (mnemonic : Text)
  | sampleNotText (mnemonic : Text)
  | cyclesNotPositive (mnemonic : Text)
  | mnemonicRepeated (mnemonic : Text)
  deriving DecidableEq, Repr

def SchemaError.message : SchemaError → Text
  | .notObject => "Mnemonic table must be a JSON object."
  | .versionNotInteger => "schema_version must be an integer."
  | .versionUnsupported version => "Unsupported schema_version: " ++ version.text
  | .nameMissing => "name is required and must be a string."
  | .descriptionNotText => "description must be a string if provided."
  | .listEmpty key => key ++ " must be a non-empty array."
  | .entryNotObject key => key ++ " entries must be objects."
  | .entryNameMissing key => key ++ " entry is missing name."
  | .entryDescriptionNotText key name => key ++ " entry " ++ name ++ " description must be a string."
  | .entryRepeated key name => "Duplicate name in " ++ key ++ ": " ++ name
  | .operationNotObject number place => "Instruction #" ++ Text.ofNat number ++ " must be an object in " ++ place ++ "."
  | .mnemonicMissing number => "Instruction #" ++ Text.ofNat number ++ " is missing mnemonic."
  | .summaryMissing mnemonic => "Instruction " ++ mnemonic ++ " is missing summary."
  | .usageNotText mnemonic => "Instruction " ++ mnemonic ++ " syntax must be a string."
  | .operandsMissing mnemonic => "Instruction " ++ mnemonic ++ " is missing operands."
  | .operandsUnclear mnemonic => "Instruction " ++ mnemonic ++ " operands must be an integer or a min/max object."
  | .operandsTooMany mnemonic => "Instruction " ++ mnemonic ++ " operands must be 0, 1 or 2."
  | .boundsNotIntegers mnemonic => "Instruction " ++ mnemonic ++ " operand range needs integer min and max."
  | .boundsInvalid mnemonic arity =>
    "Instruction " ++ mnemonic ++ " operand range is invalid: " ++ arity.minimum.text ++ ".." ++ arity.maximum.text
  | .branchNotBoolean mnemonic => "Instruction " ++ mnemonic ++ " branch must be true or false."
  | .branchWithoutTarget mnemonic => "Branch instruction " ++ mnemonic ++ " must accept a single target operand."
  | .flagsNotTexts mnemonic => "Instruction " ++ mnemonic ++ " flags must be an array of strings."
  | .sampleNotText mnemonic => "Instruction " ++ mnemonic ++ " example must be a string."
  | .cyclesNotPositive mnemonic => "Instruction " ++ mnemonic ++ " cycles must be a positive integer."
  | .mnemonicRepeated mnemonic => "Duplicate mnemonic in table: " ++ mnemonic

def whole? : Option Json → Option Whole
  | some (.int n) => some (.int n)
  | some (.bool b) => some (.bool b)
  | _ => none

/-- A text with something other than white space in it. -/
def visibleText? : Option Json → Option Text
  | some (.str t) => if Text.isBlank t then none else some t
  | _ => none

/-- A text that may be left out, or left empty, for a default. -/
def textOr (default : Text) (wrong : SchemaError) : Option Json → Except SchemaError Text
  | none => .ok default
  | some v =>
    if v.isGiven then
      match v with
      | .str t => .ok t
      | _ => .error wrong
    else .ok default

/-- A member that is missing or null. -/
def isAbsent : Option Json → Bool
  | none | some .null => true
  | _ => false

def describedOf (key : Text) (entry : Json) : Except SchemaError Described :=
  match entry with
  | .obj _ => do
    let some name := visibleText? (entry.member? "name") | .error (.entryNameMissing key)
    let description ← textOr [] (.entryDescriptionNotText key name) (entry.member? "description")
    .ok ⟨Text.upper (Text.trim name), Text.trim description⟩
  | _ => .error (.entryNotObject key)

/-- Entries in order, counted from `number`, each with a name of its own; `taken` holds the names that were used
already. -/
def entryList {α : Type} (entryOf : Nat → Json → Except SchemaError α) (name : α → Text)
    (repeated : Text → SchemaError) (number : Nat) (taken : List Text) : List Json → Except SchemaError (List α)
  | [] => .ok []
  | entry :: rest => do
    let first ← entryOf number entry
    if name first ∈ taken then .error (repeated (name first))
    else do
      let more ← entryList entryOf name repeated (number + 1) (name first :: taken) rest
      .ok (first :: more)

def describedList (key : Text) : List Json → Except SchemaError (List Described) :=
  entryList (fun _ => describedOf key) Described.name (.entryRepeated key) 1 []

def registersOf (data : Json) : Except SchemaError (List Described) :=
  match data.member? "registers" with
  | some (.arr (entry :: rest)) => describedList "registers" (entry :: rest)
  | _ => .error (.listEmpty "registers")

def flagsOf (data : Json) : Except SchemaError (List Described) :=
  if isAbsent (data.member? "flags") then .ok []
  else match data.member? "flags" with
    | some (.arr entries) => describedList "flags" entries
    | _ => .error (.listEmpty "flags")

def arityOf (mnemonic : Text) (operands : Json) : Except SchemaError Arity :=
  match operands with
  | .int n => if n = 0 ∨ n = 1 ∨ n = 2 then .ok ⟨.int n, .int n⟩ else .error (.operandsTooMany mnemonic)
  | .obj _ => match whole? (operands.member? "min"), whole? (operands.member? "max") with
    | some least, some greatest =>
      if least.value < 0 ∨ greatest.value < least.value then .error (.boundsInvalid mnemonic ⟨least, greatest⟩)
      else .ok ⟨least, greatest⟩
    | _, _ => .error (.boundsNotIntegers mnemonic)
  | _ => .error (.operandsUnclear mnemonic)

def branchOf (mnemonic : Text) (arity : Arity) : Option Json → Except SchemaError Bool
  | none | some (.bool false) => .ok false
  | some (.bool true) => if arity.accepts 1 then .ok true else .error (.branchWithoutTarget mnemonic)
  | _ => .error (.branchNotBoolean mnemonic)

def texts? : List Json → Option (List Text)
  | [] => some []
  | .str t :: rest => (texts? rest).map (t :: ·)
  | _ => none

def affectedFlagsOf (mnemonic : Text) : Option Json → Except SchemaError (List Text)
  | none => .ok []
  | some v =>
    if v.isGiven then
      match v with
      | .arr items => match texts? items with
        | some flags => .ok flags
        | none => .error (.flagsNotTexts mnemonic)
      | _ => .error (.flagsNotTexts mnemonic)
    else .ok []

def cyclesOf (mnemonic : Text) : Option Json → Except SchemaError Int
  | none => .ok 1
  | some (.int n) => if n < 1 then .error (.cyclesNotPositive mnemonic) else .ok n
  | _ => .error (.cyclesNotPositive mnemonic)

def operationOf (place : Text) (number : Nat) (entry : Json) : Except SchemaError Operation :=
  match entry with
  | .obj _ => do
    let some given := visibleText? (entry.member? "mnemonic") | .error (.mnemonicMissing number)
    let mnemonic := Text.upper (Text.trim given)
    let some summary := visibleText? (entry.member? "summary") | .error (.summaryMissing mnemonic)
    let usage ← textOr mnemonic (.usageNotText mnemonic) (entry.member? "syntax")
    let some operands := entry.member? "operands" | .error (.operandsMissing mnemonic)
    let arity ← arityOf mnemonic operands
    let branch ← branchOf mnemonic arity (entry.member? "branch")
    let flags ← affectedFlagsOf mnemonic (entry.member? "flags")
    let sample ← textOr [] (.sampleNotText mnemonic) (entry.member? "example")
    let cycles ← cyclesOf mnemonic (entry.member? "cycles")
    .ok ⟨mnemonic, Text.trim summary, Text.trim usage, arity, branch, flags, sample, cycles⟩
  | _ => .error (.operationNotObject number place)

def operationList (place : Text) : List Json → Except SchemaError (List Operation) :=
  entryList (operationOf place) Operation.mnemonic .mnemonicRepeated 1 []

def operationsOf (place : Text) (data : Json) : Except SchemaError (List Operation) :=
  match data.member? "instructions" with
  | some (.arr (entry :: rest)) => operationList place (entry :: rest)
  | _ => .error (.listEmpty "instructions")

/-- The instruction set that a JSON value describes. `place` is where the value was found. -/
def ofJson (place : Text) (data : Json) : Except SchemaError InstructionSet :=
  match data with
  | .obj _ => do
    let some version := whole? (data.member? "schema_version") | .error .versionNotInteger
    if version.value ≠ 1 then .error (.versionUnsupported version)
    else do
      let some name := visibleText? (data.member? "name") | .error .nameMissing
      let description ← textOr [] .descriptionNotText (data.member? "description")
      let registers ← registersOf data
      let flags ← flagsOf data
      let operations ← operationsOf place data
      .ok ⟨version, Text.trim name, Text.trim description, registers, flags, operations⟩
  | _ => .error .notObject

end AsmCheck.InstructionSet
