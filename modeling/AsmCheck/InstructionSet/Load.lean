import AsmCheck.Fault
import AsmCheck.Folder
import AsmCheck.InstructionSet.Schema
import AsmCheck.Json.Reader
import AsmCheck.Log

/-! Loading an instruction set from the content of a file. -/

set_option autoImplicit false

namespace AsmCheck.InstructionSet

inductive LoadError where
  | notFound (place : Text)
  | malformed (place : Text)
  | unreadable (error : FileError)
  | schema (error : SchemaError)
  | fault (fault : Fault)
  deriving DecidableEq, Repr

/-- What is told of an error. A fault is not told of but stops whatever was going on. -/
def LoadError.message? : LoadError → Option Text
  | .notFound place => some ("Mnemonic table not found: " ++ place)
  | .malformed place => some ("Invalid JSON in " ++ place)
  | .unreadable error => some ("Failed to read mnemonic table: " ++ error.message)
  | .schema error => some error.message
  | .fault _ => none

def ofBytes (place : Text) (bytes : ByteArray) : Except LoadError InstructionSet :=
  match decodeText? bytes with
  | none => .error (.fault .notUtf8)
  | some t => match Json.read t with
    | .error .malformed => .error (.malformed place)
    | .error .numeral => .error (.fault .numeral)
    | .error .tooDeep => .error (.fault .tooDeep)
    | .ok data => match ofJson place data with
      | .error error => .error (.schema error)
      | .ok set => .ok set

/-- What opening the file has given, turned into an instruction set. -/
def load (place : Text) : Except FileFault ByteArray → Except LoadError InstructionSet
  | .ok bytes => ofBytes place bytes
  | .error .isFolder => .error (.unreadable ⟨.isFolder, place⟩)
  | .error .nameTooLong => .error (.fault .nameTooLong)
  | .error .missing | .error .notFolder => .error (.notFound place)

def record (set : InstructionSet) (place : Text) : Log.Record where
  origin := "asmcore.mnemonics"
  level := .info
  pattern := "Loaded mnemonic table %r with %d instructions from %s"
  arguments := [.text set.name, .number set.operations.length, .text place]

end AsmCheck.InstructionSet
