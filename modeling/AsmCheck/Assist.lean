import AsmCheck.InstructionSet.Basic

/-! Help while editing: the word at a column, what is known about it, and the words to complete. -/

set_option autoImplicit false

namespace AsmCheck.Assist

def isWordLetter (c : CodePoint) : Bool := c.isAlphanum || c == '_'

/-- Where the word around a column starts and ends. A column beyond the line counts as its nearest end,
and a column just after a word belongs to it. -/
def wordRange? (line : Text) (column : Int) : Option (Nat × Nat) :=
  let place := min column.toNat line.length
  let back := ((line.take place).reverse.takeWhile isWordLetter).length
  let ahead := ((line.drop place).takeWhile isWordLetter).length
  if back + ahead = 0 then none else some (place - back, place + ahead)

def word? (line : Text) (column : Int) : Option Text :=
  (wordRange? line column).map fun r => (line.take r.2).drop r.1

def operationHelp (o : Operation) : Text :=
  let flags : Text := if o.flags.isEmpty then "None" else Text.join ", " o.flags
  let parts : List Text := [
    "**" ++ o.mnemonic ++ "** - " ++ o.summary,
    "**Syntax:** `" ++ o.usage ++ "`",
    "**Cycles:** " ++ Text.ofInt o.cycles,
    "**Flags affected:** " ++ flags]
  let sample : List Text := if o.sample.isEmpty then [] else ["**Example:**\n```asm\n" ++ o.sample ++ "\n```"]
  Text.join "\n\n" (parts ++ sample)

/-- Help on an operation, a register or a flag, looked for in this order. -/
def help? (set : InstructionSet) (word : Text) : Option Text :=
  match set.get? word with
  | some o => some (operationHelp o)
  | none => match set.registers.find? (·.name = Text.upper word) with
    | some r => some ("**" ++ r.name ++ "** - " ++ r.description)
    | none => (set.flags.find? (·.name = Text.upper word)).map fun f =>
      "**" ++ f.name ++ " Flag** - " ++ f.description

def helpAt? (set : InstructionSet) (line : Text) (column : Int) : Option Text :=
  (word? line column).bind (help? set)

structure Completion where
  label : Text
  kind : Text
  detail : Text
  documentation : Text
  deriving DecidableEq, Repr

/-- The mnemonics and then the registers, in the order of the instruction set. -/
def completions (set : InstructionSet) : List Completion :=
  set.operations.map (fun o => ⟨o.mnemonic, "keyword", o.summary, operationHelp o⟩) ++
  set.registers.map fun r => ⟨r.name, "variable", r.description, r.description⟩

end AsmCheck.Assist
