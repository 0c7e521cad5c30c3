import AsmCheck.Assist
import AsmCheck.Diagnostic

/-! The text being edited with its cursor. The text is a sequence of blocks divided by line feeds, and
places in it count characters from its start. -/

set_option autoImplicit false

namespace AsmCheck.Editor

/-- An underlined stretch of the text. -/
structure Mark where
  anchor : Nat
  position : Nat
  color : Text
  deriving DecidableEq, Repr

structure Document where
  text : Text := []
  cursor : Nat := 0
  deriving DecidableEq, Repr

namespace Document

def blocks (d : Document) : List Text := Text.splitOn '\n' d.text

def block? (d : Document) (line : Int) : Option Text := if line < 0 then none else d.blocks[line.toNat]?

/-- A block starts after the blocks before it, each with its line feed. -/
def blockStart (d : Document) (line : Nat) : Nat := (Text.terminated (d.blocks.take line)).length

/-- The place of a column in a block, which ends where the block ends. -/
def place? (d : Document) (line : Int) (column : Nat) : Option Nat :=
  (d.block? line).map fun block => d.blockStart line.toNat + min column block.length

def mark? (d : Document) (diagnostic : Diagnostic) : Option Mark := do
  let r := diagnostic.range
  let anchor ← d.place? r.startLine r.startColumn
  some ⟨anchor, (d.place? r.endLine r.endColumn).getD anchor, diagnostic.severity.color⟩

def marks (d : Document) (diagnostics : List Diagnostic) : List Mark := diagnostics.filterMap d.mark?

/-- Nothing happens if there is no such line. -/
def jump (d : Document) (line : Int) : Document :=
  match d.place? line 0 with
  | some place => { d with cursor := place }
  | none => d

def cursorLine (d : Document) : Nat := (d.text.take d.cursor).count ('\n' : CodePoint)

def cursorColumn (d : Document) : Nat := d.cursor - d.blockStart d.cursorLine

/-- The part of a word that ends at the cursor and that nothing of the word follows. -/
def typed (d : Document) : Text :=
  let line := (d.blocks[d.cursorLine]?).getD []
  match Assist.wordRange? line d.cursorColumn with
  | some (start, stop) => if stop = d.cursorColumn then (line.take stop).drop start else []
  | none => []

/-- Put a word in place of what has been typed of it. -/
def complete (d : Document) (word : Text) : Document :=
  let start := d.cursor - d.typed.length
  { text := d.text.take start ++ word ++ d.text.drop d.cursor, cursor := start + word.length }

end Document

end AsmCheck.Editor
