import AsmCheck.InstructionSet.Basic
import AsmCheck.Source.Literal
import AsmCheck.Source.Statement
import AsmCheck.Text.Digit

/-! Colouring a line: quoted texts, the comment, and the words and numbers before it. -/

set_option autoImplicit false

namespace AsmCheck.Editor

open Source (isQuote closeQuote? isNameStart isNameChar)

inductive Style where
  | mnemonic
  | register
  | number
  | string
  | comment
  | directive
  | label
  deriving DecidableEq, Repr

def Style.name : Style → Text
  | .mnemonic => "mnemonic"
  | .register => "register"
  | .number => "number"
  | .string => "string"
  | .comment => "comment"
  | .directive => "directive"
  | .label => "label"

structure Span where
  start : Nat
  length : Nat
  style : Style
  deriving DecidableEq, Repr

/-- A quoted text, a word or a number at its place in a line. -/
structure Lexeme where
  start : Nat
  text : Text
  deriving DecidableEq, Repr

def Lexeme.stop (l : Lexeme) : Nat := l.start + l.text.length

def Lexeme.isQuoted (l : Lexeme) : Bool := l.text.head?.any isQuote

def decimalAt? (t : Text) : Option Text :=
  let run := t.takeWhile Text.isDigit
  if run.isEmpty then none else some run

/-- A numeral with the mark of its base, as far as its digits go. -/
def markedAt? (digit? : CodePoint → Option Nat) (marks : List CodePoint) : Text → Option Text
  | '0' :: mark :: rest =>
    let run := rest.takeWhile fun c => (digit? c).isSome
    if mark ∈ marks ∧ !run.isEmpty then some ('0' :: mark :: run) else none
  | _ => none

def unsignedAt? (t : Text) : Option Text :=
  (markedAt? Numeral.hexDigit? ['x', 'X'] t).or ((markedAt? Numeral.binaryDigit? ['b', 'B'] t).or (decimalAt? t))

def numberAt? : Text → Option Text
  | '-' :: rest => (unsignedAt? rest).map ('-' :: ·)
  | t => unsignedAt? t

def quotedAt? : Text → Option Text
  | c :: rest => if isQuote c then (closeQuote? c rest).map fun p => c :: (p.1 ++ [c]) else none
  | [] => none

def nameAt? (t : Text) : Option Text := if t.head?.any isNameStart then some (t.takeWhile isNameChar) else none

/-- What stands at the head of a text. -/
def lexemeAt? (t : Text) : Option Text := (quotedAt? t).or ((nameAt? t).or (numberAt? t))

/-- The lexemes from left to right; characters that start none are passed over. -/
def lexemesFrom (place : Nat) : Text → List Lexeme
  | [] => []
  | c :: rest => match lexemeAt? (c :: rest) with
    | some found => ⟨place, found⟩ :: lexemesFrom (place + found.length) (rest.drop (found.length - 1))
    | none => lexemesFrom (place + 1) rest
termination_by t => t.length
decreasing_by
  · simp only [List.length_drop, List.length_cons]
    omega
  · simp

def lexemes (t : Text) : List Lexeme := lexemesFrom 0 t

def directives : List Text := ["DB", "DW", "DD", "ORG", "EQU", ".TEXT", ".DATA"]

/-- A colon after the lexeme, with or without white space between, makes it a label. -/
def styleOf? (set : InstructionSet) (line : Text) (codeEnd : Nat) (l : Lexeme) : Option Style :=
  let capitals := Text.upper l.text
  if l.isQuoted then none
  else if l.stop < codeEnd ∧ (Text.trimStart (line.drop l.stop)).head? = some ':' then some .label
  else if capitals ∈ set.mnemonics then some .mnemonic
  else if capitals ∈ directives then some .directive
  else if capitals ∈ set.registerNames then some .register
  else if l.text.head?.any fun c => Text.isDigit c || c == '-' then some .number
  else none

def stringSpans (line : Text) : List Span :=
  ((lexemes line).filter Lexeme.isQuoted).map fun l => ⟨l.start, l.text.length, .string⟩

/-- Where the comment starts in a text that begins at `place` with some quote open. -/
def commentIndexFrom (place : Nat) : Option CodePoint → Text → Option Nat
  | _, [] => none
  | some q, c :: rest => commentIndexFrom (place + 1) (if c = q then none else some q) rest
  | none, c :: rest =>
    if isQuote c then commentIndexFrom (place + 1) (some c) rest
    else if c = ';' then some place
    else commentIndexFrom (place + 1) none rest

/-- The place of the first semicolon outside quotes. -/
def commentIndex? (line : Text) : Option Nat := commentIndexFrom 0 none line

def codeEnd (line : Text) : Nat := (commentIndex? line).getD line.length

def commentSpans (line : Text) : List Span :=
  match commentIndex? line with
  | some index => [⟨index, line.length - index, .comment⟩]
  | none => []

def codeSpans (set : InstructionSet) (line : Text) : List Span :=
  (lexemes (line.take (codeEnd line))).filterMap fun l =>
    (styleOf? set line (codeEnd line) l).map fun style => ⟨l.start, l.text.length, style⟩

/-- The spans of a line in the order in which they are applied. -/
def highlight (set : InstructionSet) (line : Text) : List Span :=
  if Text.isBlank line then [] else stringSpans line ++ commentSpans line ++ codeSpans set line

end AsmCheck.Editor
