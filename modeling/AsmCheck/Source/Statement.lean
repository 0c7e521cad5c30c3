import AsmCheck.Source.Operands
import AsmCheck.Source.Piece
import AsmCheck.Text.Upper
import AsmCheck.Text.Word

/-! What a source line says. Every line is exactly one statement, decided from its text alone. -/

set_option autoImplicit false

namespace AsmCheck.Source

inductive Section where
  | code
  | data
  deriving DecidableEq, Repr

def Section.name : Section → Text
  | .code => "code"
  | .data => "data"

def Section.keyword : Section → Text
  | .code => ".TEXT"
  | .data => ".DATA"

def Section.ofKeyword? (t : Text) : Option Section :=
  if t = Section.code.keyword then some .code
  else if t = Section.data.keyword then some .data
  else none

/-- How many bytes each value of a data item takes. -/
inductive Width where
  | byte
  | word
  | double
  deriving DecidableEq, Repr

def Width.size : Width → Nat
  | .byte => 1
  | .word => 2
  | .double => 4

def Width.keyword : Width → Text
  | .byte => "DB"
  | .word => "DW"
  | .double => "DD"

def Width.ofKeyword? (t : Text) : Option Width := [Width.byte, .word, .double].find? (·.keyword = t)

inductive Statement where
  | blank
  | comment
  | label (name : Text)
  | constant (name value : Text)
  | malformedConstant
  | enter (sec : Section)
  | data (label : Option Text) (width : Width) (rest : Text)
  | origin (label : Option Text) (rest : Text)
  | instruction (label : Option Text) (mnemonic rest : Text)
  deriving DecidableEq

namespace Statement

def label? : Statement → Option Text
  | .label name => some name
  | .data own _ _ | .origin own _ | .instruction own _ _ => own
  | _ => none

/-- The upper-cased word that decides what the statement is. -/
def keyword : Statement → Text
  | .enter sec => sec.keyword
  | .data _ width _ => width.keyword
  | .origin _ _ => "ORG"
  | .instruction _ mnemonic _ => mnemonic
  | _ => []

/-- What stands after the keyword. -/
def rest : Statement → Text
  | .data _ _ rest | .origin _ rest | .instruction _ _ rest => rest
  | _ => []

def operands (s : Statement) : List Text := Source.operands s.rest

def kind : Statement → Text
  | .blank => "blank"
  | .comment => "comment"
  | .label _ => "label"
  | .constant _ _ | .malformedConstant => "constant"
  | .enter _ => "section"
  | .data _ _ _ => "data"
  | .origin _ _ => "origin"
  | .instruction _ _ _ => "instruction"

def isInstruction (s : Statement) (mnemonics : List Text) : Bool :=
  match s with
  | .instruction _ mnemonic _ => mnemonic ∈ mnemonics
  | _ => false

/-- Neither a blank line nor a comment. -/
def isCode : Statement → Bool
  | .blank | .comment => false
  | _ => true

end Statement

/-- Four letters beyond ASCII have an ASCII letter as a case variant, and names of constants take them. -/
def isConstantStart (c : CodePoint) : Bool :=
  c.isAlpha || c == '_' || c.toNat == 0x130 || c.toNat == 0x131 || c.toNat == 0x17F || c.toNat == 0x212A

def isConstantChar (c : CodePoint) : Bool := isConstantStart c || c.isDigit

/-- The text after white space that stands in front. -/
def afterSpace? (t : Text) : Option Text := if t.head?.any Text.isSpace then some (Text.trimStart t) else none

/-- The text after the keyword in front that defines a constant, in any case of its letters. -/
def afterEqu? (t : Text) : Option Text :=
  if (t.take 3).map CodePoint.toUpper = "EQU" then some (t.drop 3) else none

def afterColon (t : Text) : Text := if t.head? = some ':' then t.tail else t

/-- The name and the value of a well-formed definition of a constant. The value is on one line. -/
def definition? (body : Text) : Option (Text × Text) :=
  if body.head?.any isConstantStart then do
    let spaced ← afterSpace? (afterColon (body.dropWhile isConstantChar))
    let equated ← afterEqu? spaced
    let value ← afterSpace? equated
    if value.isEmpty || ('\n' : CodePoint) ∈ value then none else some (body.takeWhile isConstantChar, value)
  else none

def mentionsEquFrom (inWord : Bool) : Text → Bool
  | [] => false
  | c :: rest =>
    (!inWord && (afterEqu? (c :: rest)).any Text.endsWord) || mentionsEquFrom (Text.isWordChar c) rest

/-- The defining keyword stands somewhere outside quotes as a word. -/
def mentionsEqu (body : Text) : Bool := mentionsEquFrom false (unquoted body)

/-- A label with its colon, and the text after that. -/
def splitLabel? (body : Text) : Option (Text × Text) :=
  if body.head?.any isNameStart then
    match Text.trimStart (body.dropWhile isNameChar) with
    | ':' :: rest => some (body.takeWhile isNameChar, rest)
    | _ => none
  else none

/-- A statement that starts with a keyword, after its label. -/
def keywordStatement (label : Option Text) (t : Text) : Statement :=
  let keyword := Text.upper (t.takeWhile (!Text.isSpace ·))
  let rest := Text.trim (t.dropWhile (!Text.isSpace ·))
  match Width.ofKeyword? keyword with
  | some width => .data label width rest
  | none => if keyword = "ORG" then .origin label rest else .instruction label keyword rest

/-- The line without its comment and without white space around it. -/
def body (line : Text) : Text := Text.trim (stripComment line)

/-- A definition of a constant is looked for first, then a change of section, then a label. -/
def statementOf (body : Text) : Statement :=
  match definition? body with
  | some (name, value) => .constant name value
  | none =>
    if mentionsEqu body then .malformedConstant
    else match Section.ofKeyword? (Text.upper body) with
      | some sec => .enter sec
      | none => match splitLabel? body with
        | none => keywordStatement none body
        | some (name, after) =>
          if (Text.trim after).isEmpty then .label name else keywordStatement (some name) (Text.trim after)

def classify (line : Text) : Statement :=
  if (body line).isEmpty then
    if (Text.trim line).head? = some ';' then .comment else .blank
  else statementOf (body line)

end AsmCheck.Source
