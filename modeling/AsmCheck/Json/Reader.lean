import AsmCheck.Json.Basic

/-! Reading JSON text. Beyond the standard the words NaN, Infinity and -Infinity are numbers, and of
two members with one name the last gives the value. Arrays and objects nest up to a limit. -/

set_option autoImplicit false

namespace AsmCheck.Json

inductive ReadError where
  | malformed
  | numeral
  | tooDeep
  deriving DecidableEq, Repr

def skipSpace (t : Text) : Text := t.dropWhile fun c => c == ' ' || c == '\t' || c == '\n' || c == '\r'

def escape? : CodePoint → Option CodePoint
  | '"' => some '"'
  | '\\' => some '\\'
  | '/' => some '/'
  | 'b' => some '\x08'
  | 'f' => some '\x0c'
  | 'n' => some '\n'
  | 'r' => some '\r'
  | 't' => some '\t'
  | _ => none

/-- The code points of a string up to its closing quote, each escape as one of them, and the text after that. -/
def units : Text → Option (Text × Text)
  | [] => none
  | '"' :: rest => some ([], rest)
  | '\\' :: 'u' :: a :: b :: c :: d :: rest => do
    let digits ← [a, b, c, d].mapM Numeral.hexDigit?
    let (more, after) ← units rest
    some (CodePoint.ofNat (Numeral.value 16 digits) :: more, after)
  | '\\' :: c :: rest => do
    let unit ← escape? c
    let (more, after) ← units rest
    some (unit :: more, after)
  | c :: rest =>
    if c.toNat < 0x20 then none
    else do
      let (more, after) ← units rest
      some (c :: more, after)

/-- Two surrogates in their order are one character. One without its partner stays what it is. -/
def ofUnits : Text → Text
  | [] => []
  | [u] => [u]
  | u :: v :: rest => match u.pair? v with
    | some c => c :: ofUnits rest
    | none => u :: ofUnits (v :: rest)

def digitRun (t : Text) : Text × Text := (t.takeWhile CodePoint.isDigit, t.dropWhile CodePoint.isDigit)

/-- A single zero, or digits that do not start with one. -/
def wholePart : Text → Text × Text
  | '0' :: rest => (['0'], rest)
  | t => digitRun t

def fractionPart : Text → Text × Text
  | '.' :: rest => match digitRun rest with
    | ([], _) => ([], '.' :: rest)
    | (digits, after) => ('.' :: digits, after)
  | t => ([], t)

def exponentSign : Text → Text × Text
  | '+' :: rest => (['+'], rest)
  | '-' :: rest => (['-'], rest)
  | t => ([], t)

def exponentPart : Text → Text × Text
  | [] => ([], [])
  | c :: rest =>
    if c = 'e' ∨ c = 'E' then
      let (sign, digits) := exponentSign rest
      match digitRun digits with
      | ([], _) => ([], c :: rest)
      | (run, after) => (c :: sign ++ run, after)
    else ([], c :: rest)

def number (t : Text) : Except ReadError (Json × Text) :=
  let (sign, unsigned) : Text × Text := match t with
    | '-' :: rest => (['-'], rest)
    | _ => ([], t)
  let (whole, afterWhole) := wholePart unsigned
  let (fraction, afterFraction) := fractionPart afterWhole
  let (exponent, rest) := exponentPart afterFraction
  if whole.isEmpty then .error .malformed
  else if !fraction.isEmpty || !exponent.isEmpty then
    .ok (.real (sign ++ whole ++ fraction ++ exponent), rest)
  else match Numeral.ofDigits (whole.filterMap Numeral.decimalDigit?) with
    | .error _ => .error .numeral
    | .ok n => .ok (.int (if sign.isEmpty then n else -n), rest)

/-- The values that are written as a word. -/
def words : List (Text × Json) := [
  ("null", .null), ("true", .bool true), ("false", .bool false),
  ("NaN", .real "NaN"), ("Infinity", .real "Infinity"), ("-Infinity", .real "-Infinity")]

def scalar (t : Text) : Except ReadError (Json × Text) :=
  match words.find? fun w => w.1.isPrefixOf t with
  | some (word, v) => .ok (v, t.drop word.length)
  | none => number t

/-- How deep arrays and objects may stand in each other. -/
def nestingLimit : Nat := 985

mutual

/-- A value at the head of a text. `room` counts how many more arrays and objects may be opened in each other. -/
def value : Nat → Nat → Text → Except ReadError (Json × Text)
  | 0, _, _ => .error .malformed
  | _ + 1, _, '"' :: rest => match units rest with
    | some (us, after) => .ok (.str (ofUnits us), after)
    | none => .error .malformed
  | _ + 1, 0, '[' :: _ | _ + 1, 0, '{' :: _ => .error .tooDeep
  | fuel + 1, room + 1, '[' :: rest => match skipSpace rest with
    | ']' :: after => .ok (.arr [], after)
    | inner => do
      let (items, after) ← elements fuel room inner
      .ok (.arr items, after)
  | fuel + 1, room + 1, '{' :: rest => match skipSpace rest with
    | '}' :: after => .ok (.obj [], after)
    | inner => do
      let (pairs, after) ← members fuel room inner
      .ok (.obj (Bindings.ofPairs pairs), after)
  | _ + 1, _, t => scalar t

def elements : Nat → Nat → Text → Except ReadError (List Json × Text)
  | 0, _, _ => .error .malformed
  | fuel + 1, room, t => do
    let (item, rest) ← value fuel room t
    match skipSpace rest with
    | ',' :: more => do
      let (items, after) ← elements fuel room (skipSpace more)
      .ok (item :: items, after)
    | ']' :: after => .ok ([item], after)
    | _ => .error .malformed

def members : Nat → Nat → Text → Except ReadError (List (Text × Json) × Text)
  | 0, _, _ => .error .malformed
  | fuel + 1, room, '"' :: t => match units t with
    | none => .error .malformed
    | some (us, afterName) => match skipSpace afterName with
      | ':' :: afterColon => do
        let (item, rest) ← value fuel room (skipSpace afterColon)
        match skipSpace rest with
        | ',' :: more => do
          let (pairs, after) ← members fuel room (skipSpace more)
          .ok ((ofUnits us, item) :: pairs, after)
        | '}' :: after => .ok ([(ofUnits us, item)], after)
        | _ => .error .malformed
      | _ => .error .malformed
  | _ + 1, _, _ => .error .malformed

end

/-- The whole text is one value with white space around it. Every call of the reader that does not
end takes a character or is the only one at its place, so the fuel never runs out. -/
def read (t : Text) : Except ReadError Json :=
  match value (2 * t.length + 2) nestingLimit (skipSpace t) with
  | .error e => .error e
  | .ok (v, rest) => if (skipSpace rest).isEmpty then .ok v else .error .malformed

end AsmCheck.Json
