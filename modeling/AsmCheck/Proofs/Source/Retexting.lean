import AsmCheck.Source.Line

/-! Other texts for the same lines. What is done with a line hangs on its number, its statement and its muting; its
text only gives the columns. So lines with other texts are followed through by what becomes of a range. -/

set_option autoImplicit false

namespace AsmCheck

namespace Source

/-- The same statement, or two lines that say nothing. -/
def Statement.Alike (s other : Statement) : Prop := s = other ∨ s.isCode = false ∧ other.isCode = false

theorem Statement.eq_of_isCode {s : Statement} (uncoded : s.isCode = false) : s = .blank ∨ s = .comment := by
  cases s with
  | blank => exact .inl rfl
  | comment => exact .inr rfl
  | _ => cases uncoded

/-- Whatever treats blank lines and comments in the same way cannot tell alike statements apart. -/
theorem Statement.Alike.congr {s other : Statement} (alike : s.Alike other) {α : Type} (view : Statement → α)
    (same : view .comment = view .blank) : view s = view other := by
  rcases alike with rfl | ⟨uncoded, uncoded'⟩
  · rfl
  · rcases Statement.eq_of_isCode uncoded with rfl | rfl <;>
      rcases Statement.eq_of_isCode uncoded' with rfl | rfl <;> simp [same]

/-- Every line gets its text from a list of texts and keeps all else. -/
structure Retexts (texts : List Text) (f : Line → Line) : Prop where
  index : ∀ line, (f line).index = line.index
  muted : ∀ line, (f line).muted = line.muted
  statement : ∀ line, (f line).statement.Alike line.statement
  text : ∀ line, (f line).text = texts.getD line.index []

def Line.retext (texts : List Text) (line : Line) : Line := { line with text := texts.getD line.index [] }

theorem Line.retexts_retext (texts : List Text) : Retexts texts (Line.retext texts) where
  index _ := rfl
  muted _ := rfl
  statement _ := .inl rfl
  text _ := rfl

end Source

/-- The same lines of another text. -/
def Range.within (texts : List Text) (r : Range) : Range :=
  ⟨r.startLine, Source.startColumn (texts.getD r.startLine.toNat []),
    r.endLine, Source.endColumn (texts.getD r.endLine.toNat [])⟩

namespace Source.Retexts

variable {texts : List Text} {f : Line → Line}

theorem rangeTo (retexts : Retexts texts f) (first last : Line) :
    (f first).rangeTo (f last) = (first.rangeTo last).within texts := by
  simp [Line.rangeTo, Range.within, retexts.index, retexts.text]

theorem range (retexts : Retexts texts f) (line : Line) : (f line).range = line.range.within texts :=
  retexts.rangeTo line line

theorem label? (retexts : Retexts texts f) (line : Line) : (f line).label? = line.label? :=
  (retexts.statement line).congr Statement.label? rfl

theorem operands (retexts : Retexts texts f) (line : Line) : (f line).statement.operands = line.statement.operands :=
  (retexts.statement line).congr Statement.operands rfl

theorem isInstruction (retexts : Retexts texts f) (line : Line) (mnemonics : List Text) :
    (f line).statement.isInstruction mnemonics = line.statement.isInstruction mnemonics :=
  (retexts.statement line).congr (·.isInstruction mnemonics) rfl

theorem isCode (retexts : Retexts texts f) (line : Line) : (f line).statement.isCode = line.statement.isCode :=
  (retexts.statement line).congr Statement.isCode rfl

end Source.Retexts

end AsmCheck
