import AsmCheck.Proofs.Source.Lines
import AsmCheck.Proofs.Text.Trimming

/-! The visible part of a line. A line that says something is not blank, so its first column is that of something
visible and comes before its last. -/

set_option autoImplicit false

namespace AsmCheck

namespace Source

theorem isCode_keywordStatement (label : Option Text) (t : Text) : (keywordStatement label t).isCode = true := by
  unfold keywordStatement
  simp only
  split
  · rfl
  · split <;> rfl

theorem isCode_statementOf (t : Text) : (statementOf t).isCode = true := by
  unfold statementOf
  split
  · rfl
  · split
    · rfl
    · split
      · rfl
      · split
        · exact isCode_keywordStatement _ _
        · split
          · rfl
          · exact isCode_keywordStatement _ _

theorem isCode_classify (line : Text) : (classify line).isCode = !(body line).isEmpty := by
  unfold classify
  split
  · next empty =>
    rw [empty]
    split <;> rfl
  · next visible => simp [isCode_statementOf, visible]

theorem isPrefix_stripCommentFrom (quote : Option CodePoint) (t : Text) : stripCommentFrom quote t <+: t := by
  induction t generalizing quote with
  | nil => exact List.nil_prefix
  | cons c rest ih =>
    rw [stripCommentFrom]
    split
    · exact List.nil_prefix
    · exact List.cons_prefix_cons.2 ⟨rfl, ih _⟩

theorem isBlank_of_isCode {line : Text} (code : (classify line).isCode = true) : Text.isBlank line = false := by
  rw [isCode_classify] at code
  by_contra blank
  have spaces := Text.isBlank_eq_true.1 (Bool.not_eq_false _ ▸ blank)
  have nothing : body line = [] := Text.trim_eq_nil.2 <| Text.isBlank_eq_true.2 fun c member =>
    spaces c ((isPrefix_stripCommentFrom none line).subset member)
  simp [nothing] at code

theorem isBlank_of_mem_number {texts : List Text} {line : Line} (member : line ∈ number texts)
    (code : line.statement.isCode = true) : Text.isBlank line.text = false := by
  apply isBlank_of_isCode
  rwa [← statement_of_mem_numberFrom member]

theorem startColumn_of_visible {spaces : Text} {c : CodePoint} (blank : ∀ d ∈ spaces, Text.isSpace d = true)
    (visible : Text.isSpace c = false) (rest : Text) : startColumn (spaces ++ c :: rest) = spaces.length := by
  rw [startColumn, Text.isBlank_append_visible visible, Text.indent_append_visible blank visible]
  rfl

theorem endColumn_of_visible {c : CodePoint} (visible : Text.isSpace c = false) (front rest : Text) :
    front.length < endColumn (front ++ c :: rest) := by
  rw [endColumn, Text.trimEnd_append_visible front List.mem_cons_self visible, Text.trimEnd_cons_visible visible]
  simp

end Source

/-- The range lies in a text: it starts at the first visible character of a line and ends behind the last one of the
same line or a later one, and both lines are found. -/
structure Range.FitsIn (texts : List Text) (r : Range) : Prop where
  nonneg : 0 ≤ r.startLine
  ordered : r.startLine ≤ r.endLine
  inside : r.endLine < texts.length
  found : Source.span? texts r.startLine r.endLine = some r
  starts : ∃ spaces c rest, texts[r.startLine.toNat]? = some (spaces ++ c :: rest) ∧
    (∀ d ∈ spaces, Text.isSpace d = true) ∧ Text.isSpace c = false ∧ r.startColumn = spaces.length
  ends : ∃ text, texts[r.endLine.toNat]? = some text ∧ r.endColumn = (Text.trimEnd text).length
  visible : r.startLine = r.endLine → r.startColumn < r.endColumn

namespace Source

theorem span?_of_mem_number {texts : List Text} {first last : Line} (start : first ∈ number texts)
    (stop : last ∈ number texts) : span? texts first.index last.index = some (first.rangeTo last) := by
  have here := text_of_mem_number start
  have there := text_of_mem_number stop
  simp [span?, atPosition?, here, there, Line.rangeTo]

theorem Line.rangeTo_fitsIn {texts : List Text} {first last : Line} (start : first ∈ number texts)
    (stop : last ∈ number texts) (code : first.statement.isCode = true) (ordered : first.index ≤ last.index) :
    (first.rangeTo last).FitsIn texts := by
  have here := text_of_mem_number start
  have there := text_of_mem_number stop
  obtain ⟨spaces, c, rest, text, blank, clear⟩ := Text.exists_first_visible (isBlank_of_mem_number start code)
  rw [text] at here
  have column : startColumn first.text = spaces.length := by rw [text, startColumn_of_visible blank clear]
  refine ⟨Int.natCast_nonneg _, Int.ofNat_le.2 ordered, ?_, span?_of_mem_number start stop,
    ⟨spaces, c, rest, here, blank, clear, column⟩, ⟨last.text, there, rfl⟩, ?_⟩
  · exact Int.ofNat_lt.2 (List.getElem?_eq_some_iff.1 there).1
  · intro same
    -- On one line both columns are read from the same text.
    have lines : first.index = last.index := Int.ofNat_inj.1 same
    rw [lines, there] at here
    have whole : last.text = spaces ++ c :: rest := Option.some.inj here
    change startColumn first.text < endColumn last.text
    rw [column, whole]
    exact endColumn_of_visible clear spaces rest

end Source

end AsmCheck
