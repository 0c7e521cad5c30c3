import AsmCheck.Proofs.Editor.Lexemes
import AsmCheck.Proofs.Text.Upper
import AsmCheck.Proofs.Text.Words
import Mathlib.Data.List.Pairwise

/-! Spans of a line. The colouring looks for the comment by a scan of its own, which stops where the line is cut off
before it is read. All spans but those of quoted texts stand before that place, apart from each other, and the label of
the line is coloured as one. -/

set_option autoImplicit false

namespace AsmCheck

namespace Text

theorem isSpace_digits : ∀ start ∈ digitZeros, ∀ i < 10, isSpace (.ofNat (start + i)) = false := by
  decide +kernel

theorem isDigit_of_isSpace {c : CodePoint} (space : isSpace c = true) : isDigit c = false := by
  rw [Bool.eq_false_iff]
  intro digit
  obtain ⟨start, zero, low, high⟩ := exists_zero_of_isDigit digit
  have visible := isSpace_digits start zero (c.toNat - start) (by omega)
  rw [Nat.add_sub_cancel' low, c.ofNat_toNat] at visible
  simp [visible] at space

end Text

namespace Editor

open Source (isQuote openAfter isNameStart isNameChar isName stripCommentFrom stripComment classify)

def Span.stop (s : Span) : Nat := s.start + s.length

/-- Neither span reaches into the other. -/
def Span.Apart (s other : Span) : Prop := s.stop ≤ other.start ∨ other.stop ≤ s.start

/-- The spans of a line agree with what the line says. -/
structure Agrees (line : Text) (spans : List Span) : Prop where
  inside : ∀ s ∈ spans, s.stop ≤ line.length
  commented : (∃ s ∈ spans, s.style = .comment) ↔ (stripComment line).length < line.length
  comment : ∀ s ∈ spans, s.style = .comment → line.take s.start = stripComment line ∧ s.stop = line.length
  code : ∀ s ∈ spans, s.style ≠ .string → s.style ≠ .comment → s.stop ≤ (stripComment line).length
  apart : (spans.filter (·.style ≠ .string)).Pairwise Span.Apart
  strings : ∀ s ∈ spans, s.style = .string → s.start < (stripComment line).length →
    s.stop ≤ (stripComment line).length ∧ ∀ other ∈ spans, other.style ≠ .string → s.Apart other
  label : ∀ name, (classify line).label? = some name → ⟨Text.indent line, name.length, .label⟩ ∈ spans

/-! ## The two scans for a comment -/

/-- The scan for the place of the comment and the scan that cuts it off keep the same quote and stop together. -/
theorem commentIndexFrom_eq (place : Nat) (quote : Option CodePoint) (t : Text) :
    commentIndexFrom place quote t =
      if (stripCommentFrom quote t).length < t.length then some (place + (stripCommentFrom quote t).length) else none := by
  induction t generalizing place quote with
  | nil => cases quote <;> rfl
  | cons c rest ih =>
    have shift (q : Option CodePoint) : commentIndexFrom (place + 1) q rest =
        if (stripCommentFrom q rest).length + 1 < rest.length + 1 then
          some (place + ((stripCommentFrom q rest).length + 1)) else none := by
      rw [ih, Nat.add_assoc, Nat.add_comm 1]
      simp only [Nat.add_lt_add_iff_right]
    cases quote with
    | some q =>
      rw [commentIndexFrom, shift]
      simp [stripCommentFrom, openAfter]
    | none =>
      by_cases quoted : isQuote c = true
      · have other : c ≠ ';' := by
          rintro rfl
          cases quoted
        rw [commentIndexFrom, if_pos quoted, shift]
        simp [stripCommentFrom, openAfter, quoted, other]
      · by_cases semicolon : c = ';'
        · rw [commentIndexFrom, if_neg quoted, if_pos semicolon]
          simp [stripCommentFrom, semicolon]
        · rw [commentIndexFrom, if_neg quoted, if_neg semicolon, shift]
          simp [stripCommentFrom, openAfter, quoted, semicolon]

theorem commentIndex?_eq (line : Text) : commentIndex? line =
    if (stripComment line).length < line.length then some (stripComment line).length else none := by
  rw [commentIndex?, commentIndexFrom_eq, Nat.zero_add]
  rfl

theorem length_stripComment_le (line : Text) : (stripComment line).length ≤ line.length :=
  (Source.isPrefix_stripCommentFrom none line).length_le

theorem codeEnd_eq (line : Text) : codeEnd line = (stripComment line).length := by
  have bound := length_stripComment_le line
  rw [codeEnd, commentIndex?_eq]
  split
  · rfl
  · next whole => exact (Nat.le_of_not_lt whole).antisymm bound

theorem take_codeEnd (line : Text) : line.take (codeEnd line) = stripComment line := by
  rw [codeEnd_eq]
  exact (List.prefix_iff_eq_take.1 (Source.isPrefix_stripCommentFrom none line)).symm

/-! ## White space -/

theorem lexemeAt?_space {c : CodePoint} (space : Text.isSpace c = true) (rest : Text) : lexemeAt? (c :: rest) = none := by
  have digit : Text.isDigit c = false := Text.isDigit_of_isSpace space
  have quote : isQuote c = false := by
    cases quote : isQuote c with
    | false => rfl
    | true => simp [Source.isSpace_of_isQuote quote] at space
  have name : isNameStart c = false := by
    cases name : isNameStart c with
    | false => rfl
    | true => simp [Source.isSpace_of_isNameChar (Source.isNameChar_of_isNameStart name)] at space
  have different : c ≠ '0' ∧ c ≠ '-' := by
    constructor
    all_goals
      rintro rfl
      exact absurd space (by decide)
  simp only [lexemeAt?, numberAt?_eq, unsignedAt?, markedAt?_eq, decimalAt?_eq]
  simp [quotedAt?, nameAt?, behind, runAt?, quote, name, different, digit]

theorem lexemesFrom_spaces {spaces : Text} (blank : ∀ c ∈ spaces, Text.isSpace c = true) (place : Nat) (rest : Text) :
    lexemesFrom place (spaces ++ rest) = lexemesFrom (place + spaces.length) rest := by
  induction spaces generalizing place with
  | nil => rfl
  | cons c more ih =>
    have space : Text.isSpace c = true := blank c (by simp)
    rw [List.cons_append, lexemesFrom_nothing (lexemeAt?_space space _), ih fun d member => blank d (by simp [member]),
      List.length_cons]
    congr 1
    omega

/-- In a blank line there is nothing to colour. -/
theorem highlight_eq (set : InstructionSet) (line : Text) :
    highlight set line = stringSpans line ++ commentSpans line ++ codeSpans set line := by
  unfold highlight
  split
  · next blank =>
    have spaces := Text.isBlank_eq_true.1 blank
    have whole : stripComment line = line := by
      have stripped := Source.stripComment_spaces spaces []
      simpa [stripComment, Source.stripCommentFrom] using stripped
    have nothing : lexemes line = [] := by
      have passed := lexemesFrom_spaces spaces 0 []
      simpa [lexemes, lexemesFrom] using passed
    simp [stringSpans, commentSpans, commentIndex?_eq, codeSpans, take_codeEnd, whole, nothing]
  · rfl

/-! ## Where the spans stand -/

variable {set : InstructionSet} {line : Text} {s other : Span} {l : Lexeme}

/-- The span of a lexeme, in some style. -/
def Lexeme.span (l : Lexeme) (style : Style) : Span := ⟨l.start, l.text.length, style⟩

theorem mem_stringSpans : s ∈ stringSpans line ↔ ∃ l ∈ lexemes line, l.isQuoted = true ∧ s = l.span .string := by
  simp only [stringSpans, List.mem_map, List.mem_filter, and_assoc, Lexeme.span, eq_comm]

theorem mem_commentSpans : s ∈ commentSpans line ↔ (stripComment line).length < line.length ∧
    s = ⟨(stripComment line).length, line.length - (stripComment line).length, .comment⟩ := by
  rw [commentSpans, commentIndex?_eq]
  split_ifs with shorter
  · simp [shorter]
  · simp [shorter]

theorem mem_codeSpans : s ∈ codeSpans set line ↔ ∃ l ∈ lexemes (stripComment line),
    ∃ style, styleOf? set line (stripComment line).length l = some style ∧ s = l.span style := by
  rw [codeSpans, take_codeEnd, codeEnd_eq]
  simp only [List.mem_filterMap, Option.map_eq_some_iff, Lexeme.span, @eq_comm _ s]

/-- Quoted texts and comments have their styles from elsewhere. -/
theorem styleOf?_code {codeEnd : Nat} {style : Style} (styled : styleOf? set line codeEnd l = some style) :
    l.isQuoted = false ∧ style ≠ .string ∧ style ≠ .comment := by
  unfold styleOf? at styled
  simp only at styled
  split at styled
  · cases styled
  · next plain =>
    refine ⟨by simpa using plain, ?_⟩
    split_ifs at styled <;> cases styled <;> decide

theorem lexemes_bounds {t : Text} (member : l ∈ lexemes t) : l.stop ≤ t.length := by
  have bounds := lexemesFrom_bounds 0 t l member
  omega

def Lexeme.Apart (l k : Lexeme) : Prop := l.stop ≤ k.start ∨ k.stop ≤ l.start

instance : Std.Symm Lexeme.Apart := ⟨fun _ _ => Or.symm⟩

theorem lexemes_apart {t : Text} {k : Lexeme} (first : l ∈ lexemes t) (second : k ∈ lexemes t) (different : l ≠ k) :
    l.Apart k := by
  have apart : (lexemes t).Pairwise Lexeme.Apart := (lexemesFrom_pairwise 0 t).imp fun order => .inl order
  exact apart.forall first second different

theorem mem_lexemes_stripComment (member : l ∈ lexemes line) (before : l.start < (stripComment line).length) :
    l ∈ lexemes (stripComment line) := by
  rw [lexemes, lexemesFrom_stripComment, List.mem_filter]
  exact ⟨member, by simpa using before⟩

theorem stop_of_mem_codeSpans (member : s ∈ codeSpans set line) : s.stop ≤ (stripComment line).length := by
  obtain ⟨l, listed, style, -, rfl⟩ := mem_codeSpans.1 member
  exact lexemes_bounds listed

theorem pairwise_codeSpans (set : InstructionSet) (line : Text) : (codeSpans set line).Pairwise Span.Apart := by
  rw [codeSpans, List.pairwise_filterMap]
  refine (lexemesFrom_pairwise 0 _).imp ?_
  intro l k order s styled other styledOther
  obtain ⟨style, -, rfl⟩ := Option.map_eq_some_iff.1 styled
  obtain ⟨style', -, rfl⟩ := Option.map_eq_some_iff.1 styledOther
  exact .inl order

/-! ## Labels -/

theorem isQuoted_of_isName {name : Text} (named : isName name = true) (place : Nat) :
    Lexeme.isQuoted ⟨place, name⟩ = false := by
  obtain ⟨c, more, rfl, first⟩ := Source.exists_nameChar_of_isName named
  simp [Lexeme.isQuoted, Source.isQuote_of_isNameChar first]

theorem lexemeAt?_name {name rest : Text} (named : isName name = true)
    (stop : ∀ c ∈ rest.head?, isNameChar c = false) : lexemeAt? (name ++ rest) = some name := by
  obtain ⟨start, inside⟩ : name.head?.any isNameStart = true ∧ ∀ c ∈ name, isNameChar c = true := by
    simpa [isName] using named
  have unquoted : quotedAt? (name ++ rest) = none := by
    cases name with
    | nil => cases start
    | cons c more => simp [quotedAt?, Source.isQuote_of_isNameChar (inside c (by simp))]
  have found : nameAt? (name ++ rest) = some name :=
    (runAt?_eq_some Source.isNameChar_of_isNameStart).2 ⟨start, inside, rest, rfl, stop⟩
  rw [lexemeAt?, unquoted, found]
  rfl

/-- The label of a line stands in front of its colon, before the comment. -/
theorem exists_of_label? {name : Text} (labelled : (classify line).label? = some name) :
    ∃ before gap after, (∀ c ∈ before, Text.isSpace c = true) ∧ (∀ c ∈ gap, Text.isSpace c = true) ∧
      stripComment line = before ++ (name ++ (gap ++ .scalar ':' :: after)) := by
  obtain ⟨after, split⟩ := Source.exists_splitLabel?_of_label? labelled
  obtain ⟨-, gap, spaces, body⟩ := Source.exists_of_splitLabel? split
  obtain ⟨before, behind, whole, front, -⟩ := Text.exists_spaces_around (stripComment line)
  refine ⟨before, gap, after ++ behind, front, spaces, ?_⟩
  change Text.trim (stripComment line) = _ at body
  rw [whole, body]
  simp

theorem label_mem_codeSpans {name : Text} (labelled : (classify line).label? = some name) :
    ⟨Text.indent line, name.length, .label⟩ ∈ codeSpans set line := by
  obtain ⟨before, gap, after, front, spaces, code⟩ := exists_of_label? labelled
  obtain ⟨comment, whole⟩ := Source.isPrefix_stripCommentFrom none line
  have parts : line = before ++ (name ++ (gap ++ .scalar ':' :: (after ++ comment))) := by
    change stripComment line ++ comment = line at whole
    rw [← whole, code]
    simp
  have named : isName name = true := Source.isName_of_label? labelled
  have column : Text.indent line = before.length := by
    obtain ⟨c, more, rfl, first⟩ := Source.exists_nameChar_of_isName named
    rw [parts]
    exact Text.indent_append_visible front (Source.isSpace_of_isNameChar first) _
  have listed : ⟨before.length, name⟩ ∈ lexemes (stripComment line) := by
    have found := lexemeAt?_name named (Source.isNameChar_of_gap spaces after)
    rw [code, lexemes, lexemesFrom_spaces front, lexemesFrom_found found, Nat.zero_add]
    exact List.mem_cons_self
  have styled : styleOf? set line (stripComment line).length ⟨before.length, name⟩ = some .label := by
    have inCode : before.length + name.length < (stripComment line).length := by
      simp only [code, List.length_append, List.length_cons]
      omega
    have colon : (Text.trimStart (line.drop (before.length + name.length))).head? = some ':' := by
      have skipped : Text.trimStart gap = [] := List.dropWhile_eq_nil_iff.2 spaces
      rw [parts, ← List.append_assoc, ← List.length_append, List.drop_left, Text.trimStart_append_visible (by decide),
        skipped]
      rfl
    simp [styleOf?, isQuoted_of_isName named, Lexeme.stop, inCode, colon]
  rw [column]
  exact mem_codeSpans.2 ⟨_, listed, .label, styled, rfl⟩

/-! ## All spans -/

theorem style_of_mem_stringSpans (member : s ∈ stringSpans line) : s.style = .string := by
  obtain ⟨l, -, -, rfl⟩ := mem_stringSpans.1 member
  rfl

theorem style_of_mem_commentSpans (member : s ∈ commentSpans line) : s.style = .comment := by
  obtain ⟨-, rfl⟩ := mem_commentSpans.1 member
  rfl

theorem style_of_mem_codeSpans (member : s ∈ codeSpans set line) : s.style ≠ .string ∧ s.style ≠ .comment := by
  obtain ⟨l, -, style, styled, rfl⟩ := mem_codeSpans.1 member
  exact (styleOf?_code styled).2

theorem mem_highlight : s ∈ highlight set line ↔
    s ∈ stringSpans line ∨ s ∈ commentSpans line ∨ s ∈ codeSpans set line := by
  rw [highlight_eq, List.append_assoc, List.mem_append, List.mem_append]

theorem mem_stringSpans_of_style (member : s ∈ highlight set line) (style : s.style = .string) :
    s ∈ stringSpans line := by
  rcases mem_highlight.1 member with string | comment | code
  · exact string
  · simp [style_of_mem_commentSpans comment] at style
  · exact absurd style (style_of_mem_codeSpans code).1

theorem mem_commentSpans_of_style (member : s ∈ highlight set line) (style : s.style = .comment) :
    s ∈ commentSpans line := by
  rcases mem_highlight.1 member with string | comment | code
  · simp [style_of_mem_stringSpans string] at style
  · exact comment
  · exact absurd style (style_of_mem_codeSpans code).2

theorem mem_codeSpans_of_style (member : s ∈ highlight set line) (noString : s.style ≠ .string)
    (noComment : s.style ≠ .comment) : s ∈ codeSpans set line := by
  rcases mem_highlight.1 member with string | comment | code
  · exact absurd (style_of_mem_stringSpans string) noString
  · exact absurd (style_of_mem_commentSpans comment) noComment
  · exact code

theorem pairwise_comment_code (set : InstructionSet) (line : Text) :
    (commentSpans line ++ codeSpans set line).Pairwise Span.Apart := by
  have alone : (commentSpans line).Pairwise Span.Apart := by
    unfold commentSpans
    split
    · exact List.pairwise_singleton _ _
    · exact .nil
  refine List.pairwise_append.2 ⟨alone, pairwise_codeSpans set line, ?_⟩
  intro s comment other code
  obtain ⟨-, rfl⟩ := mem_commentSpans.1 comment
  exact .inr (stop_of_mem_codeSpans code)

/-- Quoted texts that start before the comment end there too, apart from all that is coloured otherwise. -/
theorem stringSpans_apart (member : s ∈ stringSpans line) (before : s.start < (stripComment line).length) :
    s.stop ≤ (stripComment line).length ∧ ∀ other ∈ codeSpans set line, s.Apart other := by
  obtain ⟨l, listed, quoted, rfl⟩ := mem_stringSpans.1 member
  have early : l ∈ lexemes (stripComment line) := mem_lexemes_stripComment listed before
  refine ⟨lexemes_bounds early, ?_⟩
  intro other coded
  obtain ⟨k, listedToo, style, styled, rfl⟩ := mem_codeSpans.1 coded
  have different : l ≠ k := by
    rintro rfl
    simp [(styleOf?_code styled).1] at quoted
  exact lexemes_apart early listedToo different

/-- Colouring and reading a line go by the same quotes, the same comment and the same label, whatever the set. -/
theorem highlight_agrees_with_line (set : InstructionSet) (line : Text) : Agrees line (highlight set line) where
  inside := by
    intro s member
    have bound := length_stripComment_le line
    rcases mem_highlight.1 member with string | comment | code
    · obtain ⟨l, listed, -, rfl⟩ := mem_stringSpans.1 string
      exact lexemes_bounds listed
    · obtain ⟨-, rfl⟩ := mem_commentSpans.1 comment
      exact (Nat.add_sub_cancel' bound).le
    · exact (stop_of_mem_codeSpans code).trans bound
  commented := by
    constructor
    · rintro ⟨s, member, style⟩
      exact (mem_commentSpans.1 (mem_commentSpans_of_style member style)).1
    · intro shorter
      exact ⟨_, mem_highlight.2 (.inr (.inl (mem_commentSpans.2 ⟨shorter, rfl⟩))), rfl⟩
  comment := by
    intro s member style
    obtain ⟨shorter, rfl⟩ := mem_commentSpans.1 (mem_commentSpans_of_style member style)
    refine ⟨?_, Nat.add_sub_cancel' shorter.le⟩
    rw [← codeEnd_eq, take_codeEnd]
  code s member noString noComment := stop_of_mem_codeSpans (mem_codeSpans_of_style member noString noComment)
  apart := by
    have strings : (stringSpans line).filter (·.style ≠ .string) = [] := by
      rw [List.filter_eq_nil_iff]
      intro s member
      simp [style_of_mem_stringSpans member]
    rw [highlight_eq, List.append_assoc, List.filter_append, strings, List.nil_append]
    exact (pairwise_comment_code set line).filter _
  strings := by
    intro s member style before
    obtain ⟨inCode, apart⟩ := stringSpans_apart (mem_stringSpans_of_style member style) before
    refine ⟨inCode, ?_⟩
    intro other listed noString
    by_cases comment : other.style = .comment
    · obtain ⟨-, rfl⟩ := mem_commentSpans.1 (mem_commentSpans_of_style listed comment)
      exact .inl inCode
    · exact apart other (mem_codeSpans_of_style listed noString comment)
  label name labelled := mem_highlight.2 (.inr (.inr (label_mem_codeSpans labelled)))

/-- A quoted semicolon before the comment, and quotes in the comment. -/
example : highlight ⟨.int 1, [], [], [], [], []⟩ " x : DB ';', -1 ; it's 'y'" =
    [⟨8, 3, .string⟩, ⟨20, 4, .string⟩, ⟨16, 10, .comment⟩, ⟨1, 1, .label⟩, ⟨5, 2, .directive⟩, ⟨13, 2, .number⟩] := by
  decide +kernel

end Editor

end AsmCheck
