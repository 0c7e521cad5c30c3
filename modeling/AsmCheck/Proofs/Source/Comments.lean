import AsmCheck.Proofs.Source.Columns
import AsmCheck.Proofs.Source.Retexting

/-! Comments behind a line. A semicolon outside quotes ends what a line says, so whatever is written behind it leaves
the statement, the first column and, without a marker of its own, the muting as they were. -/

set_option autoImplicit false

namespace AsmCheck.Source

/-- The quote that is open at the end of a text. -/
def openQuote (t : Text) : Option CodePoint := t.foldl openAfter none

/-- Every semicolon of the line stands in quotes, and the line leaves no quote open. -/
def Commentable (t : Text) : Prop :=
  (∀ i < t.length, t[i]? = some ';' → (openQuote (t.take i)).isSome) ∧ openQuote t = none

instance (t : Text) : Decidable (Commentable t) := inferInstanceAs (Decidable (_ ∧ _))

/-- A line with a comment behind it. -/
def withComment (line comment : Text) : Text := line ++ .scalar ';' :: comment

/-! ## What the scan passes over -/

/-- The characters that a comment scan looks at. -/
def specials : Text := "'\";"

theorem stripComment_plain {c : CodePoint} (quote : isQuote c = false) (semicolon : c ≠ ';') (rest : Text) :
    stripComment (c :: rest) = c :: stripComment rest := by
  simp [stripComment, stripCommentFrom, openAfter, quote, semicolon]

theorem stripComment_of_kind {kind : CodePoint → Bool} {c : CodePoint} (own : kind c = true)
    (ordinary : ∀ special ∈ specials, kind special = false) (rest : Text) :
    stripComment (c :: rest) = c :: stripComment rest := by
  have different : ∀ special ∈ specials, c ≠ special := by
    rintro special listed rfl
    simp [ordinary c listed] at own
  have quote : isQuote c = false := by
    rw [isQuote, Bool.or_eq_false_iff, beq_eq_false_iff_ne, beq_eq_false_iff_ne]
    exact ⟨different _ (by decide), different _ (by decide)⟩
  exact stripComment_plain quote (different _ (by decide)) rest

theorem stripCommentFrom_close {q : CodePoint} {inside : Text} (absent : q ∉ inside) (rest : Text) :
    stripCommentFrom (some q) (inside ++ q :: rest) = inside ++ q :: stripComment rest := by
  induction inside with
  | nil => simp [stripComment, stripCommentFrom, openAfter]
  | cons c more ih =>
    have different : c ≠ q := fun same => absent (by simp [same])
    simp [stripCommentFrom, openAfter, different, ih fun member => absent (by simp [member])]

theorem stripComment_quote {q : CodePoint} (quote : isQuote q = true) (rest : Text) :
    stripComment (q :: rest) = q :: stripCommentFrom (some q) rest := by
  have semicolon : q ≠ ';' := by
    rintro rfl
    cases quote
  simp [stripComment, stripCommentFrom, openAfter, quote, semicolon]

theorem stripCommentFrom_unclosed {q : CodePoint} {t : Text} (absent : q ∉ t) : stripCommentFrom (some q) t = t := by
  induction t with
  | nil => rfl
  | cons c rest ih =>
    have different : c ≠ q := fun same => absent (by simp [same])
    simp [stripCommentFrom, openAfter, different, ih fun member => absent (by simp [member])]

theorem stripComment_spaces {spaces : Text} (blank : ∀ c ∈ spaces, Text.isSpace c = true) (rest : Text) :
    stripComment (spaces ++ rest) = spaces ++ stripComment rest := by
  induction spaces with
  | nil => rfl
  | cons c more ih =>
    have space : Text.isSpace c = true := blank c (by simp)
    rw [List.cons_append, stripComment_of_kind space (by decide), ih fun d member => blank d (by simp [member]),
      List.cons_append]

/-! ## What the line says -/

theorem stripCommentFrom_append {quote : Option CodePoint} {t : Text}
    (quoted : ∀ i < t.length, t[i]? = some ';' → ((t.take i).foldl openAfter quote).isSome) (rest : Text) :
    stripCommentFrom quote (t ++ rest) = t ++ stripCommentFrom (t.foldl openAfter quote) rest := by
  induction t generalizing quote with
  | nil => rfl
  | cons c more ih =>
    have open' : ¬(quote = none ∧ c = ';') := by
      rintro ⟨rfl, rfl⟩
      simpa using quoted 0 (by simp) rfl
    rw [List.cons_append, stripCommentFrom, if_neg open', ih]
    · rfl
    · intro i inside semicolon
      exact quoted (i + 1) (by simpa using inside) (by simpa using semicolon)

variable {line : Text}

theorem Commentable.stripComment_eq (commentable : Commentable line) : stripComment line = line := by
  have stripped := stripCommentFrom_append commentable.1 []
  simpa [stripComment, stripCommentFrom] using stripped

theorem Commentable.stripComment_withComment (commentable : Commentable line) (comment : Text) :
    stripComment (withComment line comment) = line := by
  have closed : line.foldl openAfter none = none := commentable.2
  rw [stripComment, withComment, stripCommentFrom_append commentable.1, closed]
  simp [stripCommentFrom]

theorem Commentable.body_withComment (commentable : Commentable line) (comment : Text) :
    body (withComment line comment) = body line := by
  rw [body, body, commentable.stripComment_withComment, commentable.stripComment_eq]

/-- With a comment behind it, a line that says nothing becomes a comment. -/
def Statement.commented : Statement → Statement
  | .blank => .comment
  | s => s

theorem Statement.commented_alike (s : Statement) : s.commented.Alike s := by
  cases s with
  | blank => exact .inr ⟨rfl, rfl⟩
  | _ => exact .inl rfl

theorem Statement.commented_of_isCode {s : Statement} (code : s.isCode = true) : s.commented = s := by
  cases s with
  | blank => cases code
  | _ => rfl

theorem isSpace_semicolon : Text.isSpace ';' = false := by decide

theorem Commentable.classify_withComment (commentable : Commentable line) (comment : Text) :
    classify (withComment line comment) = (classify line).commented := by
  have same := commentable.body_withComment comment
  cases empty : (body line).isEmpty with
  | false =>
    have code : (classify line).isCode = true := by rw [isCode_classify, empty]; rfl
    rw [Statement.commented_of_isCode code]
    simp [classify, same, empty]
  | true =>
    have blank : Text.trim line = [] := by simpa [body, commentable.stripComment_eq] using empty
    have spaces : Text.trimStart line = [] :=
      List.dropWhile_eq_nil_iff.2 (Text.isBlank_eq_true.1 (Text.trim_eq_nil.1 blank))
    have semicolon : (Text.trim (withComment line comment)).head? = some ';' := by
      rw [Text.trim, withComment, Text.trimStart_append_visible isSpace_semicolon, spaces, List.nil_append,
        Text.trimEnd_cons_visible isSpace_semicolon]
      rfl
    simp [classify, same, empty, blank, semicolon, Statement.commented]

/-! ## Columns and markers -/

theorem startColumn_withComment (visible : Text.isBlank line = false) (comment : Text) :
    startColumn (withComment line comment) = startColumn line := by
  obtain ⟨spaces, c, rest, rfl, blank, clear⟩ := Text.exists_first_visible visible
  rw [withComment, List.append_assoc, List.cons_append, startColumn_of_visible blank clear,
    startColumn_of_visible blank clear]

/-- Whether a marker stands in front, and ends there, does not hang on what follows a semicolon. -/
theorem marks_append {marker : Text} (free : .scalar ';' ∉ marker) (t rest : Text) :
    (marker.isPrefixOf (t ++ .scalar ';' :: rest) && Text.endsWord ((t ++ .scalar ';' :: rest).drop marker.length)) =
      (marker.isPrefixOf t && Text.endsWord (t.drop marker.length)) := by
  induction marker generalizing t with
  | nil =>
    cases t with
    | nil => simp [Text.endsWord, show Text.isWordChar ';' = false from by decide +kernel]
    | cons c more => rfl
  | cons m more ih =>
    obtain ⟨other, later⟩ : ¬.scalar ';' = m ∧ .scalar ';' ∉ more := by simpa using free
    cases t with
    | nil => simp [Ne.symm other]
    | cons c others =>
      simp only [List.cons_append, List.isPrefixOf_cons_cons, List.length_cons, List.drop_succ_cons, Bool.and_assoc,
        ih later others]

theorem hasMarker_withComment {marker : Text} (free : .scalar ';' ∉ marker) (line comment : Text) :
    hasMarker marker (withComment line comment) =
      (hasMarker marker line || hasMarker marker (.scalar ';' :: comment)) := by
  induction line with
  | nil => rfl
  | cons c more ih =>
    rw [withComment] at ih ⊢
    simp only [List.cons_append, hasMarker, Bool.and_assoc, Text.trimStart_append_visible isSpace_semicolon,
      marks_append free, ih, Bool.or_assoc]

/-- The comment brings no marker with it. -/
def Unmarked (comment : Text) : Prop :=
  ignoresItself (.scalar ';' :: comment) = false ∧ ignoresNext (.scalar ';' :: comment) = false

instance (comment : Text) : Decidable (Unmarked comment) := inferInstanceAs (Decidable (_ ∧ _))

theorem Unmarked.ignoresItself_withComment {comment : Text} (unmarked : Unmarked comment) (line : Text) :
    ignoresItself (withComment line comment) = ignoresItself line := by
  have own := unmarked.1
  rw [ignoresItself] at own ⊢
  rw [hasMarker_withComment (by decide), own, Bool.or_false]
  rfl

theorem Unmarked.ignoresNext_withComment {comment : Text} (unmarked : Unmarked comment) (line : Text) :
    ignoresNext (withComment line comment) = ignoresNext line := by
  have own := unmarked.2
  rw [ignoresNext] at own ⊢
  rw [hasMarker_withComment (by decide), own, Bool.or_false]
  rfl

/-! ## Numbered lines -/

/-- Take the texts from a list in which one line has got a comment. -/
def Line.commentAt (texts : List Text) (index : Nat) (line : Line) : Line :=
  { line with
    text := texts.getD line.index []
    statement := if line.index = index then line.statement.commented else line.statement }

theorem Line.retexts_commentAt (texts : List Text) (index : Nat) : Retexts texts (Line.commentAt texts index) where
  index _ := rfl
  muted _ := rfl
  text _ := rfl
  statement line := by
    unfold Line.commentAt
    split
    · exact line.statement.commented_alike
    · exact .inl rfl

/-- A comment at the end of a line changes the text of this line only. -/
theorem number_set_withComment {texts : List Text} {index : Nat} {comment : Text} (found : texts[index]? = some line)
    (commentable : Commentable line) (unmarked : Unmarked comment) :
    number (texts.set index (withComment line comment)) =
      (number texts).map (Line.commentAt (texts.set index (withComment line comment)) index) := by
  have inside : index < texts.length := (List.getElem?_eq_some_iff.1 found).1
  have before (j : Nat) :
      (if j = 0 then none else (texts.set index (withComment line comment))[j - 1]?).any ignoresNext =
        (if j = 0 then none else texts[j - 1]?).any ignoresNext := by
    split
    · rfl
    · by_cases here : index = j - 1
      · rw [← here, List.getElem?_set_self inside, found]
        exact unmarked.ignoresNext_withComment line
      · rw [List.getElem?_set_ne here]
  apply List.ext_getElem?
  intro j
  rw [List.getElem?_map, getElem?_number, getElem?_number, before]
  by_cases here : index = j
  · subst here
    simp [List.getElem?_set_self inside, found, Line.commentAt, commentable.classify_withComment,
      unmarked.ignoresItself_withComment]
  · rw [List.getElem?_set_ne here]
    cases text : texts[j]? with
    | none => rfl
    | some t => simp [Line.commentAt, Ne.symm here, List.getD_eq_getElem?_getD, List.getElem?_set_ne here, text]

end AsmCheck.Source
