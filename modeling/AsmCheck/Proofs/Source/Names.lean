import AsmCheck.Proofs.Source.Pieces
import AsmCheck.Source.Statement

/-! Names that statements define. A label is a word that does not start with a digit; a constant may have
four letters beyond ASCII in its name, but neither of them has a quote in it. -/

set_option autoImplicit false

namespace AsmCheck.Source

/-- A word that can name something. -/
def isName (t : Text) : Bool := t.head?.any isNameStart && t.all isNameChar

theorem isNameChar_of_isNameStart {c : CodePoint} (start : isNameStart c = true) : isNameChar c = true := by
  simp only [isNameStart, Bool.and_eq_true] at start
  exact start.1

theorem isName_eq_false {t : Text} {c : CodePoint} (member : c ∈ t) (noName : isNameChar c = false) :
    isName t = false := by
  rw [Bool.eq_false_iff]
  intro name
  simp only [isName, Bool.and_eq_true, List.all_eq_true] at name
  simp [name.2 c member] at noName

theorem isName_takeWhile {t : Text} (start : t.head?.any isNameStart = true) : isName (t.takeWhile isNameChar) = true := by
  cases t with
  | nil => simp at start
  | cons c rest =>
    have first : isNameStart c = true := by simpa using start
    simp [isName, isNameChar_of_isNameStart first, first]

theorem exists_nameChar_of_isName {name : Text} (named : isName name = true) :
    ∃ c more, name = c :: more ∧ isNameChar c = true := by
  cases name with
  | nil => cases named
  | cons c more => exact ⟨c, more, rfl, by simp_all [isName]⟩

/-- Neither white space nor a colon goes on with a name. -/
theorem isNameChar_of_gap {gap : Text} (spaces : ∀ c ∈ gap, Text.isSpace c = true) (after : Text) :
    ∀ c ∈ (gap ++ .scalar ':' :: after).head?, isNameChar c = false := by
  cases gap with
  | nil =>
    rintro c ⟨⟩
    decide
  | cons d more =>
    rintro c ⟨⟩
    rw [Bool.eq_false_iff]
    intro inName
    simp [isSpace_of_isNameChar inName] at spaces

/-- A label is a name with a colon behind it, and white space may stand between the two. -/
theorem exists_of_splitLabel? {t name after : Text} (labelled : splitLabel? t = some (name, after)) :
    isName name = true ∧
      ∃ gap, (∀ c ∈ gap, Text.isSpace c = true) ∧ t = name ++ (gap ++ .scalar ':' :: after) := by
  unfold splitLabel? at labelled
  split at labelled
  · next start =>
    split at labelled
    · next rest colon =>
      cases labelled
      refine ⟨isName_takeWhile start, (t.dropWhile isNameChar).takeWhile Text.isSpace,
        fun c member => List.mem_takeWhile_imp member, ?_⟩
      rw [← colon, Text.trimStart, List.takeWhile_append_dropWhile, List.takeWhile_append_dropWhile]
    · cases labelled
  · cases labelled

theorem label?_keywordStatement (label : Option Text) (t : Text) : (keywordStatement label t).label? = label := by
  unfold keywordStatement
  simp only
  split
  · rfl
  · split <;> rfl

theorem exists_splitLabel?_of_label? {line name : Text} (labelled : (classify line).label? = some name) :
    ∃ after, splitLabel? (body line) = some (name, after) := by
  unfold classify at labelled
  split at labelled
  · split at labelled <;> simp [Statement.label?] at labelled
  · unfold statementOf at labelled
    split at labelled
    · simp [Statement.label?] at labelled
    · split at labelled
      · simp [Statement.label?] at labelled
      · split at labelled
        · simp [Statement.label?] at labelled
        · split at labelled
          · simp [label?_keywordStatement] at labelled
          · next after found =>
            split at labelled
            · cases labelled
              exact ⟨after, found⟩
            · rw [label?_keywordStatement] at labelled
              cases labelled
              exact ⟨after, found⟩

theorem isName_of_label? {line name : Text} (labelled : (classify line).label? = some name) : isName name = true := by
  obtain ⟨after, found⟩ := exists_splitLabel?_of_label? labelled
  exact (exists_of_splitLabel? found).1

theorem isQuote_of_isConstantChar {c : CodePoint} (constant : isConstantChar c = true) : isQuote c = false := by
  cases quote : isQuote c with
  | false => rfl
  | true => rcases eq_of_isQuote quote with rfl | rfl <;> exact absurd constant (by decide)

theorem keywordStatement_ne_constant {label : Option Text} {t name value : Text} :
    keywordStatement label t ≠ .constant name value := by
  unfold keywordStatement
  simp only
  split
  · simp
  · split <;> simp

theorem definition?_of_classify {line name value : Text} (defined : classify line = .constant name value) :
    definition? (body line) = some (name, value) := by
  unfold classify at defined
  split at defined
  · split at defined <;> cases defined
  · unfold statementOf at defined
    split at defined
    · next found =>
      cases defined
      exact found
    · split at defined
      · cases defined
      · split at defined
        · cases defined
        · split at defined
          · exact absurd defined keywordStatement_ne_constant
          · split at defined
            · cases defined
            · exact absurd defined keywordStatement_ne_constant

/-- The name of a definition is as long as it can be and starts the line. -/
theorem name_of_definition? {t name value : Text} (found : definition? t = some (name, value)) :
    t.head?.any isConstantStart = true ∧ name = t.takeWhile isConstantChar := by
  unfold definition? at found
  split at found
  · next start =>
    simp only [Option.bind_eq_bind, Option.bind_eq_some_iff] at found
    obtain ⟨spaced, -, equated, -, rest, -, result⟩ := found
    split at result
    · cases result
    · cases result
      exact ⟨start, rfl⟩
  · cases found

theorem isConstantChar_of_mem_name {line name value : Text} (defined : classify line = .constant name value) :
    ∀ c ∈ name, isConstantChar c = true := by
  rw [(name_of_definition? (definition?_of_classify defined)).2]
  exact fun c member => List.mem_takeWhile_imp member

theorem isConstantStart_of_classify {line name value : Text} (defined : classify line = .constant name value) :
    ∃ c more, name = c :: more ∧ isConstantStart c = true := by
  obtain ⟨start, rfl⟩ := name_of_definition? (definition?_of_classify defined)
  cases first : body line with
  | nil => simp [first] at start
  | cons c rest =>
    have here : isConstantStart c = true := by simpa [first] using start
    exact ⟨c, rest.takeWhile isConstantChar, by simp [isConstantChar, here], here⟩

end AsmCheck.Source
