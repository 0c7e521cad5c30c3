import AsmCheck.Text.Basic
import Mathlib.Data.List.TakeWhile

/-! White space around a text. A text that starts and ends with something visible is left as it is. -/

set_option autoImplicit false

namespace AsmCheck.Text

theorem trimStart_cons_space {c : CodePoint} (space : isSpace c = true) (rest : Text) :
    trimStart (c :: rest) = trimStart rest := by
  simp [trimStart, space]

theorem trimStart_cons_visible {c : CodePoint} (visible : isSpace c = false) (rest : Text) :
    trimStart (c :: rest) = c :: rest := by
  simp [trimStart, visible]

theorem trimStart_append_visible {c : CodePoint} (visible : isSpace c = false) (t rest : Text) :
    trimStart (t ++ c :: rest) = trimStart t ++ c :: rest := by
  simp only [trimStart, List.dropWhile_append, List.dropWhile_cons, visible]
  split
  · next empty => simp [List.isEmpty_iff.1 empty]
  · rfl

theorem trimEnd_cons_visible {c : CodePoint} (visible : isSpace c = false) (rest : Text) :
    trimEnd (c :: rest) = c :: trimEnd rest := by
  simp only [trimEnd, List.reverse_cons, List.dropWhile_append, List.dropWhile_cons, visible]
  split
  · next empty => simp [List.isEmpty_iff.1 empty]
  · simp

theorem trimEnd_append_blank (t : Text) {blank : Text} (spaces : ∀ c ∈ blank, isSpace c = true) :
    trimEnd (t ++ blank) = trimEnd t := by
  have reversed : ∀ c ∈ blank.reverse, isSpace c = true := fun c member => spaces c (List.mem_reverse.1 member)
  simp only [trimEnd, List.reverse_append]
  rw [List.dropWhile_append_of_pos reversed]

theorem trimEnd_append_visible (t : Text) {rest : Text} {c : CodePoint} (member : c ∈ rest)
    (visible : isSpace c = false) : trimEnd (t ++ rest) = t ++ trimEnd rest := by
  have some : (rest.reverse.dropWhile isSpace).isEmpty = false := by
    rw [Bool.eq_false_iff]
    intro empty
    have spaces := List.dropWhile_eq_nil_iff.1 (List.isEmpty_iff.1 empty)
    simp [spaces c (List.mem_reverse.2 member)] at visible
  simp [trimEnd, List.reverse_append, List.dropWhile_append, some]

theorem trimEnd_prefix (t : Text) : trimEnd t <+: t := by
  have suffix := List.dropWhile_suffix (l := t.reverse) isSpace
  have reversed := List.reverse_prefix.2 suffix
  rwa [List.reverse_reverse] at reversed

/-! ## Blank texts -/

theorem isBlank_eq_true {t : Text} : isBlank t = true ↔ ∀ c ∈ t, isSpace c = true := List.all_eq_true

theorem exists_first_visible {t : Text} (visible : isBlank t = false) :
    ∃ spaces c rest, t = spaces ++ c :: rest ∧ (∀ d ∈ spaces, isSpace d = true) ∧ isSpace c = false := by
  induction t with
  | nil => cases visible
  | cons c rest ih =>
    cases space : isSpace c with
    | false => exact ⟨[], c, rest, rfl, by simp, space⟩
    | true =>
      obtain ⟨spaces, d, more, rfl, blank, clear⟩ := ih (by simpa [isBlank, space] using visible)
      exact ⟨c :: spaces, d, more, rfl, by simpa [space] using blank, clear⟩

theorem isBlank_append_visible {c : CodePoint} (visible : isSpace c = false) (t rest : Text) :
    isBlank (t ++ c :: rest) = false := by
  simp [isBlank, visible]

theorem indent_append_visible {spaces : Text} {c : CodePoint} (blank : ∀ d ∈ spaces, isSpace d = true)
    (visible : isSpace c = false) (rest : Text) : indent (spaces ++ c :: rest) = spaces.length := by
  simp [indent, List.takeWhile_append_of_pos blank, visible]

theorem trim_eq_nil {t : Text} : trim t = [] ↔ isBlank t = true := by
  constructor
  · intro nothing
    by_contra visible
    obtain ⟨spaces, c, rest, rfl, -, clear⟩ := exists_first_visible (Bool.eq_false_iff.2 visible)
    rw [trim, trimStart_append_visible clear, trimEnd_append_visible _ (by simp) clear,
      trimEnd_cons_visible clear] at nothing
    simp at nothing
  · intro blank
    simp [trim, trimStart, List.dropWhile_eq_nil_iff.2 (isBlank_eq_true.1 blank), trimEnd]

/-- Trimming takes off white space and nothing else. -/
theorem exists_spaces_around (t : Text) :
    ∃ before after, t = before ++ trim t ++ after ∧ (∀ c ∈ before, isSpace c = true) ∧ ∀ c ∈ after, isSpace c = true := by
  refine ⟨t.takeWhile isSpace, ((trimStart t).reverse.takeWhile isSpace).reverse, ?_,
    fun c member => List.mem_takeWhile_imp member, fun c member => List.mem_takeWhile_imp (List.mem_reverse.1 member)⟩
  rw [List.append_assoc, trim, trimEnd, ← List.reverse_append, List.takeWhile_append_dropWhile, List.reverse_reverse,
    trimStart, List.takeWhile_append_dropWhile]

/-- The text starts and ends with something visible. -/
structure Tight (t : Text) : Prop where
  first : ∃ c rest, t = c :: rest ∧ isSpace c = false
  last : ∃ front c, t = front ++ [c] ∧ isSpace c = false

theorem Tight.of_visible {t : Text} (some : t ≠ []) (visible : ∀ c ∈ t, isSpace c = false) : Tight t where
  first := by
    obtain ⟨c, rest, rfl⟩ := List.exists_cons_of_ne_nil some
    exact ⟨c, rest, rfl, visible c (by simp)⟩
  last := by
    refine ⟨t.dropLast, t.getLast some, (List.dropLast_concat_getLast some).symm, ?_⟩
    exact visible _ (List.getLast_mem some)

/-- What is left of a text without the white space around it, if anything is. -/
theorem tight_trim {t : Text} (visible : isBlank t = false) : Tight (trim t) where
  first := by
    obtain ⟨spaces, c, rest, rfl, blank, clear⟩ := exists_first_visible visible
    refine ⟨c, trimEnd rest, ?_, clear⟩
    rw [trim, trimStart_append_visible clear, trimStart, List.dropWhile_eq_nil_iff.2 blank, List.nil_append,
      trimEnd_cons_visible clear]
  last := by
    cases kept : (trimStart t).reverse.dropWhile isSpace with
    | nil =>
      have blank := trim_eq_nil.1 (show trim t = [] by simp [trim, trimEnd, kept])
      simp [blank] at visible
    | cons c rest =>
      have clear := List.head_dropWhile_not isSpace (l := (trimStart t).reverse) (by simp [kept])
      simp only [kept, List.head_cons] at clear
      exact ⟨rest.reverse, c, by simp [trim, trimEnd, kept], clear⟩

theorem Tight.visible {t : Text} (tight : Tight t) : ∃ c ∈ t, isSpace c = false := by
  obtain ⟨c, rest, rfl, visible⟩ := tight.first
  exact ⟨c, by simp, visible⟩

theorem Tight.trimStart_append {t : Text} (tight : Tight t) (rest : Text) : trimStart (t ++ rest) = t ++ rest := by
  obtain ⟨c, more, rfl, visible⟩ := tight.first
  exact trimStart_cons_visible visible _

theorem Tight.trimEnd_eq {t : Text} (tight : Tight t) : trimEnd t = t := by
  obtain ⟨front, c, rfl, visible⟩ := tight.last
  simp [trimEnd, visible]

theorem Tight.trim_eq {t : Text} (tight : Tight t) : trim t = t := by
  have start := tight.trimStart_append []
  rw [List.append_nil] at start
  rw [trim, start, tight.trimEnd_eq]

theorem Tight.trim_around {t before after : Text} (tight : Tight t) (front : ∀ c ∈ before, isSpace c = true)
    (back : ∀ c ∈ after, isSpace c = true) : trim (before ++ t ++ after) = t := by
  have start : trimStart (before ++ t ++ after) = t ++ after := by
    rw [List.append_assoc, trimStart, List.dropWhile_append_of_pos front]
    exact tight.trimStart_append after
  rw [trim, start, trimEnd_append_blank t back, tight.trimEnd_eq]

/-- Behind the first character white space is taken off in front only. -/
theorem Tight.exists_trim_tail {c : CodePoint} {rest : Text} (tight : Tight (c :: rest)) :
    ∃ gap, (∀ d ∈ gap, isSpace d = true) ∧ rest = gap ++ trim rest := by
  obtain ⟨before, after, split, front, back⟩ := exists_spaces_around rest
  have nothing : after = [] := by
    by_contra some
    obtain ⟨others, last, same, visible⟩ := tight.last
    rw [split, ← List.dropLast_concat_getLast some, ← List.append_assoc, ← List.cons_append] at same
    have space := back _ (List.getLast_mem some)
    rw [List.singleton_inj.1 (List.append_inj_right' same rfl), visible] at space
    cases space
  exact ⟨before, front, by rw [nothing, List.append_nil] at split; exact split⟩

theorem tight_iff {t : Text} : Tight t ↔ t ≠ [] ∧ trim t = t := by
  constructor
  · intro tight
    obtain ⟨c, rest, rfl, -⟩ := tight.first
    exact ⟨by simp, tight.trim_eq⟩
  · rintro ⟨some, trimmed⟩
    rw [← trimmed]
    apply tight_trim
    rw [Bool.eq_false_iff]
    intro blank
    exact some (trimmed ▸ trim_eq_nil.2 blank)

end AsmCheck.Text
