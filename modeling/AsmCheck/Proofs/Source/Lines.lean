import AsmCheck.Source.Line

/-! The lines of a source text. Lines written with a line feed after each are read back, and numbering
gives every line its own statement and a number greater than those before it. -/

set_option autoImplicit false

namespace AsmCheck

namespace Text

theorem lines_feed (rest : Text) : lines ('\n' :: rest) = [] :: lines rest := by
  rw [lines]
  · rfl
  · intro after same
    simp at same

theorem lines_cons {c : CodePoint} (unbroken : isBreak c = false) (rest : Text) :
    lines (c :: rest) = consHead c (lines rest) := by
  rw [lines]
  · simp [unbroken]
  · rintro after rfl
    simp [isBreak, CodePoint.toNat] at unbroken

theorem lines_append_feed {line : Text} (unbroken : ∀ c ∈ line, isBreak c = false) (rest : Text) :
    lines (line ++ .scalar '\n' :: rest) = line :: lines rest := by
  induction line with
  | nil => exact lines_feed rest
  | cons c more ih =>
    rw [List.cons_append, lines_cons (unbroken c (by simp)), ih fun d member => unbroken d (by simp [member])]
    rfl

theorem lines_terminated {texts : List Text} (unbroken : ∀ line ∈ texts, ∀ c ∈ line, isBreak c = false) :
    lines (terminated texts) = texts := by
  induction texts with
  | nil => rfl
  | cons line rest ih =>
    have whole : terminated (line :: rest) = line ++ .scalar '\n' :: terminated rest := by simp [terminated]
    rw [whole, lines_append_feed (unbroken line (by simp)), ih fun other member => unbroken other (by simp [member])]

end Text

namespace Source

theorem numberFrom_append (previous : Option Text) (index : Nat) (first second : List Text) :
    numberFrom previous index (first ++ second) =
      numberFrom previous index first ++ numberFrom (first.getLast?.or previous) (index + first.length) second := by
  induction first generalizing previous index with
  | nil => simp [numberFrom]
  | cons t rest ih =>
    simp only [List.cons_append, numberFrom, ih, List.cons.injEq, true_and]
    congr 2
    · cases rest with
      | nil => rfl
      | cons u more => simp [List.getLast?_cons]
    · simp only [List.length_cons]
      omega

theorem statement_of_mem_numberFrom {previous : Option Text} {index : Nat} {texts : List Text} {line : Line}
    (member : line ∈ numberFrom previous index texts) : line.statement = classify line.text := by
  induction texts generalizing previous index with
  | nil => simp [numberFrom] at member
  | cons t rest ih =>
    rcases List.mem_cons.1 member with rfl | later
    · rfl
    · exact ih later

theorem le_index_of_mem_numberFrom {previous : Option Text} {index : Nat} {texts : List Text} {line : Line}
    (member : line ∈ numberFrom previous index texts) : index ≤ line.index := by
  induction texts generalizing previous index with
  | nil => simp [numberFrom] at member
  | cons t rest ih =>
    rcases List.mem_cons.1 member with rfl | later
    · exact Nat.le_refl _
    · exact Nat.le_of_succ_le (ih later)

theorem numberFrom_sorted (previous : Option Text) (index : Nat) (texts : List Text) :
    (numberFrom previous index texts).Pairwise (·.index < ·.index) := by
  induction texts generalizing previous index with
  | nil => exact .nil
  | cons t rest ih =>
    refine .cons ?_ (ih _ _)
    intro line member
    exact le_index_of_mem_numberFrom member

theorem index_of_numberFrom {previous : Option Text} {index : Nat} {texts : List Text} {before after : List Line}
    {line : Line} (split : numberFrom previous index texts = before ++ line :: after) :
    line.index = index + before.length := by
  induction texts generalizing previous index before with
  | nil => simp [numberFrom] at split
  | cons t rest ih =>
    cases before with
    | nil =>
      cases (List.cons.inj split).1
      rfl
    | cons first more =>
      rw [ih (List.cons.inj split).2, List.length_cons]
      omega

theorem getElem?_numberFrom (previous : Option Text) (index : Nat) (texts : List Text) (j : Nat) :
    (numberFrom previous index texts)[j]? = texts[j]?.map fun t =>
      ⟨index + j, t, classify t, ignoresItself t || (if j = 0 then previous else texts[j - 1]?).any ignoresNext⟩ := by
  induction texts generalizing previous index j with
  | nil => rfl
  | cons t rest ih =>
    cases j with
    | zero => rfl
    | succ j =>
      rw [numberFrom, List.getElem?_cons_succ, ih, List.getElem?_cons_succ]
      cases j with
      | zero => rfl
      | succ j => simp [Nat.add_assoc, Nat.add_comm 1]

/-- The line at a place has this place as its number, and it is muted by itself or by the line before. -/
theorem getElem?_number (texts : List Text) (j : Nat) :
    (number texts)[j]? = texts[j]?.map fun t =>
      ⟨j, t, classify t, ignoresItself t || (if j = 0 then none else texts[j - 1]?).any ignoresNext⟩ := by
  rw [number, getElem?_numberFrom, Nat.zero_add]

theorem map_statement_numberFrom (previous : Option Text) (index : Nat) (texts : List Text) :
    (numberFrom previous index texts).map Line.statement = texts.map classify := by
  induction texts generalizing previous index with
  | nil => rfl
  | cons t rest ih => simp [numberFrom, ih]

theorem map_index_number (texts : List Text) : (number texts).map Line.index = List.range texts.length := by
  apply List.ext_getElem?
  intro j
  rw [List.getElem?_map, getElem?_number]
  by_cases inside : j < texts.length <;> simp [inside]

theorem text_of_mem_number {texts : List Text} {line : Line} (member : line ∈ number texts) :
    texts[line.index]? = some line.text := by
  obtain ⟨j, here⟩ := List.mem_iff_getElem?.1 member
  rw [getElem?_number] at here
  obtain ⟨t, found, rfl⟩ := Option.map_eq_some_iff.1 here
  exact found

theorem getD_of_mem_number {texts : List Text} {line : Line} (member : line ∈ number texts) :
    texts.getD line.index [] = line.text := by
  rw [List.getD_eq_getElem?_getD, text_of_mem_number member, Option.getD_some]

/-- Of the numbered lines only one has a given number. -/
theorem line_unique {texts : List Text} {before before' after after' : List Line} {line line' : Line}
    (split : number texts = before ++ line :: after) (split' : number texts = before' ++ line' :: after')
    (same : line.index = line'.index) : before = before' ∧ line = line' := by
  have length : before.length = before'.length := by
    have here := index_of_numberFrom split
    have there := index_of_numberFrom split'
    omega
  obtain ⟨front, rest⟩ := List.append_inj (split.symm.trans split') length
  exact ⟨front, (List.cons.inj rest).1⟩

/-! ## Places -/

theorem getElem?_append_within {α : Type} {before part after : List α} {a : α} {j : Nat} (found : part[j]? = some a) :
    (before ++ part ++ after)[before.length + j]? = some a := by
  have short : j < part.length := (List.getElem?_eq_some_iff.1 found).1
  rw [List.append_assoc, List.getElem?_append_right (Nat.le_add_right _ _), Nat.add_sub_cancel_left,
    List.getElem?_append_left short, found]

/-- Each line has its place as its number. -/
def Numbered (lines : List Line) : Prop := ∀ (i : Nat) (line : Line), lines[i]? = some line → line.index = i

theorem Numbered.sorted {lines : List Line} (numbered : Numbered lines) : lines.Pairwise (·.index < ·.index) := by
  refine List.pairwise_iff_getElem.2 ?_
  intro i j small large before
  rw [numbered i _ (List.getElem?_eq_getElem small), numbered j _ (List.getElem?_eq_getElem large)]
  exact before

/-- What is left starts with the number of lines before it. -/
theorem Numbered.index_head? {before after : List Line} (numbered : Numbered (before ++ after)) :
    (after.head?.map Line.index).getD (before ++ after).length = before.length := by
  cases after with
  | nil => simp
  | cons line rest => exact numbered before.length line (by simp)

theorem numbered_number (texts : List Text) : Numbered (number texts) := by
  intro i line here
  rw [getElem?_number] at here
  obtain ⟨t, -, rfl⟩ := Option.map_eq_some_iff.1 here
  rfl

end Source

end AsmCheck
