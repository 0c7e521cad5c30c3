import Mathlib.Data.List.Basic

/-! What happened last. Whether something that happens counts may hang on all that has happened before it, so the
last that counts is told with what came before it. -/

set_option autoImplicit false

namespace AsmCheck

variable {α : Type} {counts : List α → α → Prop} {history : List α} {a : α}

/-- The last of a history that counts, with what came before it, or that nothing has counted. -/
def LastThat (counts : List α → α → Prop) (history : List α) : Option (List α × α) → Prop
  | some (before, a) => counts before a ∧ ∃ rest, history = before ++ a :: rest ∧
      ∀ middle b later, rest = middle ++ b :: later → ¬counts (before ++ a :: middle) b
  | none => ∀ before b later, history = before ++ b :: later → ¬counts before b

/-- An element of a list with one more at its end is that one, or it stands in the list already. -/
theorem concat_eq_append_cons {l middle later : List α} {b : α} (same : l ++ [a] = middle ++ b :: later) :
    (middle = l ∧ b = a) ∨ ∃ shorter, l = middle ++ b :: shorter := by
  rcases List.eq_nil_or_concat later with rfl | ⟨shorter, c, rfl⟩
  · obtain ⟨front, last⟩ := List.append_inj' same rfl
    exact .inl ⟨front.symm, (List.cons.inj last).1.symm⟩
  · have longer : l ++ [a] = (middle ++ b :: shorter) ++ [c] := by simpa using same
    exact .inr ⟨shorter, (List.append_inj' longer rfl).1⟩

namespace LastThat

theorem nil : LastThat counts [] none := by
  intro before b later empty
  simp at empty

theorem of_counts (new : counts history a) : LastThat counts (history ++ [a]) (some (history, a)) := by
  refine ⟨new, [], rfl, ?_⟩
  intro middle b later empty
  simp at empty

theorem of_not_counts {last : Option (List α × α)} (latest : LastThat counts history last)
    (old : ¬counts history a) : LastThat counts (history ++ [a]) last := by
  cases last with
  | none =>
    intro before b later same
    rcases concat_eq_append_cons same with ⟨rfl, rfl⟩ | ⟨shorter, split⟩
    · exact old
    · exact latest before b shorter split
  | some found =>
    obtain ⟨new, rest, rfl, nothing⟩ := latest
    refine ⟨new, rest ++ [a], by simp, ?_⟩
    intro middle b later same
    rcases concat_eq_append_cons same with ⟨rfl, rfl⟩ | ⟨shorter, split⟩
    · exact old
    · exact nothing middle b shorter split

theorem mem {before : List α} (latest : LastThat counts history (some (before, a))) : a ∈ history := by
  obtain ⟨-, rest, rfl, -⟩ := latest
  simp

end LastThat

end AsmCheck
