import AsmCheck.Proofs.Sequence
import AsmCheck.Source.Expression

/-! Values of expressions. Whether an expression has a value hangs on which of its names are resolved and not
on what they are resolved to: with fewer names resolved, evaluation stops at the same place or earlier. -/

set_option autoImplicit false

namespace AsmCheck.Source

open Numeral (TooLong)

variable {known resolve : Text → Option Int}

theorem termValue_of_number {t : Text} {n : Int} (number : number? t = .ok (some n)) :
    termValue resolve t = .ok (some n) := by
  rw [termValue, number]
  rfl

theorem termValue_of_char {t : Text} {code : Nat} (number : number? t = .ok none) (char : charCode? t = some code) :
    termValue resolve t = .ok (some code) := by
  simp [termValue, number, char, bind, Except.bind]

theorem termValue_of_neither {t : Text} (number : number? t = .ok none) (char : charCode? t = none) :
    termValue resolve t = .ok (resolve t) := by
  simp [termValue, number, char, bind, Except.bind]

theorem termValue_of_fewer {t : Text} (fewer : (known t).isSome = true → (resolve t).isSome = true)
    {found : Option Int} (evaluated : termValue resolve t = .ok found) :
    ∃ less, termValue known t = .ok less ∧ (less.isSome = true → found.isSome = true) := by
  obtain ⟨read, number, result⟩ := bind_eq_ok.1 evaluated
  unfold termValue
  rw [number]
  cases read with
  | some n =>
    cases result
    exact ⟨some n, rfl, id⟩
  | none =>
    cases char : charCode? t with
    | some code =>
      simp only [char] at result
      cases result
      exact ⟨some code, rfl, id⟩
    | none =>
      simp only [char] at result
      cases result
      exact ⟨known t, rfl, fewer⟩

theorem sumTokens_of_fewer {ts : List Token}
    (fewer : ∀ name, Token.term name ∈ ts → (known name).isSome = true → (resolve name).isSome = true)
    {total : Int} {due found : Option Int} (evaluated : sumTokens resolve total due ts = .ok found) (other : Int) :
    ∃ less, sumTokens known other due ts = .ok less ∧ (less.isSome = true → found.isSome = true) := by
  induction ts generalizing total other due with
  | nil =>
    cases evaluated
    refine ⟨_, rfl, ?_⟩
    cases due <;> simp
  | cons token rest ih =>
    have later : ∀ name, Token.term name ∈ rest → (known name).isSome = true → (resolve name).isSome = true :=
      fun name member => fewer name (by simp [member])
    cases token with
    | plus => exact ih later evaluated other
    | minus => exact ih later evaluated other
    | term t =>
      cases due with
      | none => exact ⟨none, rfl, by simp⟩
      | some sign =>
        simp only [sumTokens, bind_eq_ok] at evaluated ⊢
        obtain ⟨value, here, result⟩ := evaluated
        -- Where this term has no value any more the sum stops here.
        obtain ⟨less, known, carried⟩ := termValue_of_fewer (fewer t (by simp)) here
        cases less with
        | none => exact ⟨none, ⟨none, known, rfl⟩, by simp⟩
        | some v =>
          obtain ⟨w, rfl⟩ := Option.isSome_iff_exists.1 (carried rfl)
          obtain ⟨last, summed, kept⟩ := ih later result (other + sign * v)
          exact ⟨last, ⟨some v, known, summed⟩, kept⟩

theorem evaluate_of_fewer {t : Text}
    (fewer : ∀ name, Token.term name ∈ tokens t → (known name).isSome = true → (resolve name).isSome = true)
    {found : Option Int} (evaluated : evaluate resolve t = .ok found) :
    ∃ less, evaluate known t = .ok less ∧ (less.isSome = true → found.isSome = true) := by
  unfold evaluate at evaluated ⊢
  split
  · next plain =>
    rw [if_pos plain] at evaluated
    exact sumTokens_of_fewer fewer evaluated 0
  · exact ⟨none, rfl, by simp⟩

/-! ## Terms that are resolved alike -/

theorem termValue_congr {t : Text} (agrees : ∀ v, known t = some v → resolve t = some v)
    (valued : termValue known t ≠ .ok none) : termValue resolve t = termValue known t := by
  unfold termValue at valued ⊢
  cases number : number? t with
  | error e => rfl
  | ok read =>
    cases read with
    | some n => rfl
    | none =>
      cases char : charCode? t with
      | some code => rfl
      | none =>
        simp only [number, char, bind, Except.bind] at valued ⊢
        cases found : known t with
        | none => exact absurd (by rw [found]) valued
        | some v => rw [agrees v found]

/-- A term that both lists start with counts the same if it is resolved alike. -/
theorem sumTokens_term_eq {t : Text} {first second : List Token} (alike : resolve t = known t)
    (later : ∀ total, sumTokens resolve total none second = sumTokens known total none first) (total : Int)
    (due : Option Int) :
    sumTokens resolve total due (.term t :: second) = sumTokens known total due (.term t :: first) := by
  have same : termValue resolve t = termValue known t := by simp [termValue, alike]
  cases due with
  | none => rfl
  | some sign => simp only [sumTokens, same, later]

theorem sumTokens_term_congr {t : Text} {first second : List Token}
    (agrees : ∀ v, known t = some v → resolve t = some v)
    (later : ∀ {total}, sumTokens known total none first ≠ .ok none →
      sumTokens resolve total none second = sumTokens known total none first)
    {total : Int} {due : Option Int} (valued : sumTokens known total due (.term t :: first) ≠ .ok none) :
    sumTokens resolve total due (.term t :: second) = sumTokens known total due (.term t :: first) := by
  cases due with
  | none => exact absurd rfl valued
  | some sign =>
    simp only [sumTokens] at valued ⊢
    cases value : termValue known t with
    | error e => rw [termValue_congr agrees (by simp [value]), value]; rfl
    | ok found =>
      cases found with
      | none =>
        rw [value] at valued
        exact absurd rfl valued
      | some v =>
        rw [value] at valued
        rw [termValue_congr agrees (by simp [value]), value]
        exact later valued

theorem sumTokens_congr {ts : List Token} (agrees : ∀ name v, known name = some v → resolve name = some v)
    {total : Int} {due : Option Int} (valued : sumTokens known total due ts ≠ .ok none) :
    sumTokens resolve total due ts = sumTokens known total due ts := by
  induction ts generalizing total due with
  | nil => rfl
  | cons token rest ih =>
    cases token with
    | plus => exact ih valued
    | minus => exact ih valued
    | term w => exact sumTokens_term_congr (agrees w) ih valued

/-- Knowing more names takes no value away. -/
theorem evaluate_congr {t : Text} (agrees : ∀ name v, known name = some v → resolve name = some v)
    (valued : evaluate known t ≠ .ok none) : evaluate resolve t = evaluate known t := by
  unfold evaluate at valued ⊢
  split at valued
  · next plain =>
    rw [if_pos plain, if_pos plain]
    exact sumTokens_congr agrees valued
  · exact absurd rfl valued

end AsmCheck.Source
