import AsmCheck.Numeral
import Mathlib.Data.List.Forall2

/-! Computations that may fail, one after another. A sequence gives a result exactly when each of its
parts does. -/

set_option autoImplicit false

namespace AsmCheck

variable {ε α β : Type}

theorem bind_eq_ok {x : Except ε α} {f : α → Except ε β} {b : β} :
    (x >>= f) = .ok b ↔ ∃ a, x = .ok a ∧ f a = .ok b := by
  cases x with
  | error e => simp [bind, Except.bind]
  | ok a => simp [bind, Except.bind]

theorem bind_eq_error {x : Except ε α} {f : α → Except ε β} {e : ε} :
    (x >>= f) = .error e ↔ x = .error e ∨ ∃ a, x = .ok a ∧ f a = .error e := by
  cases x with
  | error other => simp [bind, Except.bind]
  | ok a => simp [bind, Except.bind]

theorem mapM_eq_ok {f : α → Except ε β} {l : List α} {results : List β} :
    l.mapM f = .ok results ↔ List.Forall₂ (fun a b => f a = .ok b) l results := by
  induction l generalizing results with
  | nil => simp [pure, Except.pure, eq_comm]
  | cons a rest ih =>
    rw [List.mapM_cons, bind_eq_ok, List.forall₂_cons_left_iff]
    constructor
    · rintro ⟨b, first, joined⟩
      obtain ⟨more, later, same⟩ := bind_eq_ok.1 joined
      exact ⟨b, more, first, ih.1 later, (Except.ok.inj same).symm⟩
    · rintro ⟨b, more, first, later, rfl⟩
      exact ⟨b, first, bind_eq_ok.2 ⟨more, ih.2 later, rfl⟩⟩

theorem mapM_map {γ : Type} (f : α → Except ε β) (g : β → γ) (l : List α) :
    l.mapM (fun a => (f a).map g) = (l.mapM f).map (List.map g) := by
  induction l with
  | nil => rfl
  | cons a rest ih =>
    rw [List.mapM_cons, List.mapM_cons, ih]
    cases f a with
    | error e => rfl
    | ok b => cases rest.mapM f <;> rfl

theorem mapM_eq_some {f : α → Option β} {l : List α} {results : List β} :
    l.mapM f = some results ↔ List.Forall₂ (fun a b => f a = some b) l results := by
  induction l generalizing results with
  | nil => simp [eq_comm]
  | cons a rest ih =>
    simp only [List.mapM_cons, Option.bind_eq_bind, Option.bind_eq_some_iff, List.forall₂_cons_left_iff, ih]
    constructor
    · rintro ⟨b, first, more, later, result⟩
      cases result
      exact ⟨b, more, first, later, rfl⟩
    · rintro ⟨b, more, first, later, rfl⟩
      exact ⟨b, first, more, later, rfl⟩

theorem exists_of_forall₂_of_mem_left {γ δ : Type} {R : γ → δ → Prop} {l : List γ} {results : List δ}
    (related : List.Forall₂ R l results) {a : γ} (member : a ∈ l) : ∃ b ∈ results, R a b := by
  induction related with
  | nil => simp at member
  | cons first _ ih =>
    rcases List.mem_cons.1 member with rfl | later
    · exact ⟨_, by simp, first⟩
    · obtain ⟨b, found, both⟩ := ih later
      exact ⟨b, by simp [found], both⟩

theorem exists_of_forall₂_of_mem_right {γ δ : Type} {R : γ → δ → Prop} {l : List γ} {results : List δ}
    (related : List.Forall₂ R l results) {b : δ} (member : b ∈ results) : ∃ a ∈ l, R a b :=
  exists_of_forall₂_of_mem_left related.flip member

namespace Numeral

theorem failWith_eq_ok {error : ε} {x : Except TooLong α} {a : α} : failWith error x = .ok a ↔ x = .ok a := by
  cases x with
  | error e => simp [failWith]
  | ok b => simp [failWith]

/-- There is one way to go beyond the limit, so it does not matter which part does so first. -/
theorem mapM_eq_error {f : α → Except TooLong β} {l : List α} {e : TooLong} :
    l.mapM f = .error e ↔ ∃ a ∈ l, f a = .error e := by
  induction l with
  | nil => simp [pure, Except.pure]
  | cons a rest ih =>
    rw [List.mapM_cons, List.exists_mem_cons_iff, ← ih]
    cases first : f a with
    | error other => simp [bind, Except.bind]
    | ok b =>
      cases later : rest.mapM f with
      | error other => simp [bind, Except.bind]
      | ok more => simp [bind, Except.bind, pure, Except.pure]

theorem failWith_eq_error {error e : ε} {x : Except TooLong α} :
    failWith error x = .error e ↔ x = .error ⟨⟩ ∧ e = error := by
  cases x with
  | error limit => simp [failWith, eq_comm]
  | ok a => simp [failWith]

end Numeral

end AsmCheck
