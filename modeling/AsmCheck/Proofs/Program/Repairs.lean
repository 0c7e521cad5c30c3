import AsmCheck.Proofs.Program.Evaluation

/-! Texts that have a value only with the constants put in. Two terms in a row have no sum; where the second one is
a constant with a negative value, its numeral brings a minus along, and the text has a value after all. Nothing else
that is no sum becomes one. -/

set_option autoImplicit false

namespace AsmCheck.Program

open Source (Token tokens termValue sumTokens evaluate)

variable {constants : Bindings Int} {known : Text → Option Int} {ts : List Token} {v : Int}

/-- A constant with a negative value stands right behind a term, with no sign between the two. -/
def JoinsByMinus (constants : Bindings Int) (t : Text) : Prop :=
  ∃ w name v, [.term w, .term name] <:+: tokens t ∧ constants.get? name = some v ∧ v < 0

theorem Named.isNegative_eq_true (named : Named constants) {name : Text} :
    isNegative constants name = true ↔ ∃ v, constants.get? name = some v ∧ v < 0 := by
  rw [isNegative, Bool.and_eq_true, Option.any_eq_true]
  simp only [decide_eq_true_eq]
  exact ⟨And.right, fun negative => ⟨named.isName_of_get? negative.choose_spec.1, negative⟩⟩

/-! ## Terms in a row -/

/-- Where no negative constant is right behind a term there is no plus to put in. -/
theorem signed_eq_self (apart : ∀ w name, [.term w, .term name] <:+: ts → isNegative constants name = false)
    {behind : Bool} (first : behind = true → ∀ name, .term name ∈ ts.head? → isNegative constants name = false) :
    signed constants behind ts = ts := by
  induction ts generalizing behind with
  | nil => rfl
  | cons token rest ih =>
    have later : ∀ w name, [.term w, .term name] <:+: rest → isNegative constants name = false :=
      fun w name pair => apart w name (List.infix_cons pair)
    cases token with
    | plus => rw [signed, ih later (by simp)]
    | minus => rw [signed, ih later (by simp)]
    | term w =>
      have kept : (behind && isNegative constants w) = false := by
        cases behind with
        | false => rfl
        | true => exact first rfl w rfl
      have next : ∀ name, .term name ∈ rest.head? → isNegative constants name = false := by
        intro name head
        obtain ⟨more, rfl⟩ := List.head?_eq_some_iff.1 head
        exact apart w name (List.prefix_append [.term w, .term name] more).isInfix
      rw [signed, if_neg (by simp [kept]), ih later fun _ => next]

/-- Two terms in a row have no sum, whatever stands around them. -/
theorem sumTokens_ne_of_pair {w name : Text} (pair : [.term w, .term name] <:+: ts) (total : Int) (due : Option Int) :
    sumTokens known total due ts ≠ .ok (some v) := by
  obtain ⟨front, back, rfl⟩ := pair
  induction front generalizing total due with
  | nil =>
    intro summed
    cases due with
    | none => cases summed
    | some sign =>
      obtain ⟨found, -, summed⟩ := bind_eq_ok.1 summed
      cases found <;> cases summed
  | cons token front ih =>
    cases token with
    | plus => exact ih _ _
    | minus => exact ih _ _
    | term other =>
      intro summed
      cases due with
      | none => cases summed
      | some sign =>
        obtain ⟨found, -, summed⟩ := bind_eq_ok.1 summed
        cases found with
        | none => cases summed
        | some x => exact ih _ _ summed

/-- Without the pluses that are put in, the sum is the same or is none. -/
theorem sumTokens_of_signed {total : Int} {due : Option Int}
    (summed : sumTokens known total due (signed constants due.isNone ts) = .ok (some v)) :
    sumTokens known total due ts = .ok (some v) ∨ sumTokens known total due ts = .ok none := by
  induction ts generalizing total due with
  | nil => exact .inl summed
  | cons token rest ih =>
    cases token with
    | plus => exact ih summed
    | minus => exact ih summed
    | term w =>
      cases due with
      | none => exact .inr rfl
      | some sign =>
        rw [signed, if_neg (by simp)] at summed
        obtain ⟨found, here, summed⟩ := bind_eq_ok.1 summed
        simp only [sumTokens, here, bind, Except.bind]
        cases found with
        | none => cases summed
        | some x => exact ih summed

/-! ## Whole texts -/

/-- A text that has a value with the constants put in has the same value as it stands, unless a negative constant
stands right behind a term. Then it has none as it stands, and the value is what it has with a plus in front of
every such constant. -/
theorem substitution_repairs_iff_joined {constants labels : Bindings Int} (named : Named constants)
    (labelled : Named labels) {t s : Text} {v : Int} (replaced : substitute constants t = .ok s)
    (valued : evaluate labels.get? s = .ok (some v)) :
    (¬JoinsByMinus constants t →
      evaluate (fun name => (constants.get? name).or (labels.get? name)) t = .ok (some v)) ∧
    (JoinsByMinus constants t →
      evaluate (fun name => (constants.get? name).or (labels.get? name)) t = .ok none ∧
      sumTokens (fun name => (constants.get? name).or (labels.get? name)) 0 (some 1)
        (signed constants false (tokens t)) = .ok (some v)) := by
  have related : Substituted constants t s := (substitute_eq_ok named.quoteFree).1 replaced
  have alone : resolve [] labels.get? = labels.get? := by
    rw [resolve_eq_lookup (by simp [Named, Bindings.names]) labelled]
    simp
  rw [← resolve_eq_lookup named labelled]
  rw [← alone, evaluate_substituted_eq named.quoteFree related] at valued
  split at valued
  · next plain =>
    rw [evaluate, if_pos plain]
    constructor
    · intro apart
      have same : signed constants false (tokens t) = tokens t := by
        refine signed_eq_self (fun w name pair => ?_) (by simp)
        rw [Bool.eq_false_iff, Ne, named.isNegative_eq_true]
        rintro ⟨x, found, negative⟩
        exact apart ⟨w, name, x, pair, found, negative⟩
      rwa [same] at valued
    · rintro ⟨w, name, x, pair, -, -⟩
      exact ⟨(sumTokens_of_signed valued).resolve_left (sumTokens_ne_of_pair pair 0 (some 1)), valued⟩
  · cases valued

/-- Two negative constants in a row, the first of them right behind a quoted character. -/
theorem substitution_repairs_two_in_a_row :
    substitute [("A", -3)] "'a'A\tA+1" = .ok "'a'-3\t-3+1" ∧
    evaluate (Bindings.get? []) "'a'-3\t-3+1" = .ok (some 92) ∧
    evaluate (fun name => (Bindings.get? [("A", -3)] name).or (Bindings.get? [] name)) "'a'A\tA+1" = .ok none ∧
    sumTokens (fun name => (Bindings.get? [("A", -3)] name).or (Bindings.get? [] name)) 0 (some 1)
      (signed [("A", -3)] false (tokens "'a'A\tA+1")) = .ok (some 92) := by
  have named : Named [("A", -3)] := by
    unfold Named
    decide
  have labelled : Named [] := by simp [Named, Bindings.names]
  have replaced : substitute [("A", -3)] "'a'A\tA+1" = .ok "'a'-3\t-3+1" := by decide +kernel
  have valued : evaluate (Bindings.get? []) "'a'-3\t-3+1" = .ok (some 92) := by decide +kernel
  have cut : tokens "'a'A\tA+1" = [.term "'a'", .term "A", .term "A", .plus, .term "1"] := by decide +kernel
  have pair : [Token.term "'a'", .term "A"] <:+: tokens "'a'A\tA+1" := by
    rw [cut]
    exact (List.prefix_append [Token.term "'a'", .term "A"] [.term "A", .plus, .term "1"]).isInfix
  have joined : JoinsByMinus [("A", -3)] "'a'A\tA+1" := ⟨"'a'", "A", -3, pair, by decide, by decide⟩
  exact ⟨replaced, valued, (substitution_repairs_iff_joined named labelled replaced valued).2 joined⟩

/-- So what is no sum may have a value with the constants put in. -/
theorem substitution_repairs_negative_constant :
    substitute [("A", -3)] "5 A" = .ok "5 -3" ∧ evaluate (Bindings.get? []) "5 -3" = .ok (some 2) ∧
    evaluate (fun name => (Bindings.get? [("A", -3)] name).or (Bindings.get? [] name)) "5 A" = .ok none := by
  decide +kernel

end AsmCheck.Program
