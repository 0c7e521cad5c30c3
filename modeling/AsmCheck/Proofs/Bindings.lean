import AsmCheck.Bindings

/-! The names that are bound. Binding a name adds it and takes no other name away, and the other names keep what
they are bound to. -/

set_option autoImplicit false

namespace AsmCheck.Bindings

variable {α : Type} {bindings : Bindings α} {name other : Text}

@[simp] theorem get?_nil : Bindings.get? ([] : Bindings α) name = none := rfl

theorem mem_names_alter {change : Option α → α} :
    other ∈ (bindings.alter name change).names ↔ other = name ∨ other ∈ bindings.names := by
  induction bindings with
  | nil => simp [alter, names]
  | cons first rest ih =>
    obtain ⟨n, a⟩ := first
    simp only [names] at ih
    by_cases same : n = name
    · simp [alter, names, same]
    · simp only [alter, same, if_false, names, List.map_cons, List.mem_cons, ih]
      constructor
      · rintro (here | here | later)
        · exact .inr (.inl here)
        · exact .inl here
        · exact .inr (.inr later)
      · rintro (here | here | later)
        · exact .inr (.inl here)
        · exact .inl here
        · exact .inr (.inr later)

theorem mem_names_set {value : α} : other ∈ (bindings.set name value).names ↔ other = name ∨ other ∈ bindings.names :=
  mem_names_alter

/-- A name that is new goes to the end, and one that is bound already keeps its place. -/
theorem names_alter {change : Option α → α} :
    (bindings.alter name change).names =
      if name ∈ bindings.names then bindings.names else bindings.names ++ [name] := by
  induction bindings with
  | nil => simp [alter, names]
  | cons first rest ih =>
    obtain ⟨n, a⟩ := first
    simp only [names] at ih
    by_cases same : n = name
    · simp [alter, names, same]
    · by_cases bound : name ∈ rest.map Prod.fst <;>
        simp [alter, same, Ne.symm same, names, ih, bound]

theorem names_set {value : α} :
    (bindings.set name value).names =
      if name ∈ bindings.names then bindings.names else bindings.names ++ [name] :=
  names_alter

@[simp] theorem get?_alter_self (change : Option α → α) :
    (bindings.alter name change).get? name = some (change (bindings.get? name)) := by
  induction bindings with
  | nil => simp [alter, get?]
  | cons first rest ih =>
    obtain ⟨n, a⟩ := first
    simp only [get?] at ih
    by_cases same : n = name
    · simp [alter, get?, same]
    · simp [alter, get?, same, List.lookup_cons, beq_eq_false_iff_ne.2 (Ne.symm same), ih]

theorem get?_alter_of_ne (different : other ≠ name) (change : Option α → α) :
    (bindings.alter name change).get? other = bindings.get? other := by
  induction bindings with
  | nil => simp [alter, get?, List.lookup_cons, beq_eq_false_iff_ne.2 different]
  | cons first rest ih =>
    obtain ⟨n, a⟩ := first
    simp only [get?] at ih
    by_cases same : n = name
    · simp [alter, get?, same, List.lookup_cons, beq_eq_false_iff_ne.2 different]
    · simp only [alter, same, if_false, get?, List.lookup_cons, ih]

@[simp] theorem get?_set_self (value : α) : (bindings.set name value).get? name = some value :=
  get?_alter_self _

theorem get?_set_of_ne (different : other ≠ name) (value : α) :
    (bindings.set name value).get? other = bindings.get? other :=
  get?_alter_of_ne different _

theorem get?_eq_none : bindings.get? name = none ↔ name ∉ bindings.names := by
  rw [get?, List.lookup_eq_none_iff, names, List.mem_map]
  constructor
  · rintro missing ⟨bound, member, rfl⟩
    simpa using missing bound member
  · intro unbound bound member
    rw [bne_iff_ne]
    rintro rfl
    exact unbound ⟨bound, member, rfl⟩

theorem mem_of_get? {value : α} (found : bindings.get? name = some value) : (name, value) ∈ bindings := by
  obtain ⟨before, after, split, -⟩ := List.lookup_eq_some_iff.1 found
  simp [split]

theorem get?_of_mem (distinct : bindings.names.Nodup) {value : α} (bound : (name, value) ∈ bindings) :
    bindings.get? name = some value := by
  induction bindings with
  | nil => cases bound
  | cons first rest ih =>
    obtain ⟨n, a⟩ := first
    obtain ⟨new, others⟩ := List.nodup_cons.1 distinct
    rcases List.mem_cons.1 bound with here | later
    · cases here
      exact List.lookup_cons_self
    · have different : name ≠ n := by
        rintro rfl
        exact new (List.mem_map.2 ⟨(name, value), later, rfl⟩)
      rw [get?, List.lookup_cons, beq_eq_false_iff_ne.2 different]
      exact ih others later

/-- What is bound afterwards was bound before, or is made from nothing or from what the name was bound to. -/
theorem mem_alter {change : Option α → α} {value : α} (bound : (other, value) ∈ bindings.alter name change) :
    (other, value) ∈ bindings ∨ other = name ∧ value = change none ∨
      other = name ∧ ∃ old, (name, old) ∈ bindings ∧ value = change (some old) := by
  induction bindings with
  | nil =>
    obtain ⟨same, new⟩ := Prod.mk.inj (List.mem_singleton.1 bound)
    exact .inr (.inl ⟨same, new⟩)
  | cons first rest ih =>
    obtain ⟨n, a⟩ := first
    rw [alter] at bound
    split at bound
    · next same =>
      subst same
      rcases List.mem_cons.1 bound with here | later
      · obtain ⟨named, new⟩ := Prod.mk.inj here
        exact .inr (.inr ⟨named, a, List.mem_cons_self, new⟩)
      · exact .inl (List.mem_cons_of_mem _ later)
    · rcases List.mem_cons.1 bound with here | later
      · exact .inl (here ▸ List.mem_cons_self)
      · rcases ih later with before | made | ⟨named, old, before, new⟩
        · exact .inl (List.mem_cons_of_mem _ before)
        · exact .inr (.inl made)
        · exact .inr (.inr ⟨named, old, List.mem_cons_of_mem _ before, new⟩)

end AsmCheck.Bindings
