import AsmCheck.Proofs.Program.Substitution

/-! Texts in ASCII, which every encoding can hold. Numerals of any base are among them. -/

set_option autoImplicit false

namespace AsmCheck.Text

def IsAscii (t : Text) : Prop := ∀ c ∈ t, c.toNat < 0x80

instance (t : Text) : Decidable (IsAscii t) := inferInstanceAs (Decidable (∀ c ∈ t, _))

variable {a b t separator : Text}

theorem isAscii_append : IsAscii (a ++ b) ↔ IsAscii a ∧ IsAscii b := List.forall_mem_append

theorem isAscii_cons {c : CodePoint} : IsAscii (c :: t) ↔ c.toNat < 0x80 ∧ IsAscii t := List.forall_mem_cons

theorem isAscii_join (ascii : IsAscii separator) {pieces : List Text} (each : ∀ piece ∈ pieces, IsAscii piece) :
    IsAscii (join separator pieces) := by
  induction pieces with
  | nil => exact fun _ member => by simp [join] at member
  | cons first rest ih =>
    obtain ⟨front, later⟩ := List.forall_mem_cons.1 each
    cases rest with
    | nil => simpa [join] using front
    | cons second more =>
      rw [join, List.intercalate_cons_cons]
      exact isAscii_append.2 ⟨isAscii_append.2 ⟨front, ascii⟩, ih later⟩

theorem isAscii_ofNat (n : Nat) : IsAscii (ofNat n) := by
  intro c member
  obtain ⟨-, greatest⟩ := Source.toNat_of_isDigit (isDigit_of_mem_ofNat member)
  omega

theorem isAscii_ofInt (n : Int) : IsAscii (ofInt n) := by
  unfold ofInt
  split
  · exact isAscii_cons.2 ⟨by decide, isAscii_ofNat _⟩
  · exact isAscii_ofNat _

theorem digitChar_lt : ∀ d < 16, (Nat.digitChar d).toNat < 0x80 := by decide

theorem toNat_lt_of_mem_toDigits (n : Nat) : ∀ c ∈ Nat.toDigits 16 n, c.toNat < 0x80 := by
  induction n using Nat.strongRecOn with
  | ind n ih =>
    rw [Nat.toDigits_eq_if (by decide)]
    split
    · next small => simpa using digitChar_lt n small
    · next large =>
      simp only [List.forall_mem_append, List.forall_mem_singleton]
      exact ⟨ih (n / 16) (by omega), digitChar_lt _ (Nat.mod_lt _ (by decide))⟩

theorem isAscii_lowerHex (n : Nat) : IsAscii (lowerHex n) := by
  intro c member
  obtain ⟨d, digit, rfl⟩ := List.mem_map.1 member
  exact toNat_lt_of_mem_toDigits n d digit

theorem isAscii_padZeros (width : Nat) (ascii : IsAscii t) : IsAscii (padZeros width t) := by
  refine isAscii_append.2 ⟨?_, ascii⟩
  intro c member
  obtain ⟨zero, repeated, rfl⟩ := List.mem_map.1 member
  rw [List.eq_of_mem_replicate repeated]
  decide

end AsmCheck.Text
