import AsmCheck.Json.Writer
import AsmCheck.Proofs.Text.Ascii

/-! JSON text is written in ASCII whatever the strings in it are: other characters are escaped. Only a real, which
keeps the literal it was read from, could bring one in. -/

set_option autoImplicit false

namespace AsmCheck.Json

open Text (IsAscii isAscii_append isAscii_cons isAscii_join isAscii_ofInt)

mutual

/-- The literals of the reals in a value. -/
def reals : Json → List Text
  | .null | .bool _ | .int _ | .str _ => []
  | .real literal => [literal]
  | .arr items => realsOfItems items
  | .obj members => realsOfMembers members

def realsOfItems : List Json → List Text
  | [] => []
  | item :: rest => reals item ++ realsOfItems rest

def realsOfMembers : List (Text × Json) → List Text
  | [] => []
  | (_, v) :: rest => reals v ++ realsOfMembers rest

end

theorem realsOfItems_map {α : Type} {f : α → Json} (each : ∀ a, reals (f a) = []) (l : List α) :
    realsOfItems (l.map f) = [] := by
  induction l with
  | nil => rfl
  | cons a rest ih => rw [List.map_cons, realsOfItems, each, ih, List.nil_append]

theorem realsOfMembers_map {α : Type} {f : α → Text × Json} (each : ∀ a, reals (f a).2 = []) (l : List α) :
    realsOfMembers (l.map f) = [] := by
  induction l with
  | nil => rfl
  | cons a rest ih => rw [List.map_cons, realsOfMembers, each, ih, List.nil_append]

theorem isAscii_unitEscape (n : Nat) : IsAscii (unitEscape n) :=
  isAscii_cons.2 ⟨by decide, isAscii_cons.2 ⟨by decide, Text.isAscii_padZeros 4 (Text.isAscii_lowerHex n)⟩⟩

theorem isAscii_ite {p : Prop} [Decidable p] {t other : Text} (yes : p → IsAscii t) (no : IsAscii other) :
    IsAscii (if p then t else other) := by
  split
  · exact yes ‹p›
  · exact no

theorem isAscii_escapeChar (c : CodePoint) : IsAscii (escapeChar c) := by
  refine isAscii_ite ?_ (isAscii_ite ?_ ?_)
  · rintro (rfl | rfl) <;> decide
  · rintro ⟨-, small⟩
    exact isAscii_cons.2 ⟨by omega, by decide⟩
  · -- five characters have escapes of two letters, and the others are escaped by one unit or by two
    iterate 5 refine isAscii_ite (fun _ => by decide) ?_
    refine isAscii_ite (fun _ => isAscii_unitEscape _) ?_
    exact isAscii_append.2 ⟨isAscii_unitEscape _, isAscii_unitEscape _⟩

theorem isAscii_writeString (t : Text) : IsAscii (writeString t) := by
  refine isAscii_cons.2 ⟨by decide, isAscii_append.2 ⟨?_, by decide⟩⟩
  intro c member
  obtain ⟨d, -, inside⟩ := List.mem_flatMap.1 member
  exact isAscii_escapeChar d c inside

theorem isAscii_lineAt (depth : Nat) : IsAscii (lineAt depth) := by
  refine isAscii_cons.2 ⟨by decide, ?_⟩
  intro c member
  obtain ⟨space, repeated, rfl⟩ := List.mem_map.1 member
  rw [List.eq_of_mem_replicate repeated]
  decide

theorem isAscii_bracketed (depth : Nat) {opening closing : Text} {pieces : List Text} (front : IsAscii opening)
    (back : IsAscii closing) (each : ∀ piece ∈ pieces, IsAscii piece) :
    IsAscii (bracketed depth opening closing pieces) := by
  unfold bracketed
  split
  · exact isAscii_append.2 ⟨front, back⟩
  · have divider : IsAscii ("," ++ lineAt (depth + 1)) := isAscii_append.2 ⟨by decide, isAscii_lineAt _⟩
    simp only [isAscii_append]
    exact ⟨⟨⟨⟨front, isAscii_lineAt _⟩, isAscii_join divider each⟩, isAscii_lineAt _⟩, back⟩

mutual

theorem isAscii_writeAt (depth : Nat) : ∀ v : Json, (∀ literal ∈ reals v, IsAscii literal) → IsAscii (writeAt depth v)
  | .null, _ => by rw [writeAt]; decide
  | .bool b, _ => by cases b <;> (rw [writeAt]; decide)
  | .int n, _ => isAscii_ofInt n
  | .real literal, ascii => ascii literal (List.mem_singleton_self literal)
  | .str t, _ => isAscii_writeString t
  | .arr items, ascii => isAscii_bracketed depth (by decide) (by decide) (isAscii_writeItemsAt (depth + 1) items ascii)
  | .obj members, ascii =>
    isAscii_bracketed depth (by decide) (by decide) (isAscii_writeMembersAt (depth + 1) members ascii)

theorem isAscii_writeItemsAt (depth : Nat) :
    ∀ items : List Json, (∀ literal ∈ realsOfItems items, IsAscii literal) →
      ∀ piece ∈ writeItemsAt depth items, IsAscii piece
  | [], _ => fun _ member => nomatch member
  | item :: rest, ascii => by
    obtain ⟨first, later⟩ := List.forall_mem_append.1 ascii
    exact List.forall_mem_cons.2 ⟨isAscii_writeAt depth item first, isAscii_writeItemsAt depth rest later⟩

theorem isAscii_writeMembersAt (depth : Nat) :
    ∀ members : List (Text × Json), (∀ literal ∈ realsOfMembers members, IsAscii literal) →
      ∀ piece ∈ writeMembersAt depth members, IsAscii piece
  | [], _ => fun _ member => nomatch member
  | (name, v) :: rest, ascii => by
    obtain ⟨first, later⟩ := List.forall_mem_append.1 ascii
    have written : IsAscii (writeString name ++ ": " ++ writeAt depth v) :=
      isAscii_append.2 ⟨isAscii_append.2 ⟨isAscii_writeString name, by decide⟩, isAscii_writeAt depth v first⟩
    exact List.forall_mem_cons.2 ⟨written, isAscii_writeMembersAt depth rest later⟩

end

/-- A value without reals is written in ASCII. -/
theorem isAscii_writeIndented {v : Json} (unreal : reals v = []) : IsAscii (writeIndented v) :=
  isAscii_writeAt 0 v (by simp [unreal])

end AsmCheck.Json
