import AsmCheck.Proofs.Text.Trimming
import AsmCheck.Text.Upper
import Mathlib.Data.List.Basic

/-! Capitals. A text in capitals stays as it is when it is upper-cased again, and nothing visible becomes white
space. Both are read off the tables: the capitals of a run of letters are compared with whole stretches of letters
and of white space, not one by one. -/

set_option autoImplicit false

namespace AsmCheck

theorem CodePoint.ofNat_toNat (c : CodePoint) : ofNat c.toNat = c := by
  cases c with
  | scalar c =>
    have valid : ¬(0xD800 ≤ c.toNat ∧ c.toNat < 0xE000) := by
      have := c.valid
      simp only [UInt32.isValidChar, Nat.isValidChar] at this
      change ¬(0xD800 ≤ c.val.toNat ∧ c.val.toNat < 0xE000)
      omega
    simp [ofNat, toNat, valid]
  | surrogate index =>
    have bound := index.isLt
    have inside : 0xD800 ≤ 0xD800 + (index : Nat) ∧ 0xD800 + (index : Nat) < 0xE000 := by omega
    simp only [ofNat, toNat, inside, and_self, dite_true, Nat.add_sub_cancel_left]

theorem CodePoint.toNat_ofNat (n : Nat) : (ofNat n).toNat = n ∨ (ofNat n).toNat = 0 := by
  unfold ofNat
  split
  · next h =>
    left
    simp only [toNat]
    omega
  · by_cases valid : n.isValidChar
    · left
      have found : Char.ofNat n = Char.ofNatAux n valid := dif_pos valid
      rw [toNat, found]
      rfl
    · right
      have zero : Char.ofNat n = '\x00' := dif_neg valid
      rw [toNat, zero]
      rfl

namespace Text

/-! ## Stretches of numbers -/

/-- Numbers from `first` to `last`, every `step` apart. -/
structure Stretch where
  first : Nat
  last : Nat
  step : Nat

namespace Stretch

def Covers (s : Stretch) (n : Nat) : Prop := s.first ≤ n ∧ n ≤ s.last ∧ (n - s.first) % s.step = 0

/-- All numbers of the stretch are even, or all of them are odd. -/
def isAlternate (s : Stretch) : Bool := Nat.beq s.step 2 || Nat.beq s.first s.last

/-- One stretch lies beyond the other, or one has the even and the other one the odd numbers. -/
def misses (s t : Stretch) : Bool :=
  Nat.blt s.last t.first || Nat.blt t.last s.first ||
    (s.isAlternate && t.isAlternate && Nat.beq ((s.first + t.first) % 2) 1)

theorem Covers.mod_two {s : Stretch} {n : Nat} (covers : s.Covers n) (alternate : s.isAlternate = true) :
    n % 2 = s.first % 2 := by
  obtain ⟨low, high, apart⟩ := covers
  simp only [isAlternate, Bool.or_eq_true, Nat.beq_eq] at alternate
  rcases alternate with two | single
  · rw [two] at apart
    omega
  · have same : n = s.first := by omega
    rw [same]

theorem not_covers_of_misses {s t : Stretch} {n : Nat} (misses : s.misses t = true) (covers : s.Covers n) :
    ¬t.Covers n := by
  intro other
  simp only [Stretch.misses, Bool.or_eq_true, Bool.and_eq_true, Nat.blt_eq, Nat.beq_eq] at misses
  rcases misses with (before | after) | ⟨⟨one, two⟩, odd⟩
  · exact absurd (covers.2.1.trans_lt before) (not_lt.2 other.1)
  · exact absurd (other.2.1.trans_lt after) (not_lt.2 covers.1)
  · have left := covers.mod_two one
    have right := other.mod_two two
    omega

end Stretch

/-! ## Capitals -/

def CaseRun.letters (run : CaseRun) : Stretch := ⟨run.first, run.last, run.step⟩

def CaseRun.capitals (run : CaseRun) : Stretch :=
  ⟨(run.first + run.shift).toNat, (run.last + run.shift).toNat, run.step⟩

/-- The numbers of white space. -/
def spaces : List Stretch := [
  ⟨0x09, 0x0D, 1⟩, ⟨0x1C, 0x20, 1⟩, ⟨0x85, 0x85, 1⟩, ⟨0xA0, 0xA0, 1⟩, ⟨0x1680, 0x1680, 1⟩, ⟨0x2000, 0x200A, 1⟩,
  ⟨0x2028, 0x2029, 1⟩, ⟨0x202F, 0x202F, 1⟩, ⟨0x205F, 0x205F, 1⟩, ⟨0x3000, 0x3000, 1⟩]

/-- The numbers of small letters and of white space. -/
def notCapitals : List Stretch :=
  ⟨0x61, 0x7A, 1⟩ :: spaces ++ caseExpansions.map (fun e => ⟨e.1, e.1, 1⟩) ++ caseRuns.map CaseRun.letters

/-- A visible character that is its own capital. -/
def IsCapital (c : CodePoint) : Prop := upperChar c = [c] ∧ isSpace c = false

instance (c : CodePoint) : Decidable (IsCapital c) := inferInstanceAs (Decidable (_ ∧ _))

theorem isSpace_of_spaces {c : CodePoint} (outside : ∀ s ∈ spaces, ¬s.Covers c.toNat) : isSpace c = false := by
  rw [Bool.eq_false_iff]
  intro space
  simp only [spaces, List.forall_mem_cons, Stretch.Covers] at outside
  simp only [isSpace, Bool.or_eq_true, Bool.and_eq_true, decide_eq_true_eq, beq_iff_eq] at space
  omega

theorem isCapital_ascii : ∀ n < 0x80, ¬(0x61 ≤ n ∧ n ≤ 0x7A) → isSpace (.ofNat n) = false →
    IsCapital (.ofNat n) := by
  decide +kernel

theorem isCapital_of_notCapitals {c : CodePoint} (outside : ∀ s ∈ notCapitals, ¬s.Covers c.toNat) :
    IsCapital c := by
  have visible : isSpace c = false := isSpace_of_spaces fun s member => outside s (by simp [notCapitals, member])
  by_cases ascii : c.toNat < 0x80
  · have large : ¬(0x61 ≤ c.toNat ∧ c.toNat ≤ 0x7A) := by
      have := outside ⟨0x61, 0x7A, 1⟩ (by simp [notCapitals])
      simpa [Stretch.Covers, Nat.mod_one] using this
    rw [← c.ofNat_toNat] at visible ⊢
    exact isCapital_ascii _ ascii large visible
  · have single : caseExpansions.lookup c.toNat = none := by
      rw [List.lookup_eq_none_iff]
      intro e member
      have listed : ⟨e.1, e.1, 1⟩ ∈ notCapitals :=
        List.mem_append_left _ (List.mem_append_right _ (List.mem_map.2 ⟨e, member, rfl⟩))
      have other := outside _ listed
      simp only [Stretch.Covers] at other
      rw [bne_iff_ne]
      omega
    have fixed : caseRuns.find? (·.covers c.toNat) = none := by
      rw [List.find?_eq_none]
      intro run member covers
      have listed : run.letters ∈ notCapitals := List.mem_append_right _ (List.mem_map_of_mem member)
      apply outside _ listed
      simpa [CaseRun.covers, Stretch.Covers, CaseRun.letters, and_assoc] using covers
    exact ⟨by simp [upperChar, ascii, single, fixed], visible⟩

/-! ## The tables -/

/-- The numbers of the capitals in the tables. -/
def tableCapitals : List Stretch :=
  caseRuns.map CaseRun.capitals ++ (caseExpansions.flatMap Prod.snd).eraseDups.map fun m => ⟨m, m, 1⟩

theorem isCapital_of_table {s : Stretch} {n : Nat} (member : s ∈ tableCapitals) (covers : s.Covers n) :
    IsCapital (.ofNat n) := by
  have checked : (tableCapitals.all fun s => notCapitals.all s.misses) = true := by decide +kernel
  have misses := List.all_eq_true.1 (List.all_eq_true.1 checked s member)
  rcases CodePoint.toNat_ofNat n with same | none
  · apply isCapital_of_notCapitals
    intro other listed
    rw [same]
    exact Stretch.not_covers_of_misses (misses other listed) covers
  · -- A number that is no code point stands for the character of code zero.
    rw [← CodePoint.ofNat_toNat (.ofNat n), none]
    decide

theorem isCapital_of_run {run : CaseRun} {n : Nat} (member : run ∈ caseRuns) (covers : run.covers n = true) :
    IsCapital (.ofNat (n + run.shift).toNat) := by
  have starts : ∀ run ∈ caseRuns, 0 ≤ run.first + run.shift := by decide +kernel
  have start := starts run member
  simp only [CaseRun.covers, Bool.and_eq_true, decide_eq_true_eq, beq_iff_eq] at covers
  obtain ⟨⟨low, high⟩, apart⟩ := covers
  have distance : (n + run.shift).toNat - (run.first + run.shift).toNat = n - run.first := by omega
  apply isCapital_of_table (List.mem_append_left _ (List.mem_map_of_mem member))
  refine ⟨?_, ?_, ?_⟩ <;> simp only [CaseRun.capitals]
  · omega
  · omega
  · rw [distance, apart]

theorem isCapital_of_expansion {e : Nat × List Nat} (member : e ∈ caseExpansions) {m : Nat} (listed : m ∈ e.2) :
    IsCapital (.ofNat m) := by
  have flat : m ∈ (caseExpansions.flatMap Prod.snd).eraseDups :=
    List.mem_eraseDups.2 (List.mem_flatMap.2 ⟨e, member, listed⟩)
  exact isCapital_of_table (List.mem_append_right _ (List.mem_map_of_mem flat)) ⟨le_rfl, le_rfl, Nat.mod_one _⟩

theorem upperChar_ascii : ∀ n < 0x80, upperChar (CodePoint.ofNat n).toUpper = [(CodePoint.ofNat n).toUpper] ∧
    isSpace (CodePoint.ofNat n).toUpper = isSpace (.ofNat n) := by
  decide +kernel

/-! ## Upper-casing -/

theorem mem_of_lookup {n : Nat} {capitals : List Nat} (found : caseExpansions.lookup n = some capitals) :
    (n, capitals) ∈ caseExpansions := by
  obtain ⟨before, after, split, -⟩ := List.lookup_eq_some_iff.1 found
  simp [split]

theorem upperChar_ne_nil (c : CodePoint) : upperChar c ≠ [] := by
  unfold upperChar
  split
  · simp
  · split
    · next capitals found =>
      have some : ∀ e ∈ caseExpansions, e.2 ≠ [] := by decide +kernel
      simpa using some _ (mem_of_lookup found)
    · split <;> simp

/-- What a character becomes is its own capital, and visible if the character was. -/
theorem upperChar_of_mem {c d : CodePoint} (member : d ∈ upperChar c) :
    upperChar d = [d] ∧ (isSpace c = false → isSpace d = false) := by
  unfold upperChar at member
  split at member
  · next ascii =>
    cases List.mem_singleton.1 member
    have own := upperChar_ascii _ ascii
    rw [c.ofNat_toNat] at own
    exact ⟨own.1, fun visible => own.2.trans visible⟩
  · next beyond =>
    split at member
    · next capitals found =>
      obtain ⟨m, listed, rfl⟩ := List.mem_map.1 member
      have capital := isCapital_of_expansion (mem_of_lookup found) listed
      exact ⟨capital.1, fun _ => capital.2⟩
    · next single =>
      split at member
      · next run found =>
        cases List.mem_singleton.1 member
        have covers : run.covers c.toNat = true := by simpa using List.find?_some found
        have capital := isCapital_of_run (List.mem_of_find?_eq_some found) covers
        exact ⟨capital.1, fun _ => capital.2⟩
      · next fixed =>
        cases List.mem_singleton.1 member
        exact ⟨by simp [upperChar, beyond, single, fixed], id⟩

theorem upper_upper (t : Text) : upper (upper t) = upper t := by
  unfold upper
  rw [List.flatMap_assoc]
  congr 1
  funext c
  calc (upperChar c).flatMap upperChar = (upperChar c).flatMap fun d => [d] :=
        List.flatMap_congr fun d member => (upperChar_of_mem member).1
    _ = upperChar c := List.flatMap_singleton' _

theorem Tight.upper {t : Text} (tight : Tight t) : Tight (upper t) where
  first := by
    obtain ⟨c, rest, rfl, visible⟩ := tight.first
    obtain ⟨d, more, capital⟩ := List.exists_cons_of_ne_nil (upperChar_ne_nil c)
    refine ⟨d, more ++ Text.upper rest, ?_, (upperChar_of_mem (by simp [capital])).2 visible⟩
    simp [Text.upper, capital]
  last := by
    obtain ⟨front, c, rfl, visible⟩ := tight.last
    refine ⟨Text.upper front ++ (upperChar c).dropLast, (upperChar c).getLast (upperChar_ne_nil c), ?_,
      (upperChar_of_mem (List.getLast_mem _)).2 visible⟩
    simp [Text.upper, List.dropLast_concat_getLast]

end Text

end AsmCheck
