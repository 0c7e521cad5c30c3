import AsmCheck.Assist
import AsmCheck.Proofs.Source.Pieces

/-! The word at a column. Two stretches of word letters that meet are one stretch, so of those that cannot be made longer
at most one touches a column. The scan in both directions finds it, and every column that it touches leads back to it. -/

set_option autoImplicit false

namespace AsmCheck.Assist

/-! ## Word letters -/

/-- The letters of both cases, the digits and the underscore, all of ASCII. -/
def WordLetter (c : CodePoint) : Prop :=
  ('A'.toNat ≤ c.toNat ∧ c.toNat ≤ 'Z'.toNat) ∨ ('a'.toNat ≤ c.toNat ∧ c.toNat ≤ 'z'.toNat) ∨
    ('0'.toNat ≤ c.toNat ∧ c.toNat ≤ '9'.toNat) ∨ c.toNat = '_'.toNat

theorem isWordLetter_eq_true {c : CodePoint} : isWordLetter c = true ↔ WordLetter c := by
  simp only [isWordLetter, Bool.or_eq_true, beq_iff_eq]
  cases c with
  | surrogate index =>
    have beyond : ¬ WordLetter (.surrogate index) := by
      simp only [WordLetter, CodePoint.toNat, Char.reduceToNat]
      omega
    simp [beyond, CodePoint.isAlphanum, CodePoint.char?]
  | scalar c =>
    have letter : (CodePoint.scalar c).isAlphanum = true ↔ _ := Source.isAlphanum_iff_toNat
    have underscore : CodePoint.scalar c = .scalar '_' ↔ c.toNat = '_'.toNat := by
      rw [CodePoint.scalar.injEq, Char.toNat_inj]
    rw [letter, underscore]
    simp only [WordLetter, CodePoint.toNat, Char.reduceToNat]
    omega

/-- A word letter stands at a position of the text. -/
def LetterAt (t : Text) (i : Nat) : Prop := ∃ c, t[i]? = some c ∧ WordLetter c

/-- Word letters stand at all positions from `start` up to `stop`. -/
def AllLetters (line : Text) (start stop : Nat) : Prop := ∀ i, start ≤ i → i < stop → LetterAt line i

/-- A stretch of word letters that is part of no longer one. -/
structure MaximalRun (line : Text) (start stop : Nat) : Prop where
  letters : AllLetters line start stop
  longest : ∀ {first last : Nat}, AllLetters line first last → first ≤ start → stop ≤ last → first = start ∧ last = stop

section

variable {line : Text} {c : CodePoint} {i place start stop start' stop' : Nat}

@[simp] theorem not_letterAt_nil : ¬ LetterAt [] i := by
  simp [LetterAt]

@[simp] theorem letterAt_cons_zero : LetterAt (c :: line) 0 ↔ WordLetter c := by
  simp [LetterAt]

@[simp] theorem letterAt_cons_succ : LetterAt (c :: line) (i + 1) ↔ LetterAt line i := by
  simp [LetterAt]

theorem letterAt_drop : LetterAt (line.drop place) i ↔ LetterAt line (place + i) := by
  simp [LetterAt]

/-- Read backwards, what stands in front of a place comes in the opposite order. -/
theorem letterAt_reverse_take (inside : place ≤ line.length) (before : i < place) :
    LetterAt (line.take place).reverse i ↔ LetterAt line (place - 1 - i) := by
  have length : (line.take place).length = place := by simp [inside]
  rw [LetterAt, List.getElem?_reverse (by omega), length, List.getElem?_take_of_lt (by omega), LetterAt]

theorem LetterAt.lt_length (letter : LetterAt line i) : i < line.length := by
  obtain ⟨c, found, -⟩ := letter
  exact (List.getElem?_eq_some_iff.1 found).1

/-! ## Stretches of letters -/

theorem AllLetters.stop_le_length (letters : AllLetters line start stop) (nonempty : start < stop) :
    stop ≤ line.length := by
  have last := (letters (stop - 1) (by omega) (by omega)).lt_length
  omega

theorem AllLetters.single (letter : LetterAt line i) : AllLetters line i (i + 1) := by
  intro j low high
  obtain rfl : j = i := by omega
  exact letter

/-- Two stretches that touch one place are one stretch. -/
theorem AllLetters.union (first : AllLetters line start stop) (second : AllLetters line start' stop')
    (low : start ≤ place) (high : place ≤ stop) (low' : start' ≤ place) (high' : place ≤ stop') :
    AllLetters line (min start start') (max stop stop') := by
  intro i above below
  rcases Nat.lt_or_ge i place with before | behind
  · have reached : start ≤ i ∨ start' ≤ i := by omega
    rcases reached with inFirst | inSecond
    · exact first i inFirst (by omega)
    · exact second i inSecond (by omega)
  · have reached : i < stop ∨ i < stop' := by omega
    rcases reached with inFirst | inSecond
    · exact first i (by omega) inFirst
    · exact second i (by omega) inSecond

theorem MaximalRun.within (run : MaximalRun line start stop) (letters : AllLetters line start' stop')
    (low : start ≤ place) (high : place ≤ stop) (low' : start' ≤ place) (high' : place ≤ stop') :
    start ≤ start' ∧ stop' ≤ stop := by
  obtain ⟨front, back⟩ := run.longest (run.letters.union letters low high low' high') (min_le_left _ _) (le_max_left _ _)
  omega

theorem MaximalRun.unique (run : MaximalRun line start stop) (run' : MaximalRun line start' stop')
    (low : start ≤ place) (high : place ≤ stop) (low' : start' ≤ place) (high' : place ≤ stop') :
    start' = start ∧ stop' = stop := by
  have inside := run.within run'.letters low high low' high'
  have inside' := run'.within run.letters low' high' low high
  omega

/-- A stretch with no word letter right before it and none right behind it is as long as it can be. -/
theorem MaximalRun.of_ends (ordered : start ≤ stop) (letters : AllLetters line start stop)
    (before : ∀ i, i + 1 = start → ¬ LetterAt line i) (behind : ¬ LetterAt line stop) : MaximalRun line start stop where
  letters := letters
  longest {first last} longer low high := by
    constructor
    · by_contra different
      exact before (start - 1) (by omega) (longer (start - 1) (by omega) (by omega))
    · by_contra different
      exact behind (longer stop (by omega) (by omega))

/-! ## The scan in both directions -/

theorem allLetters_takeWhile (t : Text) : AllLetters t 0 (t.takeWhile isWordLetter).length := by
  induction t with
  | nil => simp [AllLetters]
  | cons c rest ih =>
    intro i _ taken
    by_cases letter : isWordLetter c = true
    · rw [List.takeWhile_cons_of_pos letter, List.length_cons] at taken
      cases i with
      | zero => exact letterAt_cons_zero.2 (isWordLetter_eq_true.1 letter)
      | succ i => exact letterAt_cons_succ.2 (ih i (Nat.zero_le i) (Nat.lt_of_succ_lt_succ taken))
    · simp [List.takeWhile_cons_of_neg letter] at taken

theorem not_letterAt_takeWhile (t : Text) : ¬ LetterAt t (t.takeWhile isWordLetter).length := by
  induction t with
  | nil => exact not_letterAt_nil
  | cons c rest ih =>
    by_cases letter : isWordLetter c = true
    · rwa [List.takeWhile_cons_of_pos letter, List.length_cons, letterAt_cons_succ]
    · rwa [List.takeWhile_cons_of_neg letter, List.length_nil, letterAt_cons_zero, ← isWordLetter_eq_true]

/-- How many word letters the scan passes on its way back from a place. -/
def lettersBack (line : Text) (place : Nat) : Nat := ((line.take place).reverse.takeWhile isWordLetter).length

/-- How many word letters the scan passes on its way ahead. -/
def lettersAhead (line : Text) (place : Nat) : Nat := ((line.drop place).takeWhile isWordLetter).length

theorem lettersBack_le (line : Text) (place : Nat) : lettersBack line place ≤ place := by
  have passed : lettersBack line place ≤ (line.take place).reverse.length := (List.takeWhile_sublist _).length_le
  simp only [List.length_reverse, List.length_take] at passed
  omega

theorem allLetters_back (inside : place ≤ line.length) : AllLetters line (place - lettersBack line place) place := by
  intro i low high
  have passed := allLetters_takeWhile (line.take place).reverse (place - 1 - i) (Nat.zero_le _)
    (show _ < lettersBack line place by omega)
  rwa [letterAt_reverse_take inside (by omega), show place - 1 - (place - 1 - i) = i by omega] at passed

theorem not_letterAt_back (inside : place ≤ line.length) (next : i + 1 = place - lettersBack line place) :
    ¬ LetterAt line i := by
  have stopped : ¬ LetterAt (line.take place).reverse (lettersBack line place) := not_letterAt_takeWhile _
  rwa [letterAt_reverse_take inside (by omega), show place - 1 - lettersBack line place = i by omega] at stopped

theorem allLetters_ahead (line : Text) (place : Nat) : AllLetters line place (place + lettersAhead line place) := by
  intro i low high
  have passed := allLetters_takeWhile (line.drop place) (i - place) (Nat.zero_le _)
    (show _ < lettersAhead line place by omega)
  rwa [letterAt_drop, Nat.add_sub_cancel' low] at passed

theorem not_letterAt_ahead (line : Text) (place : Nat) : ¬ LetterAt line (place + lettersAhead line place) := by
  rw [← letterAt_drop]
  exact not_letterAt_takeWhile (line.drop place)

theorem maximalRun_around (inside : place ≤ line.length) :
    MaximalRun line (place - lettersBack line place) (place + lettersAhead line place) := by
  have low : place - lettersBack line place ≤ place := Nat.sub_le _ _
  have high : place ≤ place + lettersAhead line place := Nat.le_add_right _ _
  have whole := (allLetters_back inside).union (allLetters_ahead line place) low le_rfl le_rfl high
  rw [Nat.min_eq_left low, Nat.max_eq_right high] at whole
  exact .of_ends (low.trans high) whole (fun _ => not_letterAt_back inside) (not_letterAt_ahead line place)

end

/-! ## The word found -/

/-- The column, or the nearest end of the line if the column is beyond it. -/
def clamped (line : Text) (column : Int) : Nat := (max 0 (min column line.length)).toNat

theorem clamped_eq (line : Text) (column : Int) : clamped line column = min column.toNat line.length := by
  unfold clamped
  omega

theorem wordRange?_eq (line : Text) (column : Int) :
    wordRange? line column =
      if lettersBack line (clamped line column) + lettersAhead line (clamped line column) = 0 then none
      else some (clamped line column - lettersBack line (clamped line column),
        clamped line column + lettersAhead line (clamped line column)) := by
  rw [clamped_eq]
  rfl

/-- Around every column there is a longest stretch of word letters, and the scan answers with it unless it is empty. -/
theorem exists_maximalRun (line : Text) (column : Int) :
    ∃ start stop, MaximalRun line start stop ∧ start ≤ clamped line column ∧ clamped line column ≤ stop ∧
      wordRange? line column = if start = stop then none else some (start, stop) := by
  have inside : clamped line column ≤ line.length := by
    rw [clamped_eq]
    exact Nat.min_le_right _ _
  refine ⟨_, _, maximalRun_around inside, Nat.sub_le _ _, Nat.le_add_right _ _, ?_⟩
  rw [wordRange?_eq]
  have short := lettersBack_le line (clamped line column)
  exact if_congr (by omega) rfl rfl

section

variable {line : Text} {column : Int} {start stop : Nat}

theorem wordRange?_eq_some : wordRange? line column = some (start, stop) ↔
    start < stop ∧ MaximalRun line start stop ∧ start ≤ clamped line column ∧ clamped line column ≤ stop := by
  obtain ⟨first, last, run, low, high, answer⟩ := exists_maximalRun line column
  rw [answer]
  constructor
  · intro found
    split at found
    · cases found
    · next nonempty =>
      cases found
      exact ⟨by omega, run, low, high⟩
  · rintro ⟨nonempty, other, low', high'⟩
    obtain ⟨rfl, rfl⟩ := run.unique other low high low' high'
    rw [if_neg (Nat.ne_of_lt nonempty)]

theorem wordRange?_eq_none : wordRange? line column = none ↔
    ∀ i, i + 1 = clamped line column ∨ i = clamped line column → ¬ LetterAt line i := by
  obtain ⟨first, last, run, low, high, answer⟩ := exists_maximalRun line column
  rw [answer]
  constructor
  · intro nothing i beside letter
    split at nothing
    · -- A letter beside the column is a stretch of its own, and an empty one has no room for it.
      have inside := run.within (.single letter) low high (by omega) (by omega)
      omega
    · cases nothing
  · intro alone
    rw [if_pos]
    by_contra nonempty
    -- The stretch has a letter in front of the column unless it starts there.
    rcases Nat.lt_or_ge first (clamped line column) with before | behind
    · exact alone (clamped line column - 1) (by omega) (run.letters _ (by omega) (by omega))
    · exact alone (clamped line column) (by omega) (run.letters _ (by omega) (by omega))

/-- Every column from the start of a word to its end leads to the word. -/
theorem wordRange?_of_touching (found : wordRange? line column = some (start, stop)) {other : Int}
    (low : start ≤ other) (high : other ≤ stop) : wordRange? line other = some (start, stop) := by
  obtain ⟨nonempty, run, -⟩ := wordRange?_eq_some.1 found
  have inside := run.letters.stop_le_length nonempty
  have same : (clamped line other : Int) = other := by
    rw [clamped_eq]
    omega
  exact wordRange?_eq_some.2 ⟨nonempty, run, by omega, by omega⟩

end

/-- The range at a column is the longest stretch of word letters that touches it, and there is none exactly if no word
letter stands on either side of the column. Every column from the start of the range to its end has the same range, the
same word and the same help. -/
theorem word_range_iff_maximal_run (line : Text) (column : Int) :
    (∀ start stop, wordRange? line column = some (start, stop) ↔
      start < stop ∧ MaximalRun line start stop ∧ start ≤ clamped line column ∧ clamped line column ≤ stop) ∧
    (wordRange? line column = none ↔
      ∀ i, i + 1 = clamped line column ∨ i = clamped line column → ¬ LetterAt line i) ∧
    ∀ start stop, wordRange? line column = some (start, stop) →
      word? line column = some ((line.take stop).drop start) ∧
      ∀ other : Int, start ≤ other → other ≤ stop →
        wordRange? line other = some (start, stop) ∧ word? line other = word? line column ∧
        ∀ set, helpAt? set line other = helpAt? set line column := by
  refine ⟨fun start stop => wordRange?_eq_some, wordRange?_eq_none, ?_⟩
  intro start stop found
  refine ⟨by simp [word?, found], fun other low high => ?_⟩
  have again := wordRange?_of_touching found low high
  have word : word? line other = word? line column := by simp only [word?, again, found]
  exact ⟨again, word, fun set => by simp only [helpAt?, word]⟩

/-- A letter beyond ASCII ends a word as a comma does. -/
theorem word_range_behind_accented_letter :
    wordRange? "mov \u00e9ax_9, 1" 9 = some (5, 9) ∧ MaximalRun "mov \u00e9ax_9, 1" 5 9 ∧
      wordRange? "mov \u00e9ax_9, 1" 5 = some (5, 9) ∧ word? "mov \u00e9ax_9, 1" 9 = some "ax_9" := by
  have found : wordRange? "mov \u00e9ax_9, 1" 9 = some (5, 9) := by decide +kernel
  obtain ⟨ranges, -, same⟩ := word_range_iff_maximal_run "mov \u00e9ax_9, 1" 9
  obtain ⟨word, others⟩ := same 5 9 found
  exact ⟨found, ((ranges 5 9).1 found).2.1, (others 5 (by decide) (by decide)).1, word⟩

end AsmCheck.Assist
