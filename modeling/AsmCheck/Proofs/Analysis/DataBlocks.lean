import AsmCheck.Proofs.Analysis.Reachability
import Mathlib.Data.Set.Image

/-! Blocks of data between lines of code. A block without labels leaves it as it is which instructions can be reached.
A label in the block counts like any other: the code behind the block is taken as reached from it. -/

set_option autoImplicit false

namespace AsmCheck

/-- No instruction, no constant and no change of section. -/
def Source.Statement.isInert : Statement → Bool
  | .blank | .comment | .label _ | .data _ _ _ | .origin _ _ => true
  | _ => false

namespace Analysis

open Source (Line Section Statement)

/-- A line that enters the data section, lines that stay there, and a line that goes back to the code section and does
not mute the line behind it. -/
structure DataBlock where
  enter : Text
  inner : List Text
  leave : Text
  entered : Source.classify enter = .enter .data
  inert : ∀ t ∈ inner, (Source.classify t).isInert = true
  left : Source.classify leave = .enter .code
  heard : Source.ignoresNext leave = false

def DataBlock.texts (block : DataBlock) : List Text := block.enter :: block.inner ++ [block.leave]

def DataBlock.isLabelled (block : DataBlock) : Bool :=
  block.inner.any fun t => (Source.classify t).label?.isSome

/-- The lines that are called unreachable. -/
def unreachableLines (texts : List Text) : Set Nat := {i | unreachableWarnings texts i ≠ []}

/-- The number of a line once some more stand behind the lines in front. -/
def movedBy (front count i : Nat) : Nat := if i < front then i else i + count

/-- The line stands behind the lines in front, and the terminator that it follows among them. -/
def EndedAcross (first second : List Text) (i : Nat) : Prop :=
  first.length ≤ i ∧ ∃ j < first.length, ∃ mnemonic, EndedBefore (first ++ second) i j mnemonic

variable {texts : List Text} {i j k : Nat} {mnemonic : Text}

/-! ## Moved numbers -/

section
variable {front count : Nat}

theorem movedBy_lt_iff : movedBy front count i < movedBy front count j ↔ i < j := by
  unfold movedBy
  split <;> split <;> omega

theorem movedBy_le_iff : movedBy front count i ≤ movedBy front count j ↔ i ≤ j := by
  unfold movedBy
  split <;> split <;> omega

theorem eq_movedBy_or_inside (front count k : Nat) :
    (∃ i, k = movedBy front count i) ∨ front ≤ k ∧ k < front + count := by
  by_cases before : k < front
  · exact .inl ⟨k, by simp [movedBy, before]⟩
  · by_cases inside : k < front + count
    · exact .inr ⟨by omega, inside⟩
    · refine .inl ⟨k - count, ?_⟩
      unfold movedBy
      split <;> omega

end

/-! ## Unreachable lines by position -/

theorem mem_unreachableLines :
    i ∈ unreachableLines texts ↔ Watched texts i ∧ ∃ j mnemonic, EndedBefore texts i j mnemonic := by
  constructor
  · intro warned
    obtain ⟨d, member⟩ := List.exists_mem_of_ne_nil _ warned
    obtain ⟨line, here⟩ := exists_line_of_mem_flowWarnings member
    refine ⟨(watched_of_mem_unreachableWarnings here member).1, ?_⟩
    by_contra reached
    push Not at reached
    exact warned (unreachableWarnings_of_not_ended here reached)
  · rintro ⟨watched, j, mnemonic, ended⟩
    obtain ⟨own, known⟩ := Option.isSome_iff_exists.1 watched.code
    obtain ⟨line, here⟩ := exists_line_of_code known
    change unreachableWarnings texts i ≠ []
    rw [unreachableWarnings_of_ended here watched ended]
    exact List.cons_ne_nil _ _

/-! ## Positions in and around a block -/

section
variable (block : DataBlock) (first second : List Text)

theorem getElem?_movedBy (i : Nat) :
    (first ++ block.texts ++ second)[movedBy first.length block.texts.length i]? = (first ++ second)[i]? := by
  unfold movedBy
  split
  · next before => rw [List.append_assoc, List.getElem?_append_left before, List.getElem?_append_left before]
  · next behind =>
    rw [List.getElem?_append_right (by simp; omega), List.getElem?_append_right (by omega)]
    congr 1
    simp only [List.length_append]
    omega

theorem sectionAfter_block : (block.texts.map Source.classify).foldl sectionAfter .code = .code := by
  have stays (inner : List Text) (inert : ∀ t ∈ inner, (Source.classify t).isInert = true) :
      (inner.map Source.classify).foldl sectionAfter .data = .data := by
    induction inner with
    | nil => rfl
    | cons t rest ih =>
      have same : sectionAfter .data (Source.classify t) = .data := by
        have own := inert t List.mem_cons_self
        cases statement : Source.classify t <;> simp_all [Statement.isInert, sectionAfter]
      rw [List.map_cons, List.foldl_cons, same]
      exact ih fun u member => inert u (List.mem_cons_of_mem t member)
  simp [DataBlock.texts, block.entered, block.left, sectionAfter, stays block.inner block.inert]

variable {first second} {t : Text}

theorem sectionOf_movedBy (code : sectionOf (first ++ second) first.length = .code) (i : Nat) :
    sectionOf (first ++ block.texts ++ second) (movedBy first.length block.texts.length i) =
      sectionOf (first ++ second) i := by
  have front : (first.map Source.classify).foldl sectionAfter .code = .code := by
    rwa [sectionOf, List.take_left] at code
  unfold movedBy
  split
  · next before =>
    rw [sectionOf, sectionOf, List.append_assoc, List.take_append_of_le_length (Nat.le_of_lt before),
      List.take_append_of_le_length (Nat.le_of_lt before)]
  · next behind =>
    obtain ⟨rest, rfl⟩ := Nat.exists_eq_add_of_le (Nat.le_of_not_lt behind)
    have place : first.length + rest + block.texts.length = (first ++ block.texts).length + rest := by
      rw [List.length_append]
      omega
    rw [sectionOf, sectionOf, place, List.take_length_add_append, List.take_length_add_append]
    simp only [List.map_append, List.foldl_append, front, sectionAfter_block]

theorem codeAt?_movedBy (code : sectionOf (first ++ second) first.length = .code) (i : Nat) :
    codeAt? (first ++ block.texts ++ second) (movedBy first.length block.texts.length i) =
      codeAt? (first ++ second) i := by
  rw [codeAt?, codeAt?, getElem?_movedBy, sectionOf_movedBy block code]

theorem labelAt?_movedBy (i : Nat) :
    labelAt? (first ++ block.texts ++ second) (movedBy first.length block.texts.length i) =
      labelAt? (first ++ second) i := by
  rw [labelAt?, labelAt?, getElem?_movedBy]

theorem terminatorAt?_movedBy (code : sectionOf (first ++ second) first.length = .code) (i : Nat) :
    terminatorAt? (first ++ block.texts ++ second) (movedBy first.length block.texts.length i) =
      terminatorAt? (first ++ second) i := by
  rw [terminatorAt?, terminatorAt?, codeAt?_movedBy block code]

/-! ### Inside the block -/

theorem mem_texts_iff : t ∈ block.texts ↔ t = block.enter ∨ t ∈ block.inner ∨ t = block.leave := by
  simp [DataBlock.texts]

theorem exists_text_inside (second : List Text) (behind : first.length ≤ k)
    (before : k < first.length + block.texts.length) :
    ∃ t ∈ block.texts, (first ++ block.texts ++ second)[k]? = some t := by
  obtain ⟨rest, rfl⟩ := Nat.exists_eq_add_of_le behind
  have within : rest < block.texts.length := by omega
  exact ⟨block.texts[rest], List.getElem_mem within, Source.getElem?_append_within (List.getElem?_eq_getElem within)⟩

theorem codeAt?_inside (behind : first.length ≤ k) (before : k < first.length + block.texts.length) :
    codeAt? (first ++ block.texts ++ second) k = none := by
  obtain ⟨t, member, found⟩ := exists_text_inside block second behind before
  rw [codeAt?, found, Option.bind_some]
  rcases (mem_texts_iff block).1 member with rfl | inner | rfl
  · rw [block.entered]
    rfl
  · have inert := block.inert t inner
    cases statement : Source.classify t <;> simp_all [Statement.isInert, codeIn?]
  · rw [block.left]
    rfl

theorem labelAt?_inside (unlabelled : block.isLabelled = false) (behind : first.length ≤ k)
    (before : k < first.length + block.texts.length) : labelAt? (first ++ block.texts ++ second) k = none := by
  obtain ⟨t, member, found⟩ := exists_text_inside block second behind before
  rw [labelAt?, found, Option.bind_some]
  rcases (mem_texts_iff block).1 member with rfl | inner | rfl
  · rw [block.entered]
    rfl
  · simpa using List.any_eq_false.1 unlabelled t inner
  · rw [block.left]
    rfl

theorem exists_labelAt?_inside (first second : List Text) (labelled : block.isLabelled = true) :
    ∃ k, first.length ≤ k ∧ k < first.length + block.texts.length ∧
      (labelAt? (first ++ block.texts ++ second) k).isSome = true := by
  obtain ⟨t, inner, own⟩ := List.any_eq_true.1 labelled
  obtain ⟨rest, found⟩ := List.mem_iff_getElem?.1 ((mem_texts_iff block).2 (.inr (.inl inner)))
  have within : rest < block.texts.length := (List.getElem?_eq_some_iff.1 found).1
  refine ⟨first.length + rest, Nat.le_add_right _ _, Nat.add_lt_add_left within _, ?_⟩
  rw [labelAt?, Source.getElem?_append_within found, Option.bind_some]
  exact own

/-! ### What becomes of an instruction -/

/-- The line of the block that the code goes on behind does not mute it, and no other line has come in front of it. -/
theorem mutedAt_movedBy (together : second = [] ∨ first.getLast?.any Source.ignoresNext = false)
    (within : i < (first ++ second).length) :
    mutedAt (first ++ block.texts ++ second) (movedBy first.length block.texts.length i) =
      mutedAt (first ++ second) i := by
  have long : 0 < block.texts.length := by simp [DataBlock.texts]
  rw [mutedAt, mutedAt, getElem?_movedBy]
  congr 1
  -- Only the line right behind the block has come to stand behind another line.
  rcases Nat.lt_trichotomy i first.length with before | rfl | behind
  · have previous : (first ++ block.texts ++ second)[i - 1]? = (first ++ second)[i - 1]? := by
      rw [List.append_assoc, List.getElem?_append_left (by omega), List.getElem?_append_left (by omega)]
    rw [movedBy, if_pos before, previous]
  · have last : (first ++ block.texts ++ second)[first.length + block.texts.length - 1]? = some block.leave := by
      rw [List.getElem?_append_left (by simp; omega), ← List.length_append, ← List.getLast?_eq_getElem?,
        DataBlock.texts, ← List.append_assoc, List.getLast?_concat]
    have quiet : first.getLast?.any Source.ignoresNext = false := by
      rcases together with rfl | quiet
      · simp at within
      · exact quiet
    rw [movedBy, if_neg (Nat.lt_irrefl _), last, if_neg (by omega), Option.any_some, block.heard]
    split
    · rfl
    · rw [List.getElem?_append_left (by omega), ← List.getLast?_eq_getElem?, quiet]
  · have previous : movedBy first.length block.texts.length i - 1 = movedBy first.length block.texts.length (i - 1) := by
      unfold movedBy
      split <;> split <;> omega
    have moved : movedBy first.length block.texts.length i ≠ 0 := by
      unfold movedBy
      split <;> omega
    rw [if_neg moved, if_neg (by omega), previous, getElem?_movedBy]

theorem watched_movedBy (code : sectionOf (first ++ second) first.length = .code)
    (together : second = [] ∨ first.getLast?.any Source.ignoresNext = false) :
    Watched (first ++ block.texts ++ second) (movedBy first.length block.texts.length i) ↔
      Watched (first ++ second) i := by
  have within (known : (codeAt? (first ++ second) i).isSome = true) : i < (first ++ second).length := by
    obtain ⟨mnemonic, own⟩ := Option.isSome_iff_exists.1 known
    obtain ⟨t, found, -⟩ := Option.bind_eq_some_iff.1 own
    exact (List.getElem?_eq_some_iff.1 found).1
  constructor
  · rintro ⟨known, heard⟩
    rw [codeAt?_movedBy block code] at known
    exact ⟨known, (mutedAt_movedBy block together (within known)).symm.trans heard⟩
  · rintro ⟨known, heard⟩
    exact ⟨by rwa [codeAt?_movedBy block code], (mutedAt_movedBy block together (within known)).trans heard⟩

/-- A terminator is followed past the block unless the block stands between and has a label. -/
theorem endedBefore_movedBy (code : sectionOf (first ++ second) first.length = .code) :
    EndedBefore (first ++ block.texts ++ second) (movedBy first.length block.texts.length i)
        (movedBy first.length block.texts.length j) mnemonic ↔
      EndedBefore (first ++ second) i j mnemonic ∧
        (block.isLabelled = true → ¬(j < first.length ∧ first.length ≤ i)) := by
  constructor
  · rintro ⟨earlier, ends, last, unlabelled⟩
    refine ⟨⟨movedBy_lt_iff.1 earlier, ?_, ?_, ?_⟩, ?_⟩
    · rwa [terminatorAt?_movedBy block code] at ends
    · intro k before behind
      have none := last _ (movedBy_lt_iff.2 before) (movedBy_lt_iff.2 behind)
      rwa [terminatorAt?_movedBy block code] at none
    · intro k upTo behind
      have none := unlabelled _ (movedBy_le_iff.2 upTo) (movedBy_lt_iff.2 behind)
      rwa [labelAt?_movedBy] at none
    · rintro labelled ⟨front, back⟩
      obtain ⟨k, after, upTo, own⟩ := exists_labelAt?_inside block first second labelled
      rw [unlabelled k (by unfold movedBy; split <;> omega) (by unfold movedBy; split <;> omega)] at own
      cases own
  · rintro ⟨⟨earlier, ends, last, unlabelled⟩, across⟩
    refine ⟨movedBy_lt_iff.2 earlier, ?_, ?_, ?_⟩
    · rwa [terminatorAt?_movedBy block code]
    · intro k before behind
      rcases eq_movedBy_or_inside first.length block.texts.length k with ⟨own, rfl⟩ | ⟨after, upTo⟩
      · rw [terminatorAt?_movedBy block code]
        exact last own (movedBy_lt_iff.1 before) (movedBy_lt_iff.1 behind)
      · rw [terminatorAt?, codeAt?_inside block after upTo]
        rfl
    · intro k upTo behind
      rcases eq_movedBy_or_inside first.length block.texts.length k with ⟨own, rfl⟩ | ⟨after, before⟩
      · rw [labelAt?_movedBy]
        exact unlabelled own (movedBy_le_iff.1 upTo) (movedBy_lt_iff.1 behind)
      · -- The block stands between the two lines, so it has no label.
        have apart : j < first.length ∧ first.length ≤ i := by
          unfold movedBy at upTo behind
          split at upTo <;> split at behind <;> omega
        have none : block.isLabelled = false := by
          cases labelled : block.isLabelled with
          | false => rfl
          | true => exact absurd apart (across labelled)
        exact labelAt?_inside block none after before

/-- Nothing in the block is called unreachable. A line around it is if it was before, unless the block has a label and
stands between the line and the terminator that it follows. -/
theorem unreachableLines_within (code : sectionOf (first ++ second) first.length = .code)
    (together : second = [] ∨ first.getLast?.any Source.ignoresNext = false) :
    unreachableLines (first ++ block.texts ++ second) = movedBy first.length block.texts.length ''
      {i ∈ unreachableLines (first ++ second) | block.isLabelled = true → ¬EndedAcross first second i} := by
  -- The block holds no code, so an instruction and the terminator that it follows both stand around it.
  have outside {k : Nat} (known : codeAt? (first ++ block.texts ++ second) k ≠ none) :
      ∃ i, k = movedBy first.length block.texts.length i := by
    rcases eq_movedBy_or_inside first.length block.texts.length k with moved | ⟨after, before⟩
    · exact moved
    · exact absurd (codeAt?_inside block after before) known
  ext k
  rw [mem_unreachableLines]
  constructor
  · rintro ⟨watched, terminator, mnemonic, ended⟩
    obtain ⟨i, rfl⟩ := outside (Option.isSome_iff_ne_none.1 watched.code)
    obtain ⟨j, rfl⟩ : ∃ j, terminator = movedBy first.length block.texts.length j := by
      apply outside
      intro none
      have ends := ended.ends
      rw [terminatorAt?, none] at ends
      cases ends
    obtain ⟨plain, across⟩ := (endedBefore_movedBy block code).1 ended
    refine ⟨i, ⟨mem_unreachableLines.2 ⟨(watched_movedBy block code together).1 watched, j, mnemonic, plain⟩, ?_⟩, rfl⟩
    rintro labelled ⟨back, other, front, name, again⟩
    exact across labelled ⟨plain.unique again ▸ front, back⟩
  · rintro ⟨i, ⟨warned, across⟩, rfl⟩
    obtain ⟨watched, j, mnemonic, ended⟩ := mem_unreachableLines.1 warned
    refine ⟨(watched_movedBy block code together).2 watched, _, mnemonic, (endedBefore_movedBy block code).2 ⟨ended, ?_⟩⟩
    rintro labelled ⟨front, back⟩
    exact across labelled ⟨back, j, front, mnemonic, ended⟩

end

/-- A block without a label leaves the same lines unreachable, under the numbers that they have moved to. A block with a
label also calls no further line unreachable, and of the lines behind it exactly those are let go that follow a
terminator in front of it. -/
theorem data_block_lets_code_go (block : DataBlock) {first second : List Text}
    (code : sectionOf (first ++ second) first.length = .code)
    (together : second = [] ∨ first.getLast?.any Source.ignoresNext = false) :
    (block.isLabelled = false → unreachableLines (first ++ block.texts ++ second) =
      movedBy first.length block.texts.length '' unreachableLines (first ++ second)) ∧
    (block.isLabelled = true → unreachableLines (first ++ block.texts ++ second) =
      movedBy first.length block.texts.length ''
        {i ∈ unreachableLines (first ++ second) | ¬EndedAcross first second i}) := by
  rw [unreachableLines_within block code together]
  constructor
  · intro unlabelled
    simp [unlabelled]
  · intro labelled
    simp [labelled]

/-- A label in a comment is none. Behind a label the code is let go up to the next terminator, with that one. -/
theorem data_blocks_behind_halt :
    (∃ block : DataBlock, block.texts = [".data", "; x:", "DB 1", ".text"] ∧
      unreachableLines ((["HLT"] : List Text) ++ block.texts ++ (["NOP", "RET", "NOP"] : List Text)) =
        movedBy 1 4 '' unreachableLines ((["HLT"] : List Text) ++ (["NOP", "RET", "NOP"] : List Text))) ∧
    ∃ block : DataBlock, block.texts = [".data", "x: DB 1", ".text"] ∧
      6 ∈ unreachableLines ((["HLT"] : List Text) ++ block.texts ++ (["NOP", "RET", "NOP"] : List Text)) := by
  have code : sectionOf ((["HLT"] : List Text) ++ (["NOP", "RET", "NOP"] : List Text)) 1 = .code := by decide +kernel
  have quiet : (["HLT"] : List Text).getLast?.any Source.ignoresNext = false := by decide +kernel
  constructor
  · refine ⟨⟨".data", ["; x:", "DB 1"], ".text", by decide +kernel, by decide +kernel, by decide +kernel,
      by decide +kernel⟩, rfl, ?_⟩
    exact (data_block_lets_code_go _ code (.inr quiet)).1 (by decide +kernel)
  · refine ⟨⟨".data", ["x: DB 1"], ".text", by decide +kernel, by decide +kernel, by decide +kernel,
      by decide +kernel⟩, rfl, ?_⟩
    rw [(data_block_lets_code_go _ code (.inr quiet)).2 (by decide +kernel)]
    have warned : unreachableWarnings ((["HLT"] : List Text) ++ (["NOP", "RET", "NOP"] : List Text)) 3 ≠ [] := by
      decide +kernel
    refine ⟨3, ⟨warned, ?_⟩, rfl⟩
    rintro ⟨-, j, front, mnemonic, ended⟩
    have second : terminatorAt? ((["HLT"] : List Text) ++ (["NOP", "RET", "NOP"] : List Text)) 2 ≠ none := by
      decide +kernel
    exact second (ended.last 2 (by decide) (Nat.lt_trans front (by decide)))

/-- Behind a halt an instruction can be reached once an item of data with a label stands between them. -/
theorem data_label_hides_halt :
    ∃ block : DataBlock, block.texts = [".data", "x: DB 1", ".text"] ∧
      sectionOf ((["HLT"] : List Text) ++ (["MOV EAX, 1"] : List Text)) 1 = .code ∧
      (["HLT"] : List Text).getLast?.any Source.ignoresNext = false ∧
      unreachableLines ((["HLT"] : List Text) ++ block.texts ++ (["MOV EAX, 1"] : List Text)) ≠
        movedBy 1 3 '' unreachableLines ((["HLT"] : List Text) ++ (["MOV EAX, 1"] : List Text)) := by
  refine ⟨⟨".data", ["x: DB 1"], ".text", by decide +kernel, by decide +kernel, by decide +kernel,
    by decide +kernel⟩, rfl, by decide +kernel, by decide +kernel, ?_⟩
  intro same
  have warned : unreachableWarnings ((["HLT"] : List Text) ++ (["MOV EAX, 1"] : List Text)) 1 ≠ [] := by decide +kernel
  have moved : 4 ∈ movedBy 1 3 '' unreachableLines ((["HLT"] : List Text) ++ (["MOV EAX, 1"] : List Text)) :=
    ⟨1, warned, rfl⟩
  rw [← same] at moved
  have quiet : unreachableWarnings ["HLT", ".data", "x: DB 1", ".text", "MOV EAX, 1"] 4 = [] := by decide +kernel
  exact moved quiet

end Analysis

end AsmCheck
