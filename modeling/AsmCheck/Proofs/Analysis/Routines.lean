import AsmCheck.Proofs.Analysis.Ranges

/-! Routines tile a source text: one starts at each line with a called label, and it ends in front of the next one.
What a routine counts and lists is then told by the lines between its first and its last line alone. -/

set_option autoImplicit false

namespace AsmCheck.Analysis

open Source (Line Numbered)

/-- The lines from one place to another, both of them included. -/
def between (lines : List Line) (first last : Nat) : List Line := (lines.take (last + 1)).drop first

theorem between_append (before part after : List Line) {first last : Nat} (start : first = before.length)
    (stop : last + 1 = before.length + part.length) : between (before ++ part ++ after) first last = part := by
  rw [between, stop, start, List.take_left' (by simp), List.drop_left]

/-! ## The lines of a stretch -/

def Stretch.lines (s : Stretch) : List Line := s.head :: s.body

variable {labels : List Text} {lines : List Line}

theorem map_head_stretches (labels : List Text) (lines : List Line) :
    (stretches labels lines).map Stretch.head = lines.filter (startsAt labels) := by
  induction lines with
  | nil => rfl
  | cons line rest ih =>
    rw [stretches, List.filter_cons]
    split
    · rw [List.map_cons, ih]
    · exact ih

/-- The stretches leave out nothing but the lines before the first of them. -/
theorem flatMap_lines_stretches (labels : List Text) (lines : List Line) :
    (stretches labels lines).flatMap Stretch.lines = lines.dropWhile (!startsAt labels ·) := by
  induction lines with
  | nil => rfl
  | cons line rest ih =>
    rw [stretches]
    by_cases starts : startsAt labels line = true
    · rw [if_pos starts, List.flatMap_cons, ih, List.dropWhile_cons_of_neg (by simp [starts]), Stretch.lines,
        List.cons_append, List.takeWhile_append_dropWhile]
    · rw [if_neg starts, ih, List.dropWhile_cons_of_pos (by simpa using starts)]

/-- Behind the lines of a stretch comes the first line of the next one, or nothing. -/
theorem split_of_getElem?_stretches {k : Nat} {s : Stretch} (here : (stretches labels lines)[k]? = some s) :
    ∃ before after, lines = before ++ s.lines ++ after ∧
      after.head? = (stretches labels lines)[k + 1]?.map Stretch.head := by
  induction lines generalizing k with
  | nil => simp [stretches] at here
  | cons line rest ih =>
    rw [stretches] at here ⊢
    split at here
    · next starts =>
      rw [if_pos starts]
      cases k with
      | zero =>
        cases here
        refine ⟨[], rest.dropWhile (!startsAt labels ·), by simp [Stretch.lines], ?_⟩
        -- The first line behind the stretch is the first one that starts another.
        rw [List.getElem?_cons_succ, ← List.head?_eq_getElem?, ← List.head?_map, map_head_stretches,
          List.head?_filter, ← List.find?_eq_head?_dropWhile_not]
      | succ k =>
        obtain ⟨before, after, split, next⟩ := ih here
        exact ⟨line :: before, after, by simp [split], next⟩
    · next starts =>
      rw [if_neg starts]
      obtain ⟨before, after, split, next⟩ := ih here
      exact ⟨line :: before, after, by simp [split], next⟩

/-! ## Registers in the order of their first use -/

/-- The entries of the one list are the different entries of the other, in the order in which each comes first. -/
structure FirstOccurrences (all found : List Text) : Prop where
  mem : ∀ t, t ∈ found ↔ t ∈ all
  nodup : found.Nodup
  ordered : found.Pairwise fun t u => all.idxOf t < all.idxOf u

theorem FirstOccurrences.nil : FirstOccurrences [] [] := ⟨fun _ => .rfl, .nil, .nil⟩

/-- List a register, if it is one of those that are looked for and not listed before. -/
def note (registers : List Text) (register : Text) (found : List Text) : List Text :=
  if register ∈ registers then Routine.addNew register found else found

theorem FirstOccurrences.addNew {all found : List Text} (listed : FirstOccurrences all found) (t : Text) :
    FirstOccurrences (all ++ [t]) (Routine.addNew t found) := by
  -- Where an entry comes first does not change by what is put behind it.
  have kept : found.Pairwise fun u v => (all ++ [t]).idxOf u < (all ++ [t]).idxOf v := by
    refine listed.ordered.imp_of_mem ?_
    intro u v first second before
    rwa [List.idxOf_append_of_mem ((listed.mem u).1 first), List.idxOf_append_of_mem ((listed.mem v).1 second)]
  unfold Routine.addNew
  split
  · next old =>
    refine ⟨?_, listed.nodup, kept⟩
    intro u
    have same : u = t → u ∈ all := by
      rintro rfl
      exact (listed.mem u).1 old
    rw [listed.mem, List.mem_append, List.mem_singleton, or_iff_left_of_imp same]
  · next new =>
    have absent : t ∉ all := fun present => new ((listed.mem t).2 present)
    have ordered : (found ++ [t]).Pairwise fun u v => (all ++ [t]).idxOf u < (all ++ [t]).idxOf v := by
      refine List.pairwise_append.2 ⟨kept, List.pairwise_singleton _ t, ?_⟩
      -- What is new comes first behind all that came before.
      intro u old v last
      obtain rfl : v = t := List.mem_singleton.1 last
      have front : u ∈ all := (listed.mem u).1 old
      rw [List.idxOf_append_of_mem front, List.idxOf_append_of_notMem absent]
      exact Nat.lt_add_right _ (List.idxOf_lt_length_iff.2 front)
    refine ⟨by simp [listed.mem], ordered.imp ?_, ordered⟩
    rintro u v before rfl
    exact Nat.lt_irrefl _ before

theorem FirstOccurrences.note {registers all found : List Text}
    (listed : FirstOccurrences (all.filter (· ∈ registers)) found) (t : Text) :
    FirstOccurrences ((all ++ [t]).filter (· ∈ registers)) (note registers t found) := by
  rw [List.filter_append]
  unfold Analysis.note
  by_cases counted : t ∈ registers
  · rw [if_pos counted, List.filter_cons_of_pos (by simpa using counted)]
    exact listed.addNew t
  · rw [if_neg counted, List.filter_cons_of_neg (by simpa using counted), List.filter_nil, List.append_nil]
    exact listed

/-! ## What an instruction adds -/

/-- The first operand in upper case; nothing if there is none. -/
def destination (line : Line) : Text := Text.upper (line.statement.operands.head?.getD [])

namespace Routine

theorem save_eq (r : Routine) (register : Text) :
    r.save register = { r with saved := note keptRegisters register r.saved } := by
  unfold save note
  split <;> rfl

theorem modify_eq (r : Routine) (register : Text) :
    r.modify register = { r with modified := note ["EBX", "ESI", "EDI"] register r.modified } := by
  have same : register ∈ keptRegisters ∧ register ≠ "EBP" ↔ register ∈ (["EBX", "ESI", "EDI"] : List Text) := by
    have apart : keptRegisters = (["EBX", "ESI", "EDI"] : List Text) ++ (["EBP"] : List Text) := rfl
    have frame : Text.ofString "EBP" ∉ (["EBX", "ESI", "EDI"] : List Text) := by decide +kernel
    rw [apart, List.mem_append, List.mem_singleton]
    constructor
    · rintro ⟨written | pointer, other⟩
      · exact written
      · exact absurd pointer other
    · intro written
      refine ⟨.inl written, ?_⟩
      rintro rfl
      exact frame written
  unfold modify note
  simp only [same]
  split <;> rfl

theorem recordPush_eq (r : Routine) (line : Line) (target : Text) :
    ∃ push, r.recordPush line target =
      { r with pushes := r.pushes + 1, prologuePush := push, saved := note keptRegisters target r.saved } := by
  rw [recordPush, save_eq]
  split <;> exact ⟨_, rfl⟩

theorem recordPop_eq (r : Routine) (line : Line) (target : Text) :
    ∃ pop, r.recordPop line target = { r with pops := r.pops + 1, epiloguePop := pop } := by
  rw [recordPop]
  split <;> exact ⟨_, rfl⟩

theorem recordMove_eq (r : Routine) (line : Line) (target source : Text) :
    ∃ move, r.recordMove line target source =
      { r with prologueMove := move, modified := note ["EBX", "ESI", "EDI"] target r.modified } := by
  rw [recordMove, modify_eq]
  split <;> exact ⟨_, rfl⟩

/-- A move with one operand writes to it as any other instruction does. -/
theorem recordInstruction_of_other (r : Routine) (line : Line) {mnemonic : Text} (operands : List Text)
    (push : mnemonic ≠ "PUSH") (pop : mnemonic ≠ "POP") (call : mnemonic ≠ "CALL") (ret : mnemonic ≠ "RET") :
    ∃ move, r.recordInstruction line mnemonic operands = { r with
      prologueMove := move
      modified := if mnemonic ∈ writers
        then note ["EBX", "ESI", "EDI"] (operands.head?.getD []) r.modified else r.modified } := by
  simp only [recordInstruction, if_neg push, if_neg pop, if_neg call, if_neg ret]
  split
  · next moves =>
    obtain rfl : mnemonic = "MOV" := by simpa using moves
    exact recordMove_eq r line _ _
  · rw [modify_eq]
    split <;> exact ⟨_, rfl⟩
  · refine ⟨r.prologueMove, ?_⟩
    have nothing : note ["EBX", "ESI", "EDI"] [] r.modified = r.modified := if_neg (by decide)
    simp [nothing]

/-- What a line adds to the counts and lists of a routine. -/
structure Adds (line : Line) (r next : Routine) : Prop where
  name : next.name = r.name
  pushes : next.pushes = r.pushes + if line.statement.isInstruction ["PUSH"] then 1 else 0
  pops : next.pops = r.pops + if line.statement.isInstruction ["POP"] then 1 else 0
  calls : next.calls = r.calls ++ if line.statement.isInstruction ["CALL"] then [line.index] else []
  returns : next.returns = r.returns ++ if line.statement.isInstruction ["RET"] then [line.index] else []
  modified : next.modified = if line.statement.isInstruction writers
    then note ["EBX", "ESI", "EDI"] (destination line) r.modified else r.modified
  saved : next.saved = if line.statement.isInstruction ["PUSH"]
    then note keptRegisters (destination line) r.saved else r.saved

theorem adds_recordInstruction {line : Line} {label : Option Text} {mnemonic rest : Text} (r : Routine)
    (here : line.statement = .instruction label mnemonic rest) :
    Adds line r (r.recordInstruction line mnemonic ((Source.operands rest).map Text.upper)) := by
  have named (names : List Text) : line.statement.isInstruction names = decide (mnemonic ∈ names) := by
    rw [here]
    rfl
  have first : ((Source.operands rest).map Text.upper).head?.getD [] = destination line := by
    rw [destination, here, List.head?_map]
    exact Option.getD_map Text.upper [] _
  -- The four mnemonics that are told apart first write to no register that is looked for.
  by_cases push : mnemonic = "PUSH"
  · subst push
    obtain ⟨frame, pushed⟩ := recordPush_eq r line (destination line)
    simp only [recordInstruction, ↓reduceIte, first, pushed]
    constructor <;> simp +decide [named]
  by_cases pop : mnemonic = "POP"
  · subst pop
    obtain ⟨frame, popped⟩ := recordPop_eq r line (destination line)
    simp only [recordInstruction, if_neg push, ↓reduceIte, first, popped]
    constructor <;> simp +decide [named]
  by_cases call : mnemonic = "CALL"
  · subst call
    simp only [recordInstruction, if_neg push, if_neg pop, ↓reduceIte]
    constructor <;> simp +decide [named]
  by_cases ret : mnemonic = "RET"
  · subst ret
    simp only [recordInstruction, if_neg push, if_neg pop, if_neg call, ↓reduceIte]
    constructor <;> simp +decide [named]
  obtain ⟨frame, written⟩ := recordInstruction_of_other r line ((Source.operands rest).map Text.upper) push pop call ret
  rw [written, first]
  constructor <;> simp [named, push, pop, call, ret]

theorem adds_record (r : Routine) (line : Line) : Adds line r (r.record line) := by
  unfold record
  split
  · next here =>
    have adds := adds_recordInstruction r here
    exact ⟨adds.name, adds.pushes, adds.pops, adds.calls, adds.returns, adds.modified, adds.saved⟩
  · next other =>
    -- What is no instruction moves the last line on and does nothing else.
    have none (names : List Text) : line.statement.isInstruction names = false := by
      unfold Source.Statement.isInstruction
      split
      · next here => exact absurd here (other _ _ _)
      · rfl
    constructor <;> simp [none]

end Routine

/-! ## What a routine counts and lists -/

/-- The numbers of the lines with an instruction. -/
def placesOf (mnemonic : Text) (part : List Line) : List Nat :=
  (part.filter (·.statement.isInstruction [mnemonic])).map Line.index

/-- The registers of a list that the instructions of some lines have as their first operand. -/
def registersIn (registers mnemonics : List Text) (part : List Line) : List Text :=
  ((part.filter (·.statement.isInstruction mnemonics)).map destination).filter (· ∈ registers)

theorem placesOf_concat (mnemonic : Text) (part : List Line) (line : Line) :
    placesOf mnemonic (part ++ [line]) =
      placesOf mnemonic part ++ if line.statement.isInstruction [mnemonic] then [line.index] else [] := by
  unfold placesOf
  split
  · next names => simp [names]
  · next other => simp [other]

theorem registersIn_concat (registers mnemonics : List Text) (part : List Line) (line : Line) :
    registersIn registers mnemonics (part ++ [line]) = if line.statement.isInstruction mnemonics
      then ((part.filter (·.statement.isInstruction mnemonics)).map destination ++ [destination line]).filter
        (· ∈ registers)
      else registersIn registers mnemonics part := by
  unfold registersIn
  split
  · next names => simp [names]
  · next other => simp [other]

namespace Routine

/-- The routine has counted and listed just what the lines of the part hold. -/
structure Tallies (part : List Line) (r : Routine) : Prop where
  pushes : r.pushes = part.countP (·.statement.isInstruction ["PUSH"])
  pops : r.pops = part.countP (·.statement.isInstruction ["POP"])
  calls : r.calls = placesOf "CALL" part
  returns : r.returns = placesOf "RET" part
  modified : FirstOccurrences (registersIn ["EBX", "ESI", "EDI"] writers part) r.modified
  saved : FirstOccurrences (registersIn ["EBX", "ESI", "EDI", "EBP"] ["PUSH"] part) r.saved

variable {part more : List Line} {head : Line} {r : Routine}

theorem Tallies.nil (name : Text) (first : Line) : Tallies [] { name, first, last := first } :=
  ⟨rfl, rfl, rfl, rfl, .nil, .nil⟩

theorem Tallies.record (tallies : r.Tallies part) (line : Line) : (r.record line).Tallies (part ++ [line]) := by
  have adds := adds_record r line
  constructor
  · rw [adds.pushes, tallies.pushes, List.countP_append, List.countP_singleton]
  · rw [adds.pops, tallies.pops, List.countP_append, List.countP_singleton]
  · rw [adds.calls, tallies.calls, placesOf_concat]
  · rw [adds.returns, tallies.returns, placesOf_concat]
  · rw [adds.modified, registersIn_concat]
    split
    · exact tallies.modified.note (destination line)
    · exact tallies.modified
  · rw [adds.saved, registersIn_concat]
    split
    · exact tallies.saved.note (destination line)
    · exact tallies.saved

/-- The routine is named for the line that it starts with and has gone on over the lines of the part. -/
structure Ran (head : Line) (part : List Line) (r : Routine) : Prop where
  name : r.name = head.label?.getD []
  first : r.first = head
  last : (head :: part).getLast? = some r.last
  tallies : r.Tallies part

theorem Ran.record (ran : r.Ran head part) (line : Line) : (r.record line).Ran head (part ++ [line]) where
  name := (adds_record r line).name.trans ran.name
  first := (first_record r line).trans ran.first
  last := by rw [← List.cons_append, List.getLast?_concat, last_record]
  tallies := ran.tallies.record line

theorem Ran.foldl_record (ran : r.Ran head part) : (more.foldl Routine.record r).Ran head (part ++ more) := by
  induction more generalizing r part with
  | nil =>
    rw [List.append_nil]
    exact ran
  | cons line rest ih =>
    rw [List.append_cons]
    exact ih (ran.record line)

theorem ran_ofStretch (s : Stretch) : (ofStretch s).Ran s.head s.lines := by
  have opened : Ran s.head [] { name := s.head.label?.getD [], first := s.head, last := s.head } :=
    ⟨rfl, rfl, rfl, .nil _ _⟩
  exact (opened.record s.head).foldl_record

end Routine

/-! ## Tiling -/

/-- The routine goes from one line to another, in front of the next one or at the end of the text, and it has counted
and listed what these lines hold. -/
structure Routine.Tile (lines : List Line) (next : Option Routine) (r : Routine) : Prop where
  first : lines[r.first.index]? = some r.first
  last : lines[r.last.index]? = some r.last
  name : r.first.label? = some r.name
  ordered : r.first.index ≤ r.last.index
  stop : r.last.index + 1 = (next.map (·.first.index)).getD lines.length
  tallies : r.Tallies (between lines r.first.index r.last.index)

/-- Routines start where a label says so, in this order. -/
theorem map_first_routines (labels : List Text) (lines : List Line) :
    (routines labels lines).map Routine.first = lines.filter (startsAt labels) := by
  rw [← map_head_stretches, routines, List.map_map]
  refine List.map_congr_left ?_
  intro s _
  exact (Routine.ran_ofStretch s).first

theorem label_of_mem_stretches {s : Stretch} (member : s ∈ stretches labels lines) :
    s.head.label? = some (Routine.ofStretch s).name := by
  have starts : s.head ∈ lines.filter (startsAt labels) := by
    rw [← map_head_stretches]
    exact List.mem_map_of_mem member
  obtain ⟨name, labelled, -⟩ := (Option.any_eq_true _ _).1 (List.mem_filter.1 starts).2
  rw [(Routine.ran_ofStretch s).name, labelled, Option.getD_some]

section

variable {before after : List Line} {s : Stretch}

theorem getElem?_first_ofStretch :
    (before ++ s.lines ++ after)[before.length]? = some (Routine.ofStretch s).first := by
  rw [(Routine.ran_ofStretch s).first]
  exact Source.getElem?_append_within (j := 0) rfl

theorem getElem?_last_ofStretch :
    (before ++ s.lines ++ after)[before.length + s.body.length]? = some (Routine.ofStretch s).last := by
  apply Source.getElem?_append_within
  rw [← (Routine.ran_ofStretch s).last, Stretch.lines, List.getLast?_cons_cons, List.getLast?_eq_getElem?,
    List.length_cons, Nat.add_sub_cancel]

theorem between_ofStretch (numbered : Numbered (before ++ s.lines ++ after)) :
    between (before ++ s.lines ++ after) (Routine.ofStretch s).first.index (Routine.ofStretch s).last.index =
      s.lines := by
  apply between_append before s.lines after (numbered _ _ getElem?_first_ofStretch)
  rw [numbered _ _ getElem?_last_ofStretch, Stretch.lines, List.length_cons]
  rfl

end

theorem tile_ofStretch (numbered : Numbered lines) {k : Nat} {s : Stretch}
    (here : (stretches labels lines)[k]? = some s) :
    (Routine.ofStretch s).Tile lines ((stretches labels lines)[k + 1]?.map Routine.ofStretch) := by
  obtain ⟨before, after, rfl, next⟩ := split_of_getElem?_stretches here
  have start := numbered _ _ getElem?_first_ofStretch
  have stop := numbered _ _ getElem?_last_ofStretch
  -- The first line of the next stretch stands where this one's lines end, and so does the end of the text if there is
  -- no next one.
  have behind := numbered.index_head?
  constructor
  · rw [start]
    exact getElem?_first_ofStretch
  · rw [stop]
    exact getElem?_last_ofStretch
  · rw [(Routine.ran_ofStretch s).first]
    exact label_of_mem_stretches (List.mem_of_getElem? here)
  · omega
  · have following (t : Stretch) : (Routine.ofStretch t).first.index = t.head.index := by
      rw [(Routine.ran_ofStretch t).first]
    rw [next, Option.map_map] at behind
    simp only [Option.map_map, Function.comp_def, following] at behind ⊢
    rw [behind, stop, List.length_append, Stretch.lines, List.length_cons, Nat.add_assoc]
  · rw [between_ofStretch numbered]
    exact (Routine.ran_ofStretch s).tallies

theorem mem_starts_iff (numbered : Numbered lines) {i : Nat} :
    i ∈ (lines.filter (startsAt labels)).map Line.index ↔
      ∃ (line : Line) (name : Text), lines[i]? = some line ∧ line.label? = some name ∧ name ∈ labels := by
  have starts (line : Line) : startsAt labels line = true ↔ ∃ name, line.label? = some name ∧ name ∈ labels := by
    simp [startsAt, Option.any_eq_true]
  simp only [List.mem_map, List.mem_filter, starts]
  constructor
  · rintro ⟨line, ⟨member, name, labelled, listed⟩, rfl⟩
    obtain ⟨j, here⟩ := List.mem_iff_getElem?.1 member
    exact ⟨line, name, by rwa [numbered j line here], labelled, listed⟩
  · rintro ⟨line, name, here, labelled, listed⟩
    exact ⟨line, ⟨List.mem_of_getElem? here, name, labelled, listed⟩, numbered i line here⟩

/-- Routines start at just the lines with one of the labels and follow one another without a gap. None of them counts
or lists anything of another one. -/
theorem routines_tile_lines (labels : List Text) {lines : List Line} (numbered : Numbered lines) :
    (routines labels lines).Pairwise (·.first.index < ·.first.index) ∧
      (∀ i, (∃ r ∈ routines labels lines, r.first.index = i) ↔
        ∃ (line : Line) (name : Text), lines[i]? = some line ∧ line.label? = some name ∧ name ∈ labels) ∧
      (routines labels lines).flatMap (fun r => between lines r.first.index r.last.index) =
        lines.dropWhile (!startsAt labels ·) ∧
      ∀ (k : Nat) (r : Routine), (routines labels lines)[k]? = some r →
        r.Tile lines (routines labels lines)[k + 1]? := by
  refine ⟨?_, ?_, ?_, ?_⟩
  · have sorted : ((routines labels lines).map Routine.first).Pairwise (·.index < ·.index) := by
      rw [map_first_routines]
      exact numbered.sorted.sublist List.filter_sublist
    rwa [List.pairwise_map] at sorted
  · intro i
    -- The first lines of the routines are just the lines that start one.
    rw [← mem_starts_iff numbered, ← map_first_routines]
    simp
  · have parts : ∀ s ∈ stretches labels lines,
        between lines (Routine.ofStretch s).first.index (Routine.ofStretch s).last.index = s.lines := by
      intro s member
      obtain ⟨k, here⟩ := List.mem_iff_getElem?.1 member
      obtain ⟨before, after, rfl, -⟩ := split_of_getElem?_stretches here
      exact between_ofStretch numbered
    rw [← flatMap_lines_stretches, routines, List.flatMap_map]
    exact List.flatMap_congr parts
  · intro k r here
    rw [routines, List.getElem?_map] at here ⊢
    obtain ⟨s, found, rfl⟩ := Option.map_eq_some_iff.1 here
    exact tile_ofStretch numbered found

/-- A label that stands twice starts a routine each time, and the instruction on its own line counts. -/
theorem routines_tile_repeated_label :
    ∃ r, (routines ["f"] (Source.number ["NOP", "f: push ebx", "mov EBX, 1", "g: POP EBX", "", "f: RET"]))[0]? =
        some r ∧ r.first.index = 1 ∧ r.last.index = 4 ∧ r.pushes = 1 ∧ r.modified = (["EBX"] : List Text) ∧
      r.Tallies (between (Source.number ["NOP", "f: push ebx", "mov EBX, 1", "g: POP EBX", "", "f: RET"]) 1 4) := by
  have computed : ((routines ["f"]
      (Source.number ["NOP", "f: push ebx", "mov EBX, 1", "g: POP EBX", "", "f: RET"]))[0]?.any fun r =>
        r.first.index = 1 ∧ r.last.index = 4 ∧ r.pushes = 1 ∧ r.modified = (["EBX"] : List Text)) = true := by
    decide +kernel
  obtain ⟨r, here, values⟩ := (Option.any_eq_true _ _).1 computed
  obtain ⟨start, stop, pushes, written⟩ := of_decide_eq_true values
  have tile := (routines_tile_lines ["f"] (Source.numbered_number _)).2.2.2 0 r here
  refine ⟨r, here, start, stop, pushes, written, ?_⟩
  rw [← start, ← stop]
  exact tile.tallies

end AsmCheck.Analysis
