import AsmCheck.Proofs.Assembly.Labels

/-! Labels of the data section. The item of a directive takes the label that was defined last since the item before,
and this label stands for the item. A label that another one has overtaken stands for the cursor that it found. -/

set_option autoImplicit false

namespace AsmCheck.Assembly

open Analysis (sectionAt)
open Source (Line Section)

/-! ## The label that waits -/

/-- The label is defined in the data section, and behind the item if there is one. -/
def Definition.Behind (previous : Option Placement) (d : Definition) : Prop :=
  d.sec = .data ∧ ∀ x ∈ previous, x.index < d.index

instance (previous : Option Placement) : DecidablePred (Definition.Behind previous) := fun d =>
  inferInstanceAs (Decidable (d.sec = .data ∧ ∀ x ∈ previous, x.index < d.index))

/-- The label that is defined last in the data section behind an item, or at all if there is no item. -/
def lastLabel (previous : Option Placement) (defined : List Definition) : Option Text :=
  (defined.filter (Definition.Behind previous ·)).getLast?.map Definition.name

variable {lines before after : List Line} {line : Line} {previous : Option Placement}

theorem lastLabel_eq_none {defined : List Definition} (early : ∀ d ∈ defined, ¬d.Behind previous) :
    lastLabel previous defined = none := by
  have nothing : defined.filter (Definition.Behind previous ·) = [] := by simpa using early
  rw [lastLabel, nothing]
  rfl

theorem lastLabel_concat (later : ∀ x ∈ previous, x.index < line.index) :
    lastLabel previous (definitions (lines ++ [line])) =
      if sectionAt .code lines = .data then line.label?.or (lastLabel previous (definitions lines))
      else lastLabel previous (definitions lines) := by
  rw [definitions_concat]
  cases labelled : line.label? with
  | none => simp
  | some name =>
    split
    · next data =>
      have behind : Definition.Behind previous ⟨name, line.index, sectionAt .code lines⟩ := ⟨data, later⟩
      simp [lastLabel, List.filter_append, behind]
    · next code =>
      have early : ¬Definition.Behind previous ⟨name, line.index, sectionAt .code lines⟩ := fun behind => code behind.1
      simp [lastLabel, List.filter_append, early]

/-- Marking a line makes its label wait in the data section and nowhere else. -/
theorem mark_pending_eq {s : State} (done : (run {} before).outcome = .ok s)
    (waiting : s.pending = lastLabel previous (definitions before)) (later : ∀ x ∈ previous, x.index < line.index) :
    (s.mark line.label?).pending = lastLabel previous (definitions (before ++ [line])) := by
  have active : s.active = sectionAt .code before := run_active done
  rw [lastLabel_concat later, State.mark_pending, active, waiting]

theorem index_lt_of_mem_placements (sorted : (before ++ line :: after).Pairwise (·.index < ·.index)) {s : State}
    {x : Placement} (member : x ∈ placements s before) : x.index < line.index := by
  obtain ⟨other, listed, same⟩ := exists_line_of_mem_placements member
  rw [← same]
  exact index_lt_of_mem_before sorted listed

theorem index_le_of_mem_definitions (sorted : (before ++ line :: after).Pairwise (·.index < ·.index)) {d : Definition}
    (member : d ∈ definitions (before ++ [line])) : d.index ≤ line.index := by
  obtain ⟨front, other, back, split, -, index, -⟩ := mem_definitions.1 member
  have listed : other ∈ before ++ [line] := by simp [split]
  rw [← index]
  rcases List.mem_append.1 listed with earlier | own
  · exact Nat.le_of_lt (index_lt_of_mem_before sorted earlier)
  · rw [List.mem_singleton.1 own]

/-- The label that waits is the one that was defined last since the last item. -/
theorem run_pending {reached : State} (sorted : lines.Pairwise (·.index < ·.index))
    (done : (run {} lines).outcome = .ok reached) :
    reached.pending = lastLabel (placements {} lines).getLast? (definitions lines) := by
  -- From line to line: an item empties the slot, and any other line can only fill it anew.
  refine run_induction (motive := fun lines s => lines.Pairwise (·.index < ·.index) →
    s.pending = lastLabel (placements {} lines).getLast? (definitions lines)) (fun _ => rfl) ?_ done sorted
  intro before line s next earlier last ih sorted
  rw [placements_append_of_ok earlier]
  rcases (run_line last).2 with ⟨none, passes⟩ | ⟨item, one, places⟩
  · rw [none, List.append_nil, passes.pending]
    apply mark_pending_eq earlier (ih (List.pairwise_append.1 sorted).1)
    intro x found
    exact index_lt_of_mem_placements sorted (List.mem_of_getLast? found)
  · -- Nothing is defined behind the item that was just placed.
    rw [one, List.getLast?_concat, places.pending, lastLabel_eq_none]
    rintro d member ⟨-, behind⟩
    have upTo := index_le_of_mem_definitions sorted member
    have beyond := behind _ rfl
    change line.index < d.index at beyond
    omega

/-! ## The items of a program -/

/-- What is defined up to a line are the definitions with no greater number. -/
theorem definitions_upTo (sorted : (before ++ line :: after).Pairwise (·.index < ·.index)) :
    (definitions (before ++ line :: after)).filter (·.index ≤ line.index) = definitions (before ++ [line]) := by
  have whole : before ++ line :: after = (before ++ [line]) ++ after := by simp
  have upTo : ∀ d ∈ definitions (before ++ [line]), d.index ≤ line.index :=
    fun d member => index_le_of_mem_definitions sorted member
  have beyond : ∀ d ∈ (standing (sectionAt .code (before ++ [line])) after).filterMap Standing.definition?,
      ¬d.index ≤ line.index := by
    intro d member
    obtain ⟨e, there, defined⟩ := List.mem_filterMap.1 member
    obtain ⟨name, -, rfl⟩ := Option.map_eq_some_iff.1 defined
    obtain ⟨front, back, split, -⟩ := mem_standing.1 there
    have greater : line.index < e.line.index := index_lt_of_mem_after sorted (by simp [split])
    exact Nat.not_le.2 greater
  rw [whole, definitions, standing_append, List.filterMap_append, List.filter_append, ← definitions,
    List.filter_eq_self.2 (by simpa using upTo), List.filter_eq_nil_iff.2 (by simpa using beyond), List.append_nil]

theorem undefined_after (sorted : (before ++ line :: after).Pairwise (·.index < ·.index)) {name : Text}
    (latest : ∀ d ∈ definitions (before ++ line :: after), d.name = name → d.index ≤ line.index) :
    ∀ other ∈ after, other.label? ≠ some name := by
  intro other member labelled
  obtain ⟨front, back, rfl⟩ := List.append_of_mem member
  have defined : ⟨name, other.index, sectionAt .code (before ++ line :: front)⟩ ∈
      definitions (before ++ line :: (front ++ other :: back)) :=
    mem_definitions.2 ⟨before ++ line :: front, other, back, by simp, rfl, rfl, labelled⟩
  have upTo : other.index ≤ line.index := latest _ defined rfl
  have greater : line.index < other.index := index_lt_of_mem_after sorted member
  omega

theorem label_of_placement {s : State} {front back : List Placement} {x : Placement}
    (sorted : lines.Pairwise (·.index < ·.index)) (done : (run {} lines).outcome = .ok s)
    (placed : placements {} lines = front ++ x :: back) :
    x.item.label = lastLabel front.getLast? ((definitions lines).filter (·.index ≤ x.index)) := by
  obtain ⟨before, line, after, reached, next, rfl, earlier, rfl, index, places, -⟩ := exists_of_placements_eq done placed
  rw [← index, places.label, definitions_upTo sorted]
  apply mark_pending_eq earlier (run_pending (List.pairwise_append.1 sorted).1 earlier)
  intro y found
  exact index_lt_of_mem_placements sorted (List.mem_of_getLast? found)

/-- The items of a program with the lines that place them: each has the label that was defined last in the data section
since the item before, and a label that is not defined again stands for its item. -/
theorem item_label_defined_last {t : Text} {p : Program} (assembled : (assemble t).program = .ok p) :
    (placementsOf t).map Placement.item = p.items ∧
    ∀ front x back, placementsOf t = front ++ x :: back →
      x.item.label = lastLabel front.getLast? ((definitionsOf t).filter (·.index ≤ x.index)) ∧
      ∀ name, x.item.label = some name → (∀ d ∈ definitionsOf t, d.name = name → d.index ≤ x.index) →
        p.labels.get? name = some x.item.address := by
  obtain ⟨last, done, rfl⟩ := program_eq_ok.1 assembled
  have sorted : (Source.number (Text.lines t)).Pairwise (·.index < ·.index) := Source.numberFrom_sorted none 0 _
  refine ⟨map_item_placements {} _, ?_⟩
  intro front x back placed
  refine ⟨label_of_placement sorted done placed, ?_⟩
  intro name own latest
  unfold definitionsOf at latest
  obtain ⟨before, line, after, reached, next, split, -, -, index, places, later⟩ := exists_of_placements_eq done placed
  rw [split] at sorted latest
  rw [← index] at latest
  -- The item has emptied the slot, so nothing behind it writes the name.
  have idle : next.pending ≠ some name := by simp [places.pending]
  calc last.labels.get? name = next.labels.get? name := run_keeps_label (undefined_after sorted latest) idle later
    _ = some x.item.address := places.get?_own own

/-- A label waits in front of an instruction that is passed over, while the code section takes its name, and an origin
moves the item that it waits for; the next item has no label, and the one behind it takes the second of two. -/
theorem item_label_across_sections :
    placementsOf ".data\nx: MOV\n.text\nx: NOP\n.data\nORG 7\nDB 1\nDB 2\ny:\nz: DW 3" =
      [⟨6, ⟨7, .byte, [1], some "x"⟩⟩, ⟨7, ⟨8, .byte, [2], none⟩⟩, ⟨9, ⟨9, .word, [3], some "z"⟩⟩] ∧
    ∃ p, (assemble ".data\nx: MOV\n.text\nx: NOP\n.data\nORG 7\nDB 1\nDB 2\ny:\nz: DW 3").program = .ok p ∧
      p.labels.get? "x" = some 7 ∧ p.labels.get? "z" = some 9 := by
  have assembled : (assemble ".data\nx: MOV\n.text\nx: NOP\n.data\nORG 7\nDB 1\nDB 2\ny:\nz: DW 3").program =
      .ok ⟨[⟨4, "NOP", [], "x: NOP"⟩], [("x", 7), ("y", 9), ("z", 9)], [],
        [⟨7, .byte, [1], some "x"⟩, ⟨8, .byte, [2], none⟩, ⟨9, .word, [3], some "z"⟩], 0⟩ := by decide +kernel
  have placed : placementsOf ".data\nx: MOV\n.text\nx: NOP\n.data\nORG 7\nDB 1\nDB 2\ny:\nz: DW 3" =
      [⟨6, ⟨7, .byte, [1], some "x"⟩⟩, ⟨7, ⟨8, .byte, [2], none⟩⟩, ⟨9, ⟨9, .word, [3], some "z"⟩⟩] := by decide +kernel
  have defined : definitionsOf ".data\nx: MOV\n.text\nx: NOP\n.data\nORG 7\nDB 1\nDB 2\ny:\nz: DW 3" =
      [⟨"x", 1, .data⟩, ⟨"x", 3, .code⟩, ⟨"y", 8, .data⟩, ⟨"z", 9, .data⟩] := by decide +kernel
  have labels := (item_label_defined_last assembled).2
  rw [defined] at labels
  refine ⟨placed, _, assembled, ?_, ?_⟩
  · exact (labels [] _ _ placed).2 "x" rfl (by decide)
  · exact (labels [⟨6, ⟨7, .byte, [1], some "x"⟩⟩, ⟨7, ⟨8, .byte, [2], none⟩⟩] _ [] placed).2 "z" rfl (by decide)

/-! ## A label that is defined once -/

theorem definitions_sorted (sorted : lines.Pairwise (·.index < ·.index)) :
    (definitions lines).Pairwise (·.index < ·.index) := by
  rw [definitions, List.pairwise_filterMap]
  refine (standing_sorted sorted .code).imp ?_
  intro e other less d defined d' defined'
  obtain ⟨name, -, rfl⟩ := Option.map_eq_some_iff.1 defined
  obtain ⟨name', -, rfl⟩ := Option.map_eq_some_iff.1 defined'
  exact less

/-- A label that is defined once is the last behind an item unless another one follows. -/
theorem lastLabel_eq_name_iff {defined : List Definition} (sorted : defined.Pairwise (·.index < ·.index))
    {d : Definition} (member : d ∈ defined) (behind : d.Behind previous)
    (once : ∀ e ∈ defined, e.name = d.name → e = d) :
    lastLabel previous defined = some d.name ↔ ∀ e ∈ defined, e.Behind previous → e.index ≤ d.index := by
  have listed : d ∈ defined.filter (Definition.Behind previous ·) := by simp [member, behind]
  obtain ⟨init, last, split⟩ := (List.eq_nil_or_concat' _).resolve_left (List.ne_nil_of_mem listed)
  have ordered : (init ++ [last]).Pairwise (·.index < ·.index) := split ▸ sorted.filter _
  have greatest : ∀ e ∈ init, e.index < last.index := fun e earlier =>
    (List.pairwise_append.1 ordered).2.2 e earlier last (by simp)
  have inside : last ∈ defined ∧ last.Behind previous := by
    have found : last ∈ defined.filter (Definition.Behind previous ·) := by simp [split]
    simpa using found
  have label : lastLabel previous defined = some last.name := by simp [lastLabel, split]
  rw [label, Option.some.injEq]
  constructor
  · intro same e listed' behind'
    rw [← once last inside.1 same]
    have found : e ∈ init ++ [last] := by simp [← split, listed', behind']
    rcases List.mem_append.1 found with earlier | own
    · exact Nat.le_of_lt (greatest e earlier)
    · rw [List.mem_singleton.1 own]
  · intro latest
    rw [split] at listed
    rcases List.mem_append.1 listed with earlier | own
    · -- A definition that comes before the last one is not the latest.
      have less := greatest d earlier
      have upTo := latest last inside.1 inside.2
      omega
    · rw [List.mem_singleton.1 own]

/-- Another label of the data section is defined behind this one, up to the line. -/
def Definition.Overtaken (d : Definition) (index : Nat) (defined : List Definition) : Prop :=
  ∃ e ∈ defined, e.sec = .data ∧ d.index < e.index ∧ e.index ≤ index

theorem label_eq_name_iff {s : State} {front back : List Placement} {x : Placement} {d : Definition}
    (sorted : lines.Pairwise (·.index < ·.index)) (done : (run {} lines).outcome = .ok s)
    (placed : placements {} lines = front ++ x :: back) (member : d ∈ definitions lines) (data : d.sec = .data)
    (once : ∀ e ∈ definitions lines, e.name = d.name → e = d) (earlier : ∀ y ∈ front, y.index < d.index)
    (upTo : d.index ≤ x.index) : x.item.label = some d.name ↔ ¬d.Overtaken x.index (definitions lines) := by
  have behind : d.Behind front.getLast? := ⟨data, fun y found => earlier y (List.mem_of_getLast? found)⟩
  rw [label_of_placement sorted done placed, lastLabel_eq_name_iff ((definitions_sorted sorted).filter _)
    (by simp [member, upTo]) behind (fun e listed => once e (List.mem_of_mem_filter listed))]
  constructor
  · rintro latest ⟨e, listed, inData, after, until'⟩
    have before : e.index ≤ d.index := by
      apply latest e (by simp [listed, until'])
      refine ⟨inData, fun y found => ?_⟩
      exact Nat.lt_trans (behind.2 y found) after
    omega
  · intro unovertaken e listed behind'
    simp only [List.mem_filter, decide_eq_true_eq] at listed
    by_contra after
    exact unovertaken ⟨e, listed.1, behind'.1, by omega, listed.2⟩

/-- A label that is not defined again stands for the first item from its line on, if it still waits there, and
otherwise for the cursor that it found. -/
theorem label_value_of_first {s last : State} {name : Text} {x : Placement} {back : List Placement}
    (active : s.active = .data) (labelled : line.label? = some name) (undefined : ∀ other ∈ after, other.label? ≠ some name)
    (done : (run s (line :: after)).outcome = .ok last) (placed : placements s (line :: after) = x :: back) :
    last.labels.get? name = some (if x.item.label = some name then x.item.address else s.cursor) := by
  obtain ⟨between, own, rest, reached, next, split, there, unplaced, -, places, later⟩ :=
    exists_of_placements_eq done (show placements s (line :: after) = [] ++ x :: back from placed)
  have idle : next.pending ≠ some name := by simp [places.pending]
  cases between with
  | nil =>
    -- The line of the label places the item itself.
    obtain ⟨rfl, rfl⟩ := List.cons.inj split
    cases there
    have waiting : x.item.label = some name := by simp [places.label, labelled, State.mark_pending, active]
    rw [if_pos waiting, run_keeps_label undefined idle later]
    exact places.get?_own waiting
  | cons first between =>
    -- The label is marked, and on the way to the item nothing but the item can write it again.
    obtain ⟨rfl, rfl⟩ := List.cons.inj split
    obtain ⟨marked, -, passes, restUnplaced, on⟩ := run_cons_unplaced there unplaced
    have found : marked.labels.get? name = some s.cursor := by
      rw [passes.labels, labelled, State.get?_mark_self, active]
    have kept : reached.labels.get? name = marked.labels.get? name :=
      run_keeps_label_unplaced (fun other member => undefined other (by simp [member])) restUnplaced on
    rw [run_keeps_label (fun other member => undefined other (by simp [member])) idle later]
    split
    · next waiting => exact places.get?_own waiting
    · next overtaken => rw [places.get?_of_ne overtaken (undefined own (by simp)), kept, found]

/-- Without an origin of the data section in front of it the first item stands where the cursor is. -/
theorem address_of_first {s last : State} {x : Placement} {back : List Placement}
    (sorted : lines.Pairwise (·.index < ·.index))
    (still : ∀ e ∈ standing s.active lines, e.sec = .data → e.line.index < x.index → e.line.statement.isOrigin = false)
    (done : (run s lines).outcome = .ok last) (placed : placements s lines = x :: back) :
    x.item.address = s.cursor := by
  obtain ⟨before, line, after, reached, next, rfl, there, unplaced, index, places, -⟩ :=
    exists_of_placements_eq done (show placements s lines = [] ++ x :: back from placed)
  rw [places.address]
  refine run_keeps_cursor ?_ unplaced there
  intro e member data
  apply still e (by simp [standing_append, member]) data
  obtain ⟨front, behind, rfl, -⟩ := mem_standing.1 member
  rw [← index]
  exact index_lt_of_mem_before sorted (by simp)

theorem index_le_of_mem_placements (sorted : (before ++ line :: after).Pairwise (·.index < ·.index)) {s : State}
    {x : Placement} (member : x ∈ placements s (line :: after)) : line.index ≤ x.index := by
  obtain ⟨other, listed, same⟩ := exists_line_of_mem_placements member
  exact same ▸ index_le_of_mem_onward sorted listed

/-- The first item from a line on is the first that the rest of the run places. -/
theorem placements_of_find? {s : State} {x : Placement}
    (sorted : (before ++ line :: after).Pairwise (·.index < ·.index)) (done : (run {} before).outcome = .ok s)
    (found : (placements {} (before ++ line :: after)).find? (line.index ≤ ·.index) = some x) :
    ∃ back, placements s (line :: after) = x :: back := by
  have earlier : (placements {} before).find? (line.index ≤ ·.index) = none := by
    rw [List.find?_eq_none]
    intro y member
    simpa using index_lt_of_mem_placements sorted member
  rw [placements_append_of_ok done, List.find?_append, earlier, Option.none_or] at found
  cases placed : placements s (line :: after) with
  | nil => simp [placed] at found
  | cons y back =>
    have first : line.index ≤ y.index := index_le_of_mem_placements sorted (by rw [placed]; simp)
    rw [placed, List.find?_cons_of_pos (by simpa using first)] at found
    cases found
    exact ⟨back, rfl⟩

theorem label_value_iff {s last : State} {d : Definition} {x : Placement} {back : List Placement}
    (sorted : (before ++ line :: after).Pairwise (·.index < ·.index)) (earlier : (run {} before).outcome = .ok s)
    (done : (run {} (before ++ line :: after)).outcome = .ok last) (sec : sectionAt .code before = .data)
    (index : line.index = d.index) (labelled : line.label? = some d.name)
    (once : ∀ e ∈ definitions (before ++ line :: after), e.name = d.name → e = d)
    (placed : placements s (line :: after) = x :: back) :
    last.labels.get? d.name = some x.item.address ↔
      ¬(d.Overtaken x.index (definitions (before ++ line :: after)) ∧ s.cursor ≠ x.item.address) := by
  have active : s.active = .data := (run_active earlier).trans sec
  have later : (run s (line :: after)).outcome = .ok last := by
    rwa [run_append_of_ok earlier] at done
  have whole : placements {} (before ++ line :: after) = placements {} before ++ x :: back := by
    rw [placements_append_of_ok earlier, placed]
  have member : (⟨d.name, d.index, .data⟩ : Definition) ∈ definitions (before ++ line :: after) :=
    mem_definitions.2 ⟨before, line, after, rfl, sec, index, labelled⟩
  have here := once _ member rfl
  have latest : ∀ e ∈ definitions (before ++ line :: after), e.name = d.name → e.index ≤ line.index := by
    intro e listed same
    rw [once e listed same, index]
  -- No item comes between the label and this one, so the label waits here unless another has taken its slot.
  have own : x.item.label = some d.name ↔ ¬d.Overtaken x.index (definitions (before ++ line :: after)) := by
    refine label_eq_name_iff sorted done whole (here ▸ member) (by rw [← here]) once ?_ ?_
    · intro y listed
      exact index ▸ index_lt_of_mem_placements sorted listed
    · exact index ▸ index_le_of_mem_placements sorted (by rw [placed]; simp)
  rw [label_value_of_first active labelled (undefined_after sorted latest) later placed]
  by_cases overtaken : d.Overtaken x.index (definitions (before ++ line :: after))
  · have passed : x.item.label ≠ some d.name := fun waits => own.1 waits overtaken
    simp [passed, overtaken]
  · simp [own.2 overtaken, overtaken]

/-- No origin of the data section stands on the lines from the first number up to the second. -/
def OriginFree (t : Text) (first last : Nat) : Prop :=
  ∀ e ∈ standing .code (Source.number (Text.lines t)), e.sec = .data → first ≤ e.line.index → e.line.index < last →
    e.line.statement.isOrigin = false

/-- A label that is defined once, in the data section, stands for the first item from its line on exactly unless
another label of the section has overtaken it and the cursor that it found is not the address of the item. Without
an origin on the way the cursor is this address. -/
theorem data_label_address_iff {t : Text} {p : Program} {d : Definition} {x : Placement}
    (assembled : (assemble t).program = .ok p) (member : d ∈ definitionsOf t) (data : d.sec = .data)
    (once : ∀ e ∈ definitionsOf t, e.name = d.name → e = d)
    (found : (placementsOf t).find? (d.index ≤ ·.index) = some x) :
    ∃ s, (run {} ((Source.number (Text.lines t)).take d.index)).outcome = .ok s ∧
      (p.labels.get? d.name = some x.item.address ↔
        ¬(d.Overtaken x.index (definitionsOf t) ∧ s.cursor ≠ x.item.address)) ∧
      (OriginFree t d.index x.index → s.cursor = x.item.address) := by
  obtain ⟨last, done, rfl⟩ := program_eq_ok.1 assembled
  have sorted : (Source.number (Text.lines t)).Pairwise (·.index < ·.index) := Source.numberFrom_sorted none 0 _
  obtain ⟨before, line, after, split, sec, index, labelled⟩ := mem_definitions.1 member
  -- Lines are counted from zero, so there are as many before the definition as its number says.
  have length : before.length = d.index := by
    have place := Source.index_of_numberFrom split
    omega
  unfold definitionsOf at once ⊢
  unfold placementsOf at found
  unfold OriginFree
  rw [split] at done sorted found once ⊢
  rw [data] at sec
  obtain ⟨s, earlier, later⟩ := run_append_eq_ok.1 done
  obtain ⟨back, placed⟩ := placements_of_find? sorted earlier (index ▸ found)
  have front : (run {} ((before ++ line :: after).take d.index)).outcome = .ok s := by
    rw [← length, List.take_left]
    exact earlier
  refine ⟨s, front, label_value_iff sorted earlier done sec index labelled once placed, ?_⟩
  intro free
  refine (address_of_first (List.pairwise_append.1 sorted).2.1 ?_ later placed).symm
  intro e there inData sooner
  rw [run_active earlier] at there
  refine free e ?_ inData ?_ sooner
  · rw [standing_append]
    exact List.mem_append_right _ there
  · obtain ⟨before', after', same, -⟩ := mem_standing.1 there
    exact index ▸ index_le_of_mem_onward sorted (by simp [same])

/-- Another label overtakes the first in front of an instruction that is passed over; the origin stands before both. -/
theorem data_label_address_stacked :
    ∃ p, (assemble ".data\nORG 8\na:\nb: MOV\n.text\nNOP\n.data\nDB 1").program = .ok p ∧
      (placementsOf ".data\nORG 8\na:\nb: MOV\n.text\nNOP\n.data\nDB 1").find? (2 ≤ ·.index) =
        some ⟨7, ⟨8, .byte, [1], some "b"⟩⟩ ∧
      p.labels.get? "a" = some 8 := by
  have assembled : (assemble ".data\nORG 8\na:\nb: MOV\n.text\nNOP\n.data\nDB 1").program =
      .ok ⟨[⟨6, "NOP", [], "NOP"⟩], [("a", 8), ("b", 8)], [], [⟨8, .byte, [1], some "b"⟩], 0⟩ := by decide +kernel
  have defined : definitionsOf ".data\nORG 8\na:\nb: MOV\n.text\nNOP\n.data\nDB 1" =
      [⟨"a", 2, .data⟩, ⟨"b", 3, .data⟩] := by decide +kernel
  have found : (placementsOf ".data\nORG 8\na:\nb: MOV\n.text\nNOP\n.data\nDB 1").find? (2 ≤ ·.index) =
      some ⟨7, ⟨8, .byte, [1], some "b"⟩⟩ := by decide +kernel
  have free : OriginFree ".data\nORG 8\na:\nb: MOV\n.text\nNOP\n.data\nDB 1" 2 7 := by
    unfold OriginFree
    decide +kernel
  obtain ⟨s, -, stands, still⟩ := data_label_address_iff (d := ⟨"a", 2, .data⟩) assembled (by simp [defined]) rfl
    (by rw [defined]; decide) found
  exact ⟨_, assembled, found, stands.2 fun lost => lost.2 (still free)⟩

/-- The label that was overtaken is left behind where the cursor was before the origin. -/
theorem data_label_left_behind :
    definitionsOf ".data\na:\nORG 0x3000\nb: DB 1" = [⟨"a", 1, .data⟩, ⟨"b", 3, .data⟩] ∧
    (placementsOf ".data\na:\nORG 0x3000\nb: DB 1").find? (1 ≤ ·.index) =
      some ⟨3, ⟨0x3000, .byte, [1], some "b"⟩⟩ ∧
    ∃ p, (assemble ".data\na:\nORG 0x3000\nb: DB 1").program = .ok p ∧ p.labels.get? "a" = some 0x2000 := by
  have assembled : (assemble ".data\na:\nORG 0x3000\nb: DB 1").program =
      .ok ⟨[], [("a", 0x2000), ("b", 0x3000)], [], [⟨0x3000, .byte, [1], some "b"⟩], 0⟩ := by decide +kernel
  exact ⟨by decide +kernel, by decide +kernel, _, assembled, rfl⟩

end AsmCheck.Assembly
