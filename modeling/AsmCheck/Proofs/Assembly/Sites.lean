import AsmCheck.Proofs.Assembly.Placement
import AsmCheck.Proofs.Bindings
import Mathlib.Data.List.Induction

/-! Where labels are defined and where data items come from. A label is defined on a line that stands in a section,
and a data item comes from the line of its directive. Both are told in the order of the lines, which are counted
from zero. -/

set_option autoImplicit false

namespace AsmCheck

def Source.Statement.isOrigin : Statement → Bool
  | .origin _ _ => true
  | _ => false

namespace Assembly

open Analysis (sectionAfter sectionAt)
open Source (Line Section Width)

/-! ## Definitions -/

/-- A line and the section that it stands in. -/
structure Standing where
  line : Line
  sec : Section

def standing (active : Section) : List Line → List Standing
  | [] => []
  | line :: rest => ⟨line, active⟩ :: standing (sectionAfter active line.statement) rest

/-- A label, the number of the line that defines it, and the section of that line. -/
structure Definition where
  name : Text
  index : Nat
  sec : Section
  deriving DecidableEq

def Standing.definition? (e : Standing) : Option Definition := e.line.label?.map (⟨·, e.line.index, e.sec⟩)

/-- Every label as often as it is defined. -/
def definitions (lines : List Line) : List Definition := (standing .code lines).filterMap Standing.definition?

def definitionsOf (t : Text) : List Definition := definitions (Source.number (Text.lines t))

theorem standing_append (active : Section) (first second : List Line) :
    standing active (first ++ second) = standing active first ++ standing (sectionAt active first) second := by
  induction first generalizing active with
  | nil => rfl
  | cons line rest ih => simp [standing, sectionAt, ih]

theorem map_line_standing (active : Section) (lines : List Line) :
    (standing active lines).map Standing.line = lines := by
  induction lines generalizing active with
  | nil => rfl
  | cons line rest ih => simp [standing, ih]

/-- The order of the lines is that of where they stand. -/
theorem standing_sorted {lines : List Line} (sorted : lines.Pairwise (·.index < ·.index)) (active : Section) :
    (standing active lines).Pairwise (·.line.index < ·.line.index) := by
  rwa [← map_line_standing active lines, List.pairwise_map] at sorted

theorem mem_standing {active : Section} {lines : List Line} {e : Standing} :
    e ∈ standing active lines ↔ ∃ before after, lines = before ++ e.line :: after ∧ sectionAt active before = e.sec := by
  constructor
  · intro member
    induction lines generalizing active with
    | nil => simp [standing] at member
    | cons line rest ih =>
      rcases List.mem_cons.1 member with rfl | later
      · exact ⟨[], rest, rfl, rfl⟩
      · obtain ⟨before, after, rfl, sec⟩ := ih later
        exact ⟨line :: before, after, rfl, sec⟩
  · rintro ⟨before, after, rfl, sec⟩
    rw [standing_append, sec]
    simp [standing]

theorem mem_definitions {lines : List Line} {d : Definition} :
    d ∈ definitions lines ↔ ∃ before line after, lines = before ++ line :: after ∧
      sectionAt .code before = d.sec ∧ line.index = d.index ∧ line.label? = some d.name := by
  rw [definitions, List.mem_filterMap]
  constructor
  · rintro ⟨e, member, defined⟩
    obtain ⟨before, after, split, sec⟩ := mem_standing.1 member
    obtain ⟨name, labelled, rfl⟩ := Option.map_eq_some_iff.1 defined
    exact ⟨before, e.line, after, split, sec, rfl, labelled⟩
  · rintro ⟨before, line, after, split, sec, index, labelled⟩
    refine ⟨⟨line, d.sec⟩, mem_standing.2 ⟨before, after, split, sec⟩, ?_⟩
    simp [Standing.definition?, labelled, index]

theorem mem_definitions_append {first : List Line} {d : Definition} (member : d ∈ definitions first)
    (second : List Line) : d ∈ definitions (first ++ second) := by
  rw [definitions, standing_append, List.filterMap_append]
  exact List.mem_append_left _ member

theorem definitions_concat (lines : List Line) (line : Line) :
    definitions (lines ++ [line]) =
      definitions lines ++ (line.label?.map (⟨·, line.index, sectionAt .code lines⟩)).toList := by
  rw [definitions, standing_append, List.filterMap_append]
  cases labelled : line.label? <;> simp [definitions, standing, Standing.definition?, labelled]

/-! ## The order of the lines -/

section
variable {before after : List Line} {line other : Line}

theorem index_lt_of_mem_before (sorted : (before ++ line :: after).Pairwise (·.index < ·.index))
    (member : other ∈ before) : other.index < line.index :=
  (List.pairwise_append.1 sorted).2.2 other member line List.mem_cons_self

theorem index_lt_of_mem_after (sorted : (before ++ line :: after).Pairwise (·.index < ·.index))
    (member : other ∈ after) : line.index < other.index :=
  List.rel_of_pairwise_cons (List.pairwise_append.1 sorted).2.1 member

theorem index_le_of_mem_onward (sorted : (before ++ line :: after).Pairwise (·.index < ·.index))
    (member : other ∈ line :: after) : line.index ≤ other.index := by
  rcases List.mem_cons.1 member with rfl | later
  · exact Nat.le_refl _
  · exact Nat.le_of_lt (index_lt_of_mem_after sorted later)

end

/-! ## Placements -/

/-- A data item and the number of the line that it comes from. -/
structure Placement where
  index : Nat
  item : DataItem
  deriving DecidableEq

def placements (s : State) : List Line → List Placement
  | [] => []
  | line :: rest => match step s line with
    | .error _ => []
    | .ok (next, events) => (events.filterMap Event.item?).map (⟨line.index, ·⟩) ++ placements next rest

def placementsOf (t : Text) : List Placement := placements {} (Source.number (Text.lines t))

/-- The items of a run are those that its lines place. -/
theorem map_item_placements (s : State) (lines : List Line) :
    (placements s lines).map Placement.item = (run s lines).events.filterMap Event.item? := by
  induction lines generalizing s with
  | nil => rfl
  | cons line rest ih =>
    cases taken : step s line with
    | error failure => simp [placements, run, taken]
    | ok result =>
      obtain ⟨next, events⟩ := result
      simp [placements, run, taken, ih, List.map_map, Function.comp_def]

theorem placements_append_of_ok {s reached : State} {first : List Line} (done : (run s first).outcome = .ok reached)
    (second : List Line) : placements s (first ++ second) = placements s first ++ placements reached second := by
  induction first generalizing s with
  | nil =>
    simp only [run, Except.ok.injEq] at done
    subst done
    rfl
  | cons line rest ih =>
    cases taken : step s line with
    | error failure => simp [run, taken] at done
    | ok result =>
      obtain ⟨next, events⟩ := result
      simp only [run, taken] at done
      simp only [List.cons_append, placements, taken, ih done, List.append_assoc]

theorem exists_line_of_mem_placements {s : State} {lines : List Line} {x : Placement}
    (member : x ∈ placements s lines) : ∃ line ∈ lines, line.index = x.index := by
  induction lines generalizing s with
  | nil => simp [placements] at member
  | cons line rest ih =>
    cases taken : step s line with
    | error failure => simp [placements, taken] at member
    | ok result =>
      simp only [placements, taken] at member
      rcases List.mem_append.1 member with here | later
      · obtain ⟨item, -, rfl⟩ := List.mem_map.1 here
        exact ⟨line, by simp, rfl⟩
      · obtain ⟨other, listed, same⟩ := ih later
        exact ⟨other, by simp [listed], same⟩

/-! ## What a step does with labels and items -/

section
variable (s : State) (label : Option Text)

@[simp] theorem State.mark_cursor : (s.mark label).cursor = s.cursor := by
  unfold State.mark
  split
  · rfl
  · split <;> rfl

@[simp] theorem State.mark_count : (s.mark label).count = s.count := by
  unfold State.mark
  split
  · rfl
  · split <;> rfl

@[simp] theorem State.setOrigin_labels (address : Int) : (s.setOrigin address).labels = s.labels := by
  unfold State.setOrigin
  split <;> rfl

@[simp] theorem State.setOrigin_pending (address : Int) : (s.setOrigin address).pending = s.pending := by
  unfold State.setOrigin
  split <;> rfl

end

/-- All that the values of a directive emit are remarks. -/
theorem exists_remark_of_dataValues {s : State} {n : Nat} {width : Width} {rest : Text} {values : List Int}
    {events : List Event} (evaluated : dataValues s n width rest = .ok (values, events)) :
    ∀ event ∈ events, ∃ r, event = .remark r := by
  intro event member
  obtain ⟨substituted, -, -, origin⟩ := dataValues_eq_ok evaluated
  obtain ⟨operand, -, own, remarks, made, found⟩ := origin event member
  exact ⟨_, remark_of_mem_itemValues made found⟩

theorem items_eq_nil {events : List Event} (remarked : ∀ event ∈ events, ∃ r, event = .remark r) :
    events.filterMap Event.item? = [] := by
  rw [List.filterMap_eq_nil_iff]
  intro event member
  obtain ⟨r, rfl⟩ := remarked event member
  rfl

theorem instructions_eq_nil {events : List Event} (remarked : ∀ event ∈ events, ∃ r, event = .remark r) :
    events.filterMap Event.instruction? = [] := by
  rw [List.filterMap_eq_nil_iff]
  intro event member
  obtain ⟨r, rfl⟩ := remarked event member
  rfl

/-- A line that places no item marks its label, and moves the cursor only if it is an origin of the data section. -/
structure Passes (s : State) (line : Line) (next : State) : Prop where
  labels : next.labels = (s.mark line.label?).labels
  pending : next.pending = (s.mark line.label?).pending
  cursor : (s.active = .data → line.statement.isOrigin = false) → next.cursor = s.cursor

/-- A line of the data section that marks its label and places an item. -/
def Places (s : State) (line : Line) (next : State) (item : DataItem) : Prop :=
  s.active = .data ∧ ∃ width values, (s.mark line.label?).place width values = (next, item)

theorem Advances.passes_or_places {s next : State} {line : Line} {events : List Event}
    (advanced : Advances s line next events) :
    (events.filterMap Event.item? = [] ∧ Passes s line next) ∨
      ∃ item, events.filterMap Event.item? = [item] ∧ Places s line next item := by
  have own : ∀ {statement}, line.statement = statement → line.label? = statement.label? := by
    rintro statement rfl
    rfl
  -- A line without a label has nothing to mark.
  have unlabelled : line.label? = none → Passes s line s := by
    intro none
    exact ⟨by rw [none]; rfl, by rw [none]; rfl, fun _ => rfl⟩
  cases advanced with
  | skipped uncoded =>
    refine .inl ⟨rfl, unlabelled ?_⟩
    cases statement : line.statement <;> simp_all [Source.Statement.isCode, Source.Statement.label?]
  | malformed statement | undefined statement _ => exact .inl ⟨rfl, unlabelled (own statement)⟩
  | defined statement _ | entered statement =>
    have same := unlabelled (own statement)
    exact .inl ⟨rfl, same.labels, same.pending, fun _ => rfl⟩
  | labelled statement | unmoved statement _ | ignored statement _ | issued statement _ _ =>
    exact .inl ⟨rfl, by rw [own statement]; rfl, by rw [own statement]; rfl, fun _ => State.mark_cursor ..⟩
  | @moved label rest address statement _ =>
    refine .inl ⟨rfl, ?_, ?_, ?_⟩
    · rw [own statement, State.setOrigin_labels]
      rfl
    · rw [own statement, State.setOrigin_pending]
      rfl
    · intro still
      cases active : s.active with
      | code => simp [State.setOrigin, active]
      | data => simp [statement, Source.Statement.isOrigin, active] at still
  | @placed label width rest values remarks statement active evaluated =>
    refine .inr ⟨_, ?_, active, width, values, by rw [own statement]; rfl⟩
    rw [List.filterMap_append, items_eq_nil (exists_remark_of_dataValues evaluated)]
    rfl

/-! ## Runs that go through -/

theorem run_append_eq_ok {s last : State} {first second : List Line} :
    (run s (first ++ second)).outcome = .ok last ↔
      ∃ reached, (run s first).outcome = .ok reached ∧ (run reached second).outcome = .ok last := by
  cases outcome : (run s first).outcome with
  | error failure => simp [run_append_of_error outcome, outcome]
  | ok reached => simp [run_append_of_ok outcome]

theorem run_line {s next : State} {line : Line} (done : (run s [line]).outcome = .ok next) :
    next.active = sectionAfter s.active line.statement ∧
      ((placements s [line] = [] ∧ Passes s line next) ∨
        ∃ item, placements s [line] = [⟨line.index, item⟩] ∧ Places s line next item) := by
  cases taken : step s line with
  | error failure => simp [run, taken] at done
  | ok result =>
    obtain ⟨reached, events⟩ := result
    simp only [run, taken, Except.ok.injEq] at done
    subst done
    have advanced := step_advances taken
    refine ⟨advanced.active, ?_⟩
    rcases advanced.passes_or_places with ⟨none, passes⟩ | ⟨item, one, places⟩
    · exact .inl ⟨by simp [placements, taken, none], passes⟩
    · exact .inr ⟨item, by simp [placements, taken, one], places⟩

/-- Each item is placed by a line, in the state that the lines before it lead to. -/
theorem exists_of_placements_eq {s last : State} {lines : List Line} {front back : List Placement} {x : Placement}
    (done : (run s lines).outcome = .ok last) (placed : placements s lines = front ++ x :: back) :
    ∃ before line after reached next, lines = before ++ line :: after ∧ (run s before).outcome = .ok reached ∧
      placements s before = front ∧ line.index = x.index ∧ Places reached line next x.item ∧
      (run next after).outcome = .ok last := by
  induction lines generalizing s front with
  | nil => simp [placements] at placed
  | cons line rest ih =>
    obtain ⟨next, first, later⟩ := run_append_eq_ok.1 (show (run s ([line] ++ rest)).outcome = .ok last from done)
    have split : placements s (line :: rest) = placements s [line] ++ placements next rest :=
      placements_append_of_ok first rest
    -- An item of the later lines is one of the whole, behind what the first line places.
    have behind (more : List Placement) (whole : front = placements s [line] ++ more)
        (there : placements next rest = more ++ x :: back) :
        ∃ before other after reached final, line :: rest = before ++ other :: after ∧
          (run s before).outcome = .ok reached ∧ placements s before = front ∧ other.index = x.index ∧
          Places reached other final x.item ∧ (run final after).outcome = .ok last := by
      obtain ⟨before, other, after, reached, final, rfl, run, earlier, index, places, through⟩ := ih later there
      refine ⟨[line] ++ before, other, after, reached, final, rfl, run_append_eq_ok.2 ⟨next, first, run⟩, ?_, index,
        places, through⟩
      rw [placements_append_of_ok first before, earlier, whole]
    rw [placed] at split
    rcases (run_line first).2 with ⟨none, -⟩ | ⟨item, one, places⟩
    · exact behind front (by simp [none]) (by simpa [none] using split.symm)
    · rw [one] at split
      cases front with
      | nil =>
        obtain ⟨rfl, -⟩ := List.cons.inj split
        exact ⟨[], line, rest, s, next, rfl, rfl, rfl, rfl, places, later⟩
      | cons y more =>
        obtain ⟨rfl, there⟩ := List.cons.inj split
        exact behind more (by rw [one]; rfl) there.symm

/-- What holds before the first line and goes on from line to line holds after every run that goes through. -/
theorem run_induction {motive : List Line → State → Prop} (start : motive [] {})
    (concat : ∀ before line s next, (run {} before).outcome = .ok s → (run s [line]).outcome = .ok next →
      motive before s → motive (before ++ [line]) next)
    {lines : List Line} {reached : State} (done : (run {} lines).outcome = .ok reached) : motive lines reached := by
  -- On the lines from their end, since the state is known at the start of the run.
  induction lines using List.reverseRecOn generalizing reached with
  | nil =>
    simp only [run, Except.ok.injEq] at done
    exact done ▸ start
  | append_singleton before line ih =>
    obtain ⟨s, earlier, last⟩ := run_append_eq_ok.1 done
    exact concat before line s reached earlier last (ih earlier)

end Assembly

end AsmCheck
