import AsmCheck.Proofs.Assembly.DataLabels
import AsmCheck.Proofs.Program.Memory
import AsmCheck.Proofs.Source.Retexting

/-! Where data items stand. An item stands behind the items that were placed since the last origin of the data section,
and the first of these stands at the address of the origin. Without an origin the items fill memory without a gap. -/

set_option autoImplicit false

namespace AsmCheck

/-! ## Items one behind the other -/

/-- Each item starts where the one before it ends, and the first at the address. -/
def LaidOut (address : Int) : List DataItem → Prop
  | [] => True
  | item :: rest => item.address = address ∧ LaidOut item.endAddress rest

/-- Where the last item ends, or the address if there is none. -/
def endOf (address : Int) (items : List DataItem) : Int := items.getLast?.elim address DataItem.endAddress

theorem DataItem.address_le_endAddress (item : DataItem) : item.address ≤ item.endAddress := by
  rw [item.endAddress_eq]
  omega

theorem endOf_cons (address : Int) (item : DataItem) (rest : List DataItem) :
    endOf address (item :: rest) = endOf item.endAddress rest := by
  cases rest with
  | nil => rfl
  | cons next later => simp [endOf, List.getLast?_cons]

theorem laidOut_of_sums {address : Int} {items : List DataItem}
    (each : ∀ front item back, items = front ++ item :: back →
      item.address = address + ((front.map DataItem.byteCount).sum : Nat)) : LaidOut address items := by
  induction items generalizing address with
  | nil => trivial
  | cons item rest ih =>
    have first : item.address = address := by simpa using each [] item rest rfl
    refine ⟨first, ih ?_⟩
    rintro front other back rfl
    rw [each (item :: front) other back rfl, item.endAddress_eq, first, List.map_cons, List.sum_cons]
    omega

namespace LaidOut

variable {address : Int} {items : List DataItem}

theorem isChain (laid : LaidOut address items) : items.IsChain fun x y => y.address = x.endAddress := by
  induction items generalizing address with
  | nil => exact .nil
  | cons item rest ih =>
    cases rest with
    | nil => exact .singleton item
    | cons next later => exact .cons_cons laid.2.1 (ih laid.2)

theorem address_le (laid : LaidOut address items) {item : DataItem} (member : item ∈ items) :
    address ≤ item.address := by
  induction items generalizing address with
  | nil => simp at member
  | cons first rest ih =>
    rcases List.mem_cons.1 member with rfl | later
    · exact laid.1.ge
    · calc address = first.address := laid.1.symm
        _ ≤ first.endAddress := first.address_le_endAddress
        _ ≤ item.address := ih laid.2 later

theorem pairwise_disjoint (laid : LaidOut address items) :
    items.Pairwise fun x y => ∀ a, x.Covers a → ¬y.Covers a := by
  induction items generalizing address with
  | nil => exact .nil
  | cons item rest ih =>
    refine List.pairwise_cons.2 ⟨?_, ih laid.2⟩
    intro other later
    have behind : item.endAddress ≤ other.address := laid.2.address_le later
    rintro a ⟨-, before⟩ ⟨after, -⟩
    omega

theorem le_endOf (laid : LaidOut address items) : address ≤ endOf address items := by
  induction items generalizing address with
  | nil => exact Int.le_refl address
  | cons item rest ih =>
    rw [endOf_cons]
    calc address = item.address := laid.1.symm
      _ ≤ item.endAddress := item.address_le_endAddress
      _ ≤ endOf item.endAddress rest := ih laid.2

theorem covers_iff (laid : LaidOut address items) (a : Int) :
    (∃ item ∈ items, item.Covers a) ↔ address ≤ a ∧ a < endOf address items := by
  induction items generalizing address with
  | nil =>
    have nothing : ¬(address ≤ a ∧ a < address) := by omega
    simp [endOf, nothing]
  | cons item rest ih =>
    have first := item.address_le_endAddress
    have last := laid.2.le_endOf
    have here := laid.1
    rw [List.exists_mem_cons_iff, ih laid.2, endOf_cons, DataItem.Covers]
    omega

end LaidOut

namespace Assembly

open Source (Line Statement)

/-! ## Origins -/

/-- An origin of the data section that has an address, and the number of its line. -/
structure Origin where
  index : Nat
  address : Int
  deriving DecidableEq

/-- The address that a line gives to the data behind it, if it is an origin and the constants so far give it a value. -/
def State.origin? (s : State) (line : Line) : Option Int :=
  match s.active, line.statement with
  | .data, .origin _ rest => (s.constantValue rest).toOption.join
  | _, _ => none

def origins (s : State) : List Line → List Origin
  | [] => []
  | line :: rest => match step s line with
    | .error _ => []
    | .ok (next, _) => ((s.origin? line).map (⟨line.index, ·⟩)).toList ++ origins next rest

def originsOf (t : Text) : List Origin := origins {} (Source.number (Text.lines t))

variable {s last : State} {lines before after : List Line} {line : Line}

theorem origins_append_of_ok {reached : State} {first : List Line} (done : (run s first).outcome = .ok reached)
    (second : List Line) : origins s (first ++ second) = origins s first ++ origins reached second := by
  induction first generalizing s with
  | nil =>
    simp only [run, Except.ok.injEq] at done
    subst done
    rfl
  | cons line rest ih =>
    cases taken : step s line with
    | error failure => simp [run, taken] at done
    | ok result =>
      simp only [run, taken] at done
      simp only [List.cons_append, origins, taken, ih done, List.append_assoc]

/-- A line that goes through gives the address that it has at its place. -/
theorem origins_line {next : State} (done : (run s [line]).outcome = .ok next) :
    origins s [line] = ((s.origin? line).map (⟨line.index, ·⟩)).toList := by
  cases taken : step s line with
  | error failure => simp [run, taken] at done
  | ok result => simp [origins, taken]

theorem exists_line_of_mem_origins {o : Origin} (member : o ∈ origins s lines) :
    ∃ line ∈ lines, line.index = o.index := by
  induction lines generalizing s with
  | nil => simp [origins] at member
  | cons line rest ih =>
    cases taken : step s line with
    | error failure => simp [origins, taken] at member
    | ok result =>
      simp only [origins, taken] at member
      rcases List.mem_append.1 member with here | later
      · obtain ⟨address, -, rfl⟩ : ∃ address, s.origin? line = some address ∧ ⟨line.index, address⟩ = o := by
          simpa using here
        exact ⟨line, by simp, rfl⟩
      · obtain ⟨other, listed, same⟩ := ih later
        exact ⟨other, by simp [listed], same⟩

/-- The origins of the lines before one are those with a smaller number. -/
theorem origins_before (sorted : (before ++ line :: after).Pairwise (·.index < ·.index))
    (done : (run s before).outcome = .ok last) :
    (origins s (before ++ line :: after)).filter (·.index < line.index) = origins s before := by
  have earlier : ∀ o ∈ origins s before, o.index < line.index := by
    intro o member
    obtain ⟨other, listed, same⟩ := exists_line_of_mem_origins member
    exact same ▸ index_lt_of_mem_before sorted listed
  have later : ∀ o ∈ origins last (line :: after), ¬o.index < line.index := by
    intro o member
    obtain ⟨other, listed, same⟩ := exists_line_of_mem_origins member
    exact Nat.not_lt.2 (same ▸ index_le_of_mem_onward sorted listed)
  rw [origins_append_of_ok done, List.filter_append, List.filter_eq_self.2 (by simpa using earlier),
    List.filter_eq_nil_iff.2 (by simpa using later), List.append_nil]

/-! ## The cursor -/

/-- The address behind the items that were placed since an origin, or since the start if there is none. -/
def addressBehind (base : Option Origin) (placed : List Placement) : Int :=
  base.elim dataOrigin Origin.address +
    (((placed.filter fun x => base.all (·.index < x.index)).map (·.item.byteCount)).sum : Nat)

theorem State.origin?_of_not_isOrigin (plain : line.statement.isOrigin = false) : s.origin? line = none := by
  unfold State.origin?
  split
  · next statement => simp [statement, Statement.isOrigin] at plain
  · rfl

theorem State.constantValue_mark (s : State) (label : Option Text) (t : Text) :
    (s.mark label).constantValue t = s.constantValue t := by
  simp [State.constantValue]

/-- An origin moves the cursor to its address, and any other line moves it past the items that it places. -/
theorem Advances.cursor {next : State} {events : List Event} (advanced : Advances s line next events) :
    (∃ address, s.origin? line = some address ∧ events.filterMap Event.item? = [] ∧ next.cursor = address) ∨
      s.origin? line = none ∧
        next.cursor = s.cursor + (((events.filterMap Event.item?).map DataItem.byteCount).sum : Nat) := by
  have plain {statement : Statement} (same : line.statement = statement) (other : statement.isOrigin = false) :
      s.origin? line = none :=
    State.origin?_of_not_isOrigin (same ▸ other)
  cases advanced with
  | skipped uncoded =>
    refine .inr ⟨State.origin?_of_not_isOrigin ?_, by simp⟩
    rcases Statement.eq_of_isCode uncoded with statement | statement <;> rw [statement] <;> rfl
  | malformed statement | defined statement _ | undefined statement _ | entered statement | labelled statement
  | ignored statement _ | issued statement _ _ => exact .inr ⟨plain statement rfl, by simp [List.filterMap_cons, Event.item?]⟩
  | @moved label rest address statement evaluated =>
    rw [State.constantValue_mark] at evaluated
    cases active : s.active with
    | code => exact .inr ⟨by simp [State.origin?, active], by simp [State.setOrigin, active]⟩
    | data =>
      refine .inl ⟨address, ?_, rfl, by simp [State.setOrigin, active]⟩
      simp [State.origin?, active, statement, evaluated, Except.toOption]
  | @unmoved label rest statement evaluated =>
    rw [State.constantValue_mark] at evaluated
    refine .inr ⟨?_, by simp [List.filterMap_cons, Event.item?]⟩
    cases active : s.active with
    | code => simp [State.origin?, active]
    | data => simp [State.origin?, active, statement, evaluated, Except.toOption]
  | @placed label width rest values remarks statement _ evaluated =>
    refine .inr ⟨plain statement rfl, ?_⟩
    have cursor : ((s.mark label).place width values).1.cursor = ((s.mark label).place width values).2.endAddress := rfl
    have address : ((s.mark label).place width values).2.address = s.cursor := s.mark_cursor label
    rw [List.filterMap_append, items_eq_nil (exists_remark_of_dataValues evaluated), cursor, DataItem.endAddress_eq,
      address]
    simp [Event.item?]

theorem run_line_cursor {next : State} (done : (run s [line]).outcome = .ok next) :
    (∃ address, s.origin? line = some address ∧ placements s [line] = [] ∧ next.cursor = address) ∨
      s.origin? line = none ∧
        next.cursor = s.cursor + (((placements s [line]).map (·.item.byteCount)).sum : Nat) := by
  cases taken : step s line with
  | error failure => simp [run, taken] at done
  | ok result =>
    obtain ⟨reached, events⟩ := result
    simp only [run, taken, Except.ok.injEq] at done
    subst done
    have moves := (step_advances taken).cursor
    simpa [placements, taken, List.map_map, Function.comp_def] using moves

/-- The cursor stands behind the items that were placed since the last origin. -/
theorem run_cursor (sorted : lines.Pairwise (·.index < ·.index)) (done : (run {} lines).outcome = .ok last) :
    last.cursor = addressBehind (origins {} lines).getLast? (placements {} lines) := by
  refine run_induction (motive := fun lines s => lines.Pairwise (·.index < ·.index) →
    s.cursor = addressBehind (origins {} lines).getLast? (placements {} lines)) (fun _ => rfl) ?_ done sorted
  intro before line s next earlier last ih sorted
  have behind : s.cursor = addressBehind (origins {} before).getLast? (placements {} before) :=
    ih (List.pairwise_append.1 sorted).1
  rw [placements_append_of_ok earlier, origins_append_of_ok earlier, origins_line last]
  rcases run_line_cursor last with ⟨address, moved, none, cursor⟩ | ⟨still, cursor⟩
  · -- Nothing has been placed since the origin.
    have nothing : (placements {} before).filter (fun x => line.index < x.index) = [] := by
      rw [List.filter_eq_nil_iff]
      intro x member
      have order := index_lt_of_mem_placements sorted member
      simp only [decide_eq_true_eq]
      omega
    simp [addressBehind, moved, none, cursor, nothing]
  · have since : ∀ x ∈ placements s [line], ((origins {} before).getLast?.all (·.index < x.index)) = true := by
      intro x member
      rw [Option.all_eq_true]
      intro o found
      obtain ⟨other, listed, same⟩ := exists_line_of_mem_origins (List.mem_of_getLast? found)
      obtain ⟨own, here, index⟩ := exists_line_of_mem_placements member
      cases List.mem_singleton.1 here
      have order := index_lt_of_mem_before sorted listed
      simp only [decide_eq_true_eq]
      omega
    rw [still, cursor, behind]
    simp only [addressBehind, Option.map_none, Option.toList_none, List.append_nil, List.filter_append,
      List.filter_eq_self.2 since, List.map_append, List.sum_append]
    omega

theorem address_of_placement {front back : List Placement} {x : Placement}
    (sorted : lines.Pairwise (·.index < ·.index)) (done : (run {} lines).outcome = .ok s)
    (placed : placements {} lines = front ++ x :: back) :
    x.item.address = addressBehind ((origins {} lines).filter (·.index < x.index)).getLast? front := by
  obtain ⟨before, line, after, reached, next, rfl, earlier, rfl, index, places, -⟩ := exists_of_placements_eq done placed
  rw [places.address, ← index, origins_before sorted earlier]
  exact run_cursor (List.pairwise_append.1 sorted).1 earlier

theorem laidOut_of_no_origins (sorted : lines.Pairwise (·.index < ·.index)) (done : (run {} lines).outcome = .ok s)
    (free : origins {} lines = []) : LaidOut dataOrigin ((placements {} lines).map Placement.item) := by
  apply laidOut_of_sums
  intro front item back split
  obtain ⟨earlier, onward, placed, rfl, rest⟩ := List.map_eq_append_iff.1 split
  obtain ⟨x, later, rfl, rfl, -⟩ := List.map_eq_cons_iff.1 rest
  rw [address_of_placement sorted done placed, free]
  simp [addressBehind, List.map_map, Function.comp_def]

/-- An item stands at the address of the last origin in front of it, or at that of all data, past the items that were
placed since. Without any origin the items follow one another, no two share an address, and memory is filled up to the
end of the last. -/
theorem items_stand_behind_origins {t : Text} {p : Program} (assembled : (assemble t).program = .ok p) :
    (placementsOf t).map Placement.item = p.items ∧
    (∀ front x back, placementsOf t = front ++ x :: back →
      x.item.address = addressBehind ((originsOf t).filter (·.index < x.index)).getLast? front) ∧
    (originsOf t = [] →
      p.items.IsChain (fun x y => y.address = x.endAddress) ∧
      p.items.Pairwise (fun x y => ∀ a, x.Covers a → ¬y.Covers a) ∧
      ∀ a, ((memoryImage p.items).get? a).isSome ↔ dataOrigin ≤ a ∧ a < endOf dataOrigin p.items) := by
  obtain ⟨last, done, rfl⟩ := program_eq_ok.1 assembled
  have sorted : (Source.number (Text.lines t)).Pairwise (·.index < ·.index) := Source.numberFrom_sorted none 0 _
  have items : (placementsOf t).map Placement.item =
      (last.program (run {} (Source.number (Text.lines t))).events).items := map_item_placements {} _
  refine ⟨items, fun front x back placed => address_of_placement sorted done placed, ?_⟩
  intro free
  have laid := laidOut_of_no_origins sorted done free
  rw [← placementsOf, items] at laid
  refine ⟨laid.isChain, laid.pairwise_disjoint, ?_⟩
  intro a
  exact (isSome_get?_memoryImage _ a).trans (laid.covers_iff a)

/-- An origin of the code section and one without a value move nothing, and some items and strings take no bytes. -/
theorem items_stand_behind_unmoved_origins :
    ((DataItem.mk 12 .double [4] none).address =
        addressBehind (some ⟨2, 8⟩) [⟨1, ⟨0x2000, .byte, [1], none⟩⟩, ⟨3, ⟨8, .word, [2, 3], none⟩⟩] ∧
      placementsOf ".data\nDB 1\nORG 8\nDW 2, 3\nORG x\n.text\nORG 5\n.data\nDD 4" =
        [⟨1, ⟨0x2000, .byte, [1], none⟩⟩, ⟨3, ⟨8, .word, [2, 3], none⟩⟩, ⟨8, ⟨12, .double, [4], none⟩⟩]) ∧
    ∃ p, (assemble ".data\nORG x\nDB 'ab', \"\"\n.text\nORG 5\n.data\nDW\nDW 1").program = .ok p ∧
      ∀ a, ((memoryImage p.items).get? a).isSome ↔ 0x2000 ≤ a ∧ a < 0x2004 := by
  have moved : (assemble ".data\nDB 1\nORG 8\nDW 2, 3\nORG x\n.text\nORG 5\n.data\nDD 4").program =
      .ok ⟨[], [], [], [⟨0x2000, .byte, [1], none⟩, ⟨8, .word, [2, 3], none⟩, ⟨12, .double, [4], none⟩], 5⟩ := by
    decide +kernel
  have placed : placementsOf ".data\nDB 1\nORG 8\nDW 2, 3\nORG x\n.text\nORG 5\n.data\nDD 4" =
      [⟨1, ⟨0x2000, .byte, [1], none⟩⟩, ⟨3, ⟨8, .word, [2, 3], none⟩⟩, ⟨8, ⟨12, .double, [4], none⟩⟩] := by
    decide +kernel
  have origin : (originsOf ".data\nDB 1\nORG 8\nDW 2, 3\nORG x\n.text\nORG 5\n.data\nDD 4").filter (·.index < 8) =
      [⟨2, 8⟩] := by decide +kernel
  have unmoved : (assemble ".data\nORG x\nDB 'ab', \"\"\n.text\nORG 5\n.data\nDW\nDW 1").program =
      .ok ⟨[], [], [], [⟨0x2000, .byte, [97, 98], none⟩, ⟨0x2002, .word, [], none⟩, ⟨0x2002, .word, [1], none⟩], 5⟩ := by
    decide +kernel
  have free : originsOf ".data\nORG x\nDB 'ab', \"\"\n.text\nORG 5\n.data\nDW\nDW 1" = [] := by decide +kernel
  have third := (items_stand_behind_origins moved).2.1 [_, _] _ [] placed
  rw [origin] at third
  exact ⟨⟨third, placed⟩, _, unmoved, ((items_stand_behind_origins unmoved).2.2 free).2.2⟩

end Assembly

end AsmCheck
