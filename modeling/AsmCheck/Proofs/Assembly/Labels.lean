import AsmCheck.Proofs.Assembly.Sites

/-! What becomes of a label. A line writes its own label, and a data item writes the label that waits for it; no other
line touches a name, so what was written last stays. -/

set_option autoImplicit false

namespace AsmCheck.Assembly

open Analysis (sectionAfter)
open Source (Line Section)

variable {s next last : State} {line : Line} {lines : List Line} {item : DataItem} {name : Text}

/-! ## One line -/

theorem State.mark_pending (s : State) (label : Option Text) :
    (s.mark label).pending = if s.active = .data then label.or s.pending else s.pending := by
  cases label with
  | none => simp [State.mark]
  | some own => cases active : s.active <;> simp [State.mark, active]

theorem State.get?_mark_of_ne {label : Option Text} (other : label ≠ some name) :
    (s.mark label).labels.get? name = s.labels.get? name := by
  cases label with
  | none => rfl
  | some own =>
    have different : name ≠ own := fun same => other (by rw [same])
    cases active : s.active <;> simp [State.mark, active, Bindings.get?_set_of_ne different]

/-- The place that a section has reached. -/
theorem State.get?_mark_self (s : State) (name : Text) :
    (s.mark (some name)).labels.get? name =
      some (match s.active with | .code => (s.count : Int) | .data => s.cursor) := by
  cases active : s.active <;> simp [State.mark, active]

theorem State.mark_pending_ne {label : Option Text} (other : label ≠ some name) (idle : s.pending ≠ some name) :
    (s.mark label).pending ≠ some name := by
  rw [State.mark_pending]
  cases label with
  | none => simpa using idle
  | some own =>
    split
    · exact other
    · exact idle

namespace Places

theorem address (places : Places s line next item) : item.address = s.cursor := by
  obtain ⟨-, width, values, same⟩ := places
  cases same
  exact s.mark_cursor line.label?

theorem label (places : Places s line next item) : item.label = (s.mark line.label?).pending := by
  obtain ⟨-, width, values, same⟩ := places
  cases same
  rfl

theorem pending (places : Places s line next item) : next.pending = none := by
  obtain ⟨-, width, values, same⟩ := places
  cases same
  rfl

theorem get?_own (places : Places s line next item) (own : item.label = some name) :
    next.labels.get? name = some item.address := by
  obtain ⟨-, width, values, same⟩ := places
  cases same
  have waiting : (s.mark line.label?).pending = some name := own
  simp [waiting]

theorem get?_of_ne (places : Places s line next item) (other : item.label ≠ some name)
    (unlabelled : line.label? ≠ some name) : next.labels.get? name = s.labels.get? name := by
  obtain ⟨-, width, values, same⟩ := places
  cases same
  refine Eq.trans ?_ (State.get?_mark_of_ne unlabelled)
  dsimp only
  split
  · next own waiting =>
    apply Bindings.get?_set_of_ne
    rintro rfl
    exact other waiting
  · rfl

end Places

theorem Passes.get?_of_ne (passes : Passes s line next) (unlabelled : line.label? ≠ some name) :
    next.labels.get? name = s.labels.get? name := by
  rw [passes.labels, State.get?_mark_of_ne unlabelled]

/-! ## Whole runs -/

/-- A name that is neither defined any more nor waits for an item keeps its value. -/
theorem run_keeps_label (undefined : ∀ line ∈ lines, line.label? ≠ some name) (idle : s.pending ≠ some name)
    (done : (run s lines).outcome = .ok last) : last.labels.get? name = s.labels.get? name := by
  -- An item would write a name that waits, so the run has to keep the name from waiting as well.
  have kept : last.labels.get? name = s.labels.get? name ∧ last.pending ≠ some name := by
    refine run_keeps (P := fun reached => reached.labels.get? name = s.labels.get? name ∧ reached.pending ≠ some name)
      ?_ ⟨rfl, idle⟩ done
    rintro line member reached next events advanced ⟨same, waiting⟩
    have unlabelled := undefined line member
    have marked := State.mark_pending_ne unlabelled waiting
    rcases advanced.passes_or_places with ⟨-, passes⟩ | ⟨item, -, places⟩
    · exact ⟨(passes.get?_of_ne unlabelled).trans same, passes.pending ▸ marked⟩
    · refine ⟨(places.get?_of_ne (places.label ▸ marked) unlabelled).trans same, ?_⟩
      simp [places.pending]
  exact kept.1

/-- A run without items passes its first line and goes on without items. -/
theorem run_cons_unplaced {rest : List Line} (done : (run s (line :: rest)).outcome = .ok last)
    (unplaced : placements s (line :: rest) = []) :
    ∃ next, next.active = sectionAfter s.active line.statement ∧ Passes s line next ∧ placements next rest = [] ∧
      (run next rest).outcome = .ok last := by
  obtain ⟨next, first, later⟩ := run_append_eq_ok.1 (show (run s ([line] ++ rest)).outcome = .ok last from done)
  have split : placements s (line :: rest) = placements s [line] ++ placements next rest :=
    placements_append_of_ok first rest
  rw [unplaced] at split
  obtain ⟨none, restNone⟩ := List.nil_eq_append_iff.1 split
  obtain ⟨active, ⟨-, passes⟩ | ⟨item, one, -⟩⟩ := run_line first
  · exact ⟨next, active, passes, restNone, later⟩
  · rw [one] at none
    cases none

/-- What every line without an item keeps, a run without items keeps. -/
theorem run_keeps_unplaced {P : State → Prop}
    (kept : ∀ e ∈ standing s.active lines, ∀ s next, s.active = e.sec → Passes s e.line next → P s → P next)
    (unplaced : placements s lines = []) (start : P s) (done : (run s lines).outcome = .ok last) : P last := by
  induction lines generalizing s with
  | nil =>
    simp only [run, Except.ok.injEq] at done
    exact done ▸ start
  | cons line rest ih =>
    obtain ⟨next, active, passes, restUnplaced, later⟩ := run_cons_unplaced done unplaced
    have here : P next := kept ⟨line, s.active⟩ (by simp [standing]) s next rfl passes start
    refine ih ?_ restUnplaced here later
    intro e member
    apply kept
    rw [active] at member
    exact List.mem_cons_of_mem _ member

theorem run_keeps_label_unplaced (undefined : ∀ line ∈ lines, line.label? ≠ some name)
    (unplaced : placements s lines = []) (done : (run s lines).outcome = .ok last) :
    last.labels.get? name = s.labels.get? name := by
  refine run_keeps_unplaced (P := fun reached => reached.labels.get? name = s.labels.get? name) ?_ unplaced rfl done
  intro e member reached next _ passes same
  obtain ⟨before, after, split, -⟩ := mem_standing.1 member
  exact (passes.get?_of_ne (undefined e.line (by simp [split]))).trans same

/-- Without items and without origins the cursor of the data section stays. -/
theorem run_keeps_cursor
    (still : ∀ e ∈ standing s.active lines, e.sec = .data → e.line.statement.isOrigin = false)
    (unplaced : placements s lines = []) (done : (run s lines).outcome = .ok last) : last.cursor = s.cursor := by
  refine run_keeps_unplaced (P := fun reached => reached.cursor = s.cursor) ?_ unplaced rfl done
  intro e member reached next active passes same
  rw [passes.cursor ?_, same]
  intro data
  exact still e member (active.symm.trans data)

end AsmCheck.Assembly
