import AsmCheck.Program.Assembly
import AsmCheck.Proofs.Sequence

/-! Runs of the assembler. A step that goes through is one of a few moves, the run over a joined list is
the run over its first part followed by the run over the second, and whatever a run has emitted was
emitted by one of its steps. -/

set_option autoImplicit false

namespace AsmCheck.Assembly

open Source (Line Section Statement Width)

/-! ## Marking and placing -/

section
variable (s : State) (label : Option Text) (width : Width) (values : List Int) (address : Int)

@[simp] theorem State.mark_active : (s.mark label).active = s.active := by
  unfold State.mark
  split
  · rfl
  · split <;> rfl

@[simp] theorem State.mark_constants : (s.mark label).constants = s.constants := by
  unfold State.mark
  split
  · rfl
  · split <;> rfl

@[simp] theorem State.setOrigin_active : (s.setOrigin address).active = s.active := by
  unfold State.setOrigin
  split <;> rfl

@[simp] theorem State.place_active : (s.place width values).1.active = s.active := rfl

end

/-! ## Values of data directives -/

/-- A string is taken as it is; any other operand is evaluated, and remarked upon if it has no value. -/
theorem itemValues_eq_ok {labels : Bindings Int} {n : Nat} {width : Width} {operand : Text}
    {values : List Int} {events : List Event} (evaluated : itemValues labels n width operand = .ok (values, events)) :
    Source.isString operand = true ∧ events = [] ∨
      Source.isString operand = false ∧ ∃ found, Source.evaluate labels.get? operand = .ok found ∧
        events = if found.isSome then [] else [.remark (.valueNotNumeric n width operand)] := by
  unfold itemValues at evaluated
  cases string : Source.stringBody? operand with
  | some inside =>
    simp only [string] at evaluated
    cases evaluated
    exact .inl ⟨by simp [Source.isString, string], rfl⟩
  | none =>
    simp only [string] at evaluated
    obtain ⟨found, value, result⟩ := bind_eq_ok.1 evaluated
    refine .inr ⟨by simp [Source.isString, string], found, value, ?_⟩
    cases found with
    | some v =>
      cases result
      rfl
    | none =>
      cases result
      rfl

/-- Each operand of a data directive has its values, and what is emitted is emitted for one of them. -/
theorem dataValues_eq_ok {s : State} {n : Nat} {width : Width} {rest : Text} {values : List Int}
    {events : List Event} (evaluated : dataValues s n width rest = .ok (values, events)) :
    ∃ substituted, Program.substitute s.constants rest = .ok substituted ∧
      (∀ operand ∈ Source.operands substituted, ∃ part, itemValues s.labels n width operand = .ok part) ∧
      ∀ event ∈ events, ∃ operand ∈ Source.operands substituted, ∃ own remarks,
        itemValues s.labels n width operand = .ok (own, remarks) ∧ event ∈ remarks := by
  obtain ⟨substituted, replaced, mapped⟩ := bind_eq_ok.1 evaluated
  obtain ⟨parts, each, result⟩ := bind_eq_ok.1 mapped
  cases result
  rw [mapM_eq_ok] at each
  refine ⟨substituted, replaced, ?_, ?_⟩
  · intro operand listed
    obtain ⟨part, -, made⟩ := exists_of_forall₂_of_mem_left each listed
    exact ⟨part, made⟩
  · intro event member
    obtain ⟨⟨own, remarks⟩, part, found⟩ := List.mem_flatMap.1 member
    obtain ⟨operand, listed, made⟩ := exists_of_forall₂_of_mem_right each part
    exact ⟨operand, listed, own, remarks, made, found⟩

/-- All that evaluation emits are remarks on operands without a value. -/
theorem remark_of_mem_itemValues {labels : Bindings Int} {n : Nat} {width : Width} {operand : Text}
    {values : List Int} {events : List Event} (evaluated : itemValues labels n width operand = .ok (values, events))
    {event : Event} (member : event ∈ events) : event = .remark (.valueNotNumeric n width operand) := by
  rcases itemValues_eq_ok evaluated with ⟨-, rfl⟩ | ⟨-, found, -, rfl⟩
  · simp at member
  · split at member
    · simp at member
    · simpa using member

/-! ## The moves of a step -/

/-- What a line that can stand where it stands does to the state, and what it emits. -/
inductive Advances (s : State) (line : Line) : State → List Event → Prop where
  | skipped : line.statement.isCode = false → Advances s line s []
  | malformed : line.statement = .malformedConstant →
      Advances s line s [.remark (.malformedConstant (line.index + 1) (Source.body line.text))]
  | defined {name value : Text} {v : Int} : line.statement = .constant name value →
      s.constantValue value = .ok (some v) →
      Advances s line { s with constants := s.constants.set name v } []
  | undefined {name value : Text} : line.statement = .constant name value →
      s.constantValue value = .ok none →
      Advances s line s [.remark (.constantNotNumeric (line.index + 1) name value)]
  | entered {sec : Section} : line.statement = .enter sec → Advances s line { s with active := sec } []
  | labelled {name : Text} : line.statement = .label name → Advances s line (s.mark (some name)) []
  | moved {label : Option Text} {rest : Text} {address : Int} : line.statement = .origin label rest →
      (s.mark label).constantValue rest = .ok (some address) →
      Advances s line ((s.mark label).setOrigin address) []
  | unmoved {label : Option Text} {rest : Text} : line.statement = .origin label rest →
      (s.mark label).constantValue rest = .ok none →
      Advances s line (s.mark label) [.remark (.originNotNumeric (line.index + 1) rest)]
  | placed {label : Option Text} {width : Width} {rest : Text} {values : List Int} {remarks : List Event} :
      line.statement = .data label width rest → s.active = .data →
      dataValues (s.mark label) (line.index + 1) width rest = .ok (values, remarks) →
      Advances s line ((s.mark label).place width values).1
        (remarks ++ [.item ((s.mark label).place width values).2])
  | ignored {name mnemonic rest : Text} : line.statement = .instruction (some name) mnemonic rest →
      s.active = .data → Advances s line (s.mark (some name)) []
  | issued {label : Option Text} {mnemonic rest substituted : Text} :
      line.statement = .instruction label mnemonic rest → s.active = .code →
      Program.substitute s.constants rest = .ok substituted →
      Advances s line { s.mark label with count := (s.mark label).count + 1 }
        [.instruction ⟨line.index + 1, mnemonic, Source.operands substituted, Text.trim line.text⟩]

theorem step_advances {s next : State} {line : Line} {events : List Event}
    (taken : step s line = .ok (next, events)) : Advances s line next events := by
  unfold step at taken
  cases statement : line.statement with
  | blank | comment =>
    simp only [statement, Except.ok.injEq, Prod.mk.injEq] at taken
    obtain ⟨rfl, rfl⟩ := taken
    exact .skipped (by rw [statement]; rfl)
  | malformedConstant =>
    simp only [statement, Except.ok.injEq, Prod.mk.injEq] at taken
    obtain ⟨rfl, rfl⟩ := taken
    exact .malformed statement
  | constant name value =>
    simp only [statement, bind_eq_ok, Numeral.failWith_eq_ok] at taken
    obtain ⟨found, evaluated, result⟩ := taken
    cases found with
    | none => cases result; exact .undefined statement evaluated
    | some v => cases result; exact .defined statement evaluated
  | enter sec =>
    simp only [statement, Except.ok.injEq, Prod.mk.injEq] at taken
    obtain ⟨rfl, rfl⟩ := taken
    exact .entered statement
  | label name =>
    simp only [statement, Except.ok.injEq, Prod.mk.injEq] at taken
    obtain ⟨rfl, rfl⟩ := taken
    exact .labelled statement
  | origin label rest =>
    simp only [statement, bind_eq_ok, Numeral.failWith_eq_ok] at taken
    obtain ⟨found, evaluated, result⟩ := taken
    cases found with
    | none => cases result; exact .unmoved statement evaluated
    | some address => cases result; exact .moved statement evaluated
  | data label width rest =>
    simp only [statement] at taken
    -- A directive in the code section is rejected.
    cases active : s.active with
    | code => simp [active, reject] at taken
    | data =>
      simp only [active, bind_eq_ok, Numeral.failWith_eq_ok] at taken
      obtain ⟨⟨values, remarks⟩, evaluated, result⟩ := taken
      cases result
      exact .placed statement active evaluated
  | instruction label mnemonic rest =>
    simp only [statement] at taken
    cases active : s.active with
    | data =>
      cases label with
      | none => simp [active, reject] at taken
      | some name =>
        simp only [active, Option.isSome_some, if_true, Except.ok.injEq, Prod.mk.injEq] at taken
        obtain ⟨rfl, rfl⟩ := taken
        exact .ignored statement active
    | code =>
      simp only [active, bind_eq_ok, Numeral.failWith_eq_ok] at taken
      obtain ⟨substituted, replaced, result⟩ := taken
      rw [State.mark_constants] at replaced
      cases result
      exact .issued statement active replaced

theorem Advances.of_data {s next : State} {line : Line} {events : List Event} (advanced : Advances s line next events)
    {label : Option Text} {width : Width} {rest : Text} (statement : line.statement = .data label width rest) :
    ∃ values remarks, dataValues (s.mark label) (line.index + 1) width rest = .ok (values, remarks) := by
  cases advanced with
  | skipped code => simp [statement, Statement.isCode] at code
  | placed other _ evaluated =>
    rw [statement] at other
    cases other
    exact ⟨_, _, evaluated⟩
  | malformed other | entered other | labelled other =>
    rw [statement] at other
    cases other
  | defined other _ | undefined other _ | moved other _ | unmoved other _ | ignored other _ | issued other _ _ =>
    rw [statement] at other
    cases other

/-! ## Runs -/

theorem run_append_of_ok {s reached : State} {first : List Line} (done : (run s first).outcome = .ok reached)
    (second : List Line) :
    run s (first ++ second) =
      ⟨(run s first).events ++ (run reached second).events, (run reached second).outcome⟩ := by
  induction first generalizing s with
  | nil =>
    simp only [run, Except.ok.injEq] at done
    subst done
    rfl
  | cons line rest ih =>
    cases taken : step s line with
    | error failure => simp [run, taken] at done
    | ok result =>
      obtain ⟨next, events⟩ := result
      simp only [run, taken] at done
      simp only [List.cons_append, run, taken, ih done, List.append_assoc]

theorem run_append_of_error {s : State} {first : List Line} {failure : Failure}
    (stopped : (run s first).outcome = .error failure) (second : List Line) :
    run s (first ++ second) = run s first := by
  induction first generalizing s with
  | nil => simp [run] at stopped
  | cons line rest ih =>
    cases taken : step s line with
    | error other => simp only [List.cons_append, run, taken]
    | ok result =>
      obtain ⟨next, events⟩ := result
      simp only [run, taken] at stopped
      simp only [List.cons_append, run, taken, ih stopped]

/-- In a run that goes through, every line is reached and moves on. -/
theorem exists_advances_of_run {s last : State} {before after : List Line} {line : Line}
    (done : (run s (before ++ line :: after)).outcome = .ok last) :
    ∃ reached next events, (run s before).outcome = .ok reached ∧ Advances reached line next events := by
  cases outcome : (run s before).outcome with
  | error failure =>
    -- What stops the lines before stops the whole run.
    rw [run_append_of_error outcome, outcome] at done
    cases done
  | ok reached =>
    rw [run_append_of_ok outcome] at done
    cases taken : step reached line with
    | error failure => simp [run, taken] at done
    | ok result => exact ⟨reached, result.1, result.2, rfl, step_advances taken⟩

/-- What every step keeps, a run keeps. -/
theorem run_keeps {P : State → Prop} {lines : List Line}
    (kept : ∀ line ∈ lines, ∀ s next events, Advances s line next events → P s → P next)
    {s reached : State} (start : P s) (done : (run s lines).outcome = .ok reached) : P reached := by
  -- The state changes from line to line, so it is general in the induction.
  induction lines generalizing s with
  | nil =>
    simp only [run, Except.ok.injEq] at done
    exact done ▸ start
  | cons line rest ih =>
    cases taken : step s line with
    | error failure => simp [run, taken] at done
    | ok result =>
      obtain ⟨next, events⟩ := result
      simp only [run, taken] at done
      have first := kept line (by simp) s next events (step_advances taken) start
      exact ih (fun other member => kept other (by simp [member])) first done

/-- What every step keeps between the state and something that follows the lines, a run keeps. -/
theorem run_tracks {σ : Type} {follow : σ → Line → σ} {R : State → σ → Prop}
    (kept : ∀ line s next events a, Advances s line next events → R s a → R next (follow a line))
    {lines : List Line} {s reached : State} {a : σ} (start : R s a) (done : (run s lines).outcome = .ok reached) :
    R reached (lines.foldl follow a) := by
  induction lines generalizing s a with
  | nil =>
    simp only [run, Except.ok.injEq] at done
    exact done ▸ start
  | cons line rest ih =>
    cases taken : step s line with
    | error failure => simp [run, taken] at done
    | ok result =>
      obtain ⟨next, events⟩ := result
      simp only [run, taken] at done
      exact ih (kept line s next events a (step_advances taken) start) done

/-- Whatever a run has emitted was emitted at one of its lines, in the state that the lines before it lead to. -/
theorem exists_of_mem_run_events {s : State} {lines : List Line} {event : Event}
    (emitted : event ∈ (run s lines).events) :
    ∃ before line after reached next events, lines = before ++ line :: after ∧
      (run s before).outcome = .ok reached ∧ Advances reached line next events ∧ event ∈ events := by
  induction lines generalizing s with
  | nil => simp [run] at emitted
  | cons line rest ih =>
    cases taken : step s line with
    | error failure => simp [run, taken] at emitted
    | ok result =>
      obtain ⟨next, events⟩ := result
      simp only [run, taken, List.mem_append] at emitted
      rcases emitted with here | later
      · exact ⟨[], line, rest, s, next, events, rfl, rfl, step_advances taken, here⟩
      · obtain ⟨before, other, after, reached, last, emissions, rfl, done, advanced, member⟩ := ih later
        refine ⟨line :: before, other, after, reached, last, emissions, rfl, ?_, advanced, member⟩
        simp only [run, taken, done]

/-! ## Results -/

theorem program_eq_error {lines : List Line} {failure : Failure} :
    (assembleLines lines).program = .error failure ↔ (run {} lines).outcome = .error failure := by
  unfold assembleLines
  cases outcome : (run {} lines).outcome with
  | error other => simp [outcome]
  | ok s => simp [outcome]

theorem instruction_mem_events {events : List Event} {i : Instruction}
    (member : i ∈ events.filterMap Event.instruction?) : Event.instruction i ∈ events := by
  obtain ⟨event, emitted, same⟩ := List.mem_filterMap.1 member
  cases event with
  | instruction other =>
    cases same
    exact emitted
  | item _ | remark _ => cases same

theorem remark_mem_events {events : List Event} {r : Remark} (member : r ∈ events.filterMap Event.remark?) :
    Event.remark r ∈ events := by
  obtain ⟨event, emitted, same⟩ := List.mem_filterMap.1 member
  cases event with
  | remark other =>
    cases same
    exact emitted
  | instruction _ | item _ => cases same

/-- A remark was emitted on the way, or it is the count at the end. -/
theorem mem_events_of_mem_remarks {lines : List Line} {r : Remark} (remarked : r ∈ (assembleLines lines).remarks) :
    Event.remark r ∈ (run {} lines).events ∨
      ∃ instructions labels constants items, r = .assembled instructions labels constants items := by
  unfold assembleLines at remarked
  simp only at remarked
  split at remarked
  · exact .inl (remark_mem_events remarked)
  · rcases List.mem_append.1 remarked with emitted | last
    · exact .inl (remark_mem_events emitted)
    · exact .inr ⟨_, _, _, _, List.mem_singleton.1 last⟩

theorem program_eq_ok {lines : List Line} {p : Program} :
    (assembleLines lines).program = .ok p ↔
      ∃ s, (run {} lines).outcome = .ok s ∧ s.program (run {} lines).events = p := by
  unfold assembleLines
  cases outcome : (run {} lines).outcome with
  | error failure => simp [outcome]
  | ok s => simp [outcome]

end AsmCheck.Assembly
