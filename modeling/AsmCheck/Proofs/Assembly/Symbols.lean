import AsmCheck.Proofs.Analysis.Reports
import AsmCheck.Proofs.Assembly.Run
import AsmCheck.Proofs.Bindings

/-! The names of an assembled program and the symbols of its text. Assembly binds a label where it stands, and
again where the data item that it waits for is placed; the analysis collects it from its line. Both hold the same
labels in the same order, and of the constants assembly holds those that have a number. -/

set_option autoImplicit false

namespace AsmCheck

namespace Analysis

open Source (Line)

theorem Symbols.add_of_label {symbols : Symbols} {line : Line} {name : Text} (labelled : line.label? = some name) :
    symbols.add line = { symbols with labels := addLine symbols.labels name line } := by
  unfold Line.label? at labelled
  unfold Symbols.add
  split
  · next statement => simp [statement, Source.Statement.label?] at labelled
  · simp only [labelled]

theorem Symbols.add_of_constant {symbols : Symbols} {line : Line} {name value : Text}
    (defined : line.statement = .constant name value) :
    symbols.add line = { symbols with constants := addLine symbols.constants name line } := by
  simp only [Symbols.add, defined]

theorem Symbols.add_of_none {symbols : Symbols} {line : Line} (unlabelled : line.label? = none)
    (undefined : ∀ name value, line.statement ≠ .constant name value) : symbols.add line = symbols := by
  unfold Line.label? at unlabelled
  unfold Symbols.add
  split
  · next name value statement => exact absurd statement (undefined name value)
  · simp only [unlabelled]

end Analysis

namespace Assembly

open Analysis (Symbols)
open Source (Line Statement)

/-- The state has the labels that were collected, in their order, and no constant that was not. A label that waits
for a data item is among them, so that the item adds none. -/
structure State.Agrees (s : State) (symbols : Symbols) : Prop where
  labels : s.labels.names = symbols.labels.names
  constants : s.constants.names ⊆ symbols.constants.names
  pending : ∀ name ∈ s.pending, name ∈ s.labels.names

variable {s : State} {symbols : Symbols} {line : Line}

theorem State.Agrees.mark (agrees : s.Agrees symbols) {label : Option Text} (own : line.label? = label)
    (undefined : ∀ name value, line.statement ≠ .constant name value) : (s.mark label).Agrees (symbols.add line) := by
  cases label with
  | none =>
    rw [Symbols.add_of_none own undefined]
    exact agrees
  | some name =>
    rw [Symbols.add_of_label own]
    have same (value : Int) :
        (s.labels.set name value).names = (Symbols.addLine symbols.labels name line).names := by
      rw [Symbols.addLine, Bindings.names_alter, Bindings.names_set, agrees.labels]
    unfold State.mark
    simp only
    split
    · refine ⟨same _, agrees.constants, ?_⟩
      intro waiting pending
      exact Bindings.mem_names_set.2 (.inr (agrees.pending waiting pending))
    · refine ⟨same _, agrees.constants, ?_⟩
      rintro waiting ⟨⟩
      exact Bindings.mem_names_set.2 (.inl rfl)

theorem State.Agrees.setOrigin (agrees : s.Agrees symbols) (address : Int) : (s.setOrigin address).Agrees symbols := by
  unfold State.setOrigin
  split <;> exact ⟨agrees.labels, agrees.constants, agrees.pending⟩

theorem State.Agrees.place (agrees : s.Agrees symbols) (width : Source.Width) (values : List Int) :
    (s.place width values).1.Agrees symbols := by
  refine ⟨?_, agrees.constants, by simp [State.place]⟩
  unfold State.place
  simp only
  split
  · next name pending =>
    rw [Bindings.names_set, if_pos (agrees.pending name pending)]
    exact agrees.labels
  · exact agrees.labels

theorem State.Agrees.define (agrees : s.Agrees symbols) {name value : Text}
    (defined : line.statement = .constant name value) (v : Int) :
    ({ s with constants := s.constants.set name v } : State).Agrees (symbols.add line) := by
  rw [Symbols.add_of_constant defined]
  refine ⟨agrees.labels, ?_, agrees.pending⟩
  intro other member
  rcases Bindings.mem_names_set.1 member with rfl | old
  · exact Bindings.mem_names_alter.2 (.inl rfl)
  · exact Bindings.mem_names_alter.2 (.inr (agrees.constants old))

/-- A definition without a number is collected all the same. -/
theorem State.Agrees.leave (agrees : s.Agrees symbols) {name value : Text}
    (defined : line.statement = .constant name value) : s.Agrees (symbols.add line) := by
  rw [Symbols.add_of_constant defined]
  refine ⟨agrees.labels, ?_, agrees.pending⟩
  intro other member
  exact Bindings.mem_names_alter.2 (.inr (agrees.constants member))

theorem Advances.agrees {next : State} {events : List Event} (advanced : Advances s line next events)
    (agrees : s.Agrees symbols) : next.Agrees (symbols.add line) := by
  -- A line without a constant adds the label that it has, if it has one.
  have marked {statement : Statement} (here : line.statement = statement)
      (undefined : ∀ name value, statement ≠ .constant name value) :
      (s.mark statement.label?).Agrees (symbols.add line) :=
    agrees.mark (by rw [← here]; rfl) (by rw [here]; exact undefined)
  cases advanced with
  | skipped uncoded =>
    have undefined : ∀ name value, line.statement ≠ .constant name value := by
      intro name value statement
      simp [statement, Statement.isCode] at uncoded
    have unlabelled : line.statement.label? = none := by
      cases statement : line.statement <;> simp_all [Statement.isCode, Statement.label?]
    simpa [unlabelled, State.mark] using marked rfl undefined
  | malformed statement => exact marked statement (by simp)
  | defined statement _ => exact agrees.define statement _
  | undefined statement _ => exact agrees.leave statement
  | entered statement =>
    have same := marked statement (by simp)
    exact ⟨same.labels, same.constants, same.pending⟩
  | labelled statement => exact marked statement (by simp)
  | moved statement _ => exact (marked statement (by simp)).setOrigin _
  | unmoved statement _ => exact marked statement (by simp)
  | placed statement _ _ => exact (marked statement (by simp)).place _ _
  | ignored statement _ => exact marked statement (by simp)
  | issued statement _ _ =>
    have same := marked statement (by simp)
    exact ⟨same.labels, same.constants, same.pending⟩

theorem run_agrees {lines : List Line} {reached : State} (done : (run {} lines).outcome = .ok reached) :
    reached.Agrees (Symbols.ofLines lines) :=
  run_tracks (fun _ _ _ _ _ advanced agrees => advanced.agrees agrees)
    ⟨rfl, by simp [Bindings.names], by simp⟩ done

/-- The labels of a program are the labels of its text in the order of their first definition, and each of its
constants is defined somewhere in the text. -/
theorem program_names_eq_symbols {t : Text} {p : Program} (assembled : (assemble t).program = .ok p) :
    p.labels.names = (Symbols.ofText t).labels.names ∧
      p.constants.names ⊆ (Symbols.ofText t).constants.names := by
  obtain ⟨reached, done, rfl⟩ := program_eq_ok.1 assembled
  have agrees := run_agrees done
  exact ⟨agrees.labels, agrees.constants⟩

/-- A label in front of an instruction that is passed over, a label that waits behind another one and a label that
is defined again all keep their places; a constant without a number is left out. -/
theorem program_names_waiting_labels :
    ∃ p, (assemble "N EQU Q\nM EQU 2\ns: NOP\n.data\nx:\ny: MOV\nORG 9\nDB M\n.text\nx: RET").program = .ok p ∧
      p.labels.names = (Symbols.ofText "N EQU Q\nM EQU 2\ns: NOP\n.data\nx:\ny: MOV\nORG 9\nDB M\n.text\nx: RET").labels.names ∧
      p.constants.names ⊆
        (Symbols.ofText "N EQU Q\nM EQU 2\ns: NOP\n.data\nx:\ny: MOV\nORG 9\nDB M\n.text\nx: RET").constants.names := by
  have assembled : (assemble "N EQU Q\nM EQU 2\ns: NOP\n.data\nx:\ny: MOV\nORG 9\nDB M\n.text\nx: RET").program =
      .ok ⟨[⟨3, "NOP", [], "s: NOP"⟩, ⟨10, "RET", [], "x: RET"⟩], [("s", 0), ("x", 1), ("y", 9)], [("M", 2)],
        [⟨9, .byte, [2], some "y"⟩], 0⟩ := by decide +kernel
  exact ⟨_, assembled, program_names_eq_symbols assembled⟩

end Assembly

end AsmCheck
