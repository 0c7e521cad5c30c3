import AsmCheck.Proofs.Assembly.Run
import AsmCheck.Proofs.Bindings
import AsmCheck.Proofs.Program.Substitution
import AsmCheck.Proofs.Source.Lines
import AsmCheck.Proofs.Source.Names

/-! The names that assembly holds. Labels are words that do not start with a digit, and no constant has a
quote in its name, whatever lines have been read. -/

set_option autoImplicit false

namespace AsmCheck.Assembly

open Source (Line Statement)

/-- What the names of a state have in common. -/
structure State.Named (s : State) : Prop where
  constants : Program.QuoteFree s.constants
  labels : ∀ name ∈ s.labels.names, Source.isName name = true
  pending : ∀ name ∈ s.pending, Source.isName name = true

theorem State.Named.initial : ({} : State).Named where
  constants := by simp [Program.QuoteFree, Bindings.names]
  labels := by simp [Bindings.names]
  pending := by simp

theorem State.Named.set_label {s : State} (named : s.Named) {label : Text} (name : Source.isName label = true)
    (value : Int) : ∀ other ∈ (s.labels.set label value).names, Source.isName other = true := by
  intro other member
  rcases Bindings.mem_names_set.1 member with rfl | old
  · exact name
  · exact named.labels other old

theorem State.Named.mark {s : State} (named : s.Named) {label : Option Text}
    (name : ∀ own ∈ label, Source.isName own = true) : (s.mark label).Named := by
  cases label with
  | none => exact named
  | some own =>
    have fine : Source.isName own = true := name own rfl
    unfold State.mark
    simp only
    split
    · exact ⟨named.constants, named.set_label fine _, named.pending⟩
    · exact ⟨named.constants, named.set_label fine _, by simpa using fine⟩

theorem State.Named.setOrigin {s : State} (named : s.Named) (address : Int) : (s.setOrigin address).Named := by
  unfold State.setOrigin
  split <;> exact ⟨named.constants, named.labels, named.pending⟩

theorem State.Named.place {s : State} (named : s.Named) (width : Source.Width) (values : List Int) :
    (s.place width values).1.Named := by
  refine ⟨named.constants, ?_, by simp [State.place]⟩
  unfold State.place
  simp only
  split
  · next name pending => exact named.set_label (named.pending name (by simp [pending])) _
  · exact named.labels

theorem State.Named.define {s : State} (named : s.Named) {line name value : Text}
    (defined : Source.classify line = .constant name value) (v : Int) :
    ({ s with constants := s.constants.set name v } : State).Named := by
  refine ⟨?_, named.labels, named.pending⟩
  intro other member c inName
  rcases Bindings.mem_names_set.1 member with rfl | old
  · exact Source.isQuote_of_isConstantChar (Source.isConstantChar_of_mem_name defined c inName)
  · exact named.constants other old c inName

theorem Advances.named {s next : State} {line : Line} {events : List Event}
    (advanced : Advances s line next events) (classified : line.statement = Source.classify line.text)
    (named : s.Named) : next.Named := by
  -- Whatever a statement is, its label is a name.
  have own : ∀ {statement : Statement} {label : Option Text}, line.statement = statement → statement.label? = label →
      ∀ name ∈ label, Source.isName name = true := by
    rintro statement label rfl rfl name labelled
    exact Source.isName_of_label? (classified ▸ labelled)
  cases advanced with
  | skipped _ | malformed _ | undefined _ _ => exact named
  | defined statement _ => exact named.define (classified ▸ statement) _
  | entered _ => exact ⟨named.constants, named.labels, named.pending⟩
  | labelled statement => exact named.mark (own statement rfl)
  | moved statement _ => exact (named.mark (own statement rfl)).setOrigin _
  | unmoved statement _ => exact named.mark (own statement rfl)
  | placed statement _ _ => exact (named.mark (own statement rfl)).place _ _
  | ignored statement _ => exact named.mark (own statement rfl)
  | issued statement _ _ =>
    have marked := named.mark (own statement rfl)
    exact ⟨marked.constants, marked.labels, marked.pending⟩

theorem run_named {lines : List Line} {reached : State}
    (classified : ∀ line ∈ lines, line.statement = Source.classify line.text)
    (done : (run {} lines).outcome = .ok reached) : reached.Named :=
  run_keeps (fun line member _ _ _ advanced named => advanced.named (classified line member) named)
    State.Named.initial done

end AsmCheck.Assembly
