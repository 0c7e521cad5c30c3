import AsmCheck.Command.Check
import AsmCheck.Proofs.Json.Writing

/-! Printing. A stream may be unable to take a character of a diagnostic or of the name of the source. Output in JSON
is ASCII, so it has no such character, and only a numeral that is too long keeps it from being printed. -/

set_option autoImplicit false

namespace AsmCheck.Command

open Text (IsAscii isAscii_ofInt isAscii_ofNat)

namespace Sink

variable {sink : Sink} {a b : Text} {lines : List Text} {printed : Text} {fault : Fault}

theorem takesText_append : sink.takesText (a ++ b) = (sink.takesText a && sink.takesText b) := List.all_append

theorem takesText_of_isAscii (sink : Sink) (ascii : IsAscii a) : sink.takesText a = true :=
  List.all_eq_true.2 fun c member => sink.ascii c (ascii c member)

theorem print_eq_ok : sink.print lines = .ok printed ↔
    (∀ line ∈ lines, sink.takesText line = true) ∧ printed = Text.terminated lines := by
  rw [print, ← List.all_eq_true]
  split
  · next taken => simp [taken, eq_comm]
  · next untaken => simp [untaken]

theorem print_eq_error : sink.print lines = .error fault ↔
    (∃ line ∈ lines, sink.takesText line = false) ∧ fault = .unencodable := by
  unfold print
  split
  · next taken =>
    have all : ∀ line ∈ lines, sink.takesText line = true := List.all_eq_true.1 taken
    simp only [reduceCtorEq, false_iff, not_and]
    rintro ⟨line, listed, untaken⟩
    simp [all line listed] at untaken
  · next untaken =>
    have found : ∃ line ∈ lines, sink.takesText line = false := by simpa using untaken
    rw [Except.error.injEq, eq_comm, and_iff_right found]

end Sink

/-- The numbers of a summary that a format writes out. -/
def Summary.written (format : Format) (s : Summary) : List Int :=
  match format with
  | .text => [s.width, s.height]
  | .json => s.numbers

section
variable {sink : Sink} {options : Options} {diagnostics : List Diagnostic} {summary : Option Summary} {s : Summary}
  {source line : Text} {fault : Fault}

theorem summaryLine_eq_error :
    summaryLine source s = .error ⟨⟩ ↔ ∃ n ∈ s.written .text, Numeral.write n = .error ⟨⟩ := by
  simp only [summaryLine, Summary.written, List.exists_mem_cons_iff, List.not_mem_nil, false_and, exists_false, or_false]
  cases Numeral.write s.width with
  | error e => simp [bind, Except.bind]
  | ok width =>
    cases Numeral.write s.height with
    | error e => simp [bind, Except.bind]
    | ok height => simp [bind, Except.bind]

theorem isAscii_write {n : Int} {t : Text} (written : Numeral.write n = .ok t) : IsAscii t := by
  unfold Numeral.write at written
  split at written
  · cases written
  · cases written
    exact isAscii_ofInt n

/-- Only the name of the source can keep the line of a summary from being printed. -/
theorem takesText_summaryLine (written : summaryLine source s = .ok line) :
    sink.takesText line = sink.takesText source := by
  obtain ⟨width, first, written⟩ := bind_eq_ok.1 written
  obtain ⟨height, second, result⟩ := bind_eq_ok.1 written
  cases result
  have written : IsAscii width ∧ IsAscii height := ⟨isAscii_write first, isAscii_write second⟩
  simp (disch := first | decide | exact isAscii_ofNat _ | simp only [written]) only
    [Sink.takesText_append, Sink.takesText_of_isAscii, Bool.and_true]

/-! ## JSON -/

theorem reals_diagnosticJson (d : Diagnostic) : Json.reals (diagnosticJson d) = [] := rfl

theorem reals_bindingsJson (bindings : Bindings Int) : Json.reals (bindingsJson bindings) = [] :=
  Json.realsOfMembers_map (fun _ => rfl) bindings

theorem reals_itemJson (d : DataItem) : Json.reals (itemJson d) = [] := by
  have values : Json.realsOfItems (d.values.map .int) = [] := Json.realsOfItems_map (fun _ => rfl) d.values
  cases label : d.label <;> simp [itemJson, Json.reals, Json.realsOfMembers, values, label]

theorem reals_summaryJson (s : Summary) : Json.reals (summaryJson s) = [] := by
  have items := Json.realsOfItems_map reals_itemJson s.program.items
  simp [summaryJson, Json.reals, Json.realsOfMembers, Json.realsOfItems, reals_bindingsJson, items]

theorem reals_outputJson (diagnostics : List Diagnostic) (summary : Option Summary) :
    Json.reals (outputJson diagnostics summary) = [] := by
  have found := Json.realsOfItems_map reals_diagnosticJson diagnostics
  cases summary with
  | none => simp [outputJson, Json.reals, Json.realsOfMembers, found]
  | some s => simp [outputJson, Json.reals, Json.realsOfMembers, found, reals_summaryJson]

/-- Every stream takes output in JSON. -/
theorem takesText_outputJson (sink : Sink) (diagnostics : List Diagnostic) (summary : Option Summary) :
    sink.takesText (Json.writeIndented (outputJson diagnostics summary)) = true :=
  sink.takesText_of_isAscii (Json.isAscii_writeIndented (reals_outputJson diagnostics summary))

/-! ## Failures -/

/-- The stream takes the lines of the diagnostics, if they are printed as lines. -/
def Prints (sink : Sink) (options : Options) (diagnostics : List Diagnostic) : Prop :=
  options.format = .json ∨ ∀ d ∈ diagnostics, sink.takesText (diagnosticLine options.source d) = true

/-- What keeps diagnostics and a summary from being printed, in the order in which it comes up. -/
inductive PrintFails (sink : Sink) (options : Options) (diagnostics : List Diagnostic) (summary : Option Summary) :
    Fault → Prop where
  | diagnostic {d : Diagnostic} : options.format = .text → d ∈ diagnostics →
      sink.takesText (diagnosticLine options.source d) = false → PrintFails sink options diagnostics summary .unencodable
  | numeral {s : Summary} {n : Int} : Prints sink options diagnostics → summary = some s →
      n ∈ s.written options.format → Numeral.write n = .error ⟨⟩ → PrintFails sink options diagnostics summary .numeral
  | source {s : Summary} : options.format = .text → Prints sink options diagnostics → summary = some s →
      (∀ n ∈ s.written .text, Numeral.write n ≠ .error ⟨⟩) → sink.takesText options.source = false →
      PrintFails sink options diagnostics summary .unencodable

theorem print_diagnostics_eq_ok (format : options.format = .text) :
    (∃ front, sink.print (diagnostics.map (diagnosticLine options.source)) = .ok front) ↔
      Prints sink options diagnostics := by
  simp [Sink.print_eq_ok, Prints, format]

/-- The line of a summary has a numeral that is too long, or else the name of the source can be too much for the
stream. -/
theorem print_summary_eq_error :
    (Numeral.failWith .numeral (summary.toList.mapM (summaryLine source)) >>= sink.print) = .error fault ↔
      ∃ s, summary = some s ∧
        ((∃ n ∈ s.written .text, Numeral.write n = .error ⟨⟩) ∧ fault = .numeral ∨
          (∀ n ∈ s.written .text, Numeral.write n ≠ .error ⟨⟩) ∧ sink.takesText source = false ∧
            fault = .unencodable) := by
  cases summary with
  | none => simp [Numeral.failWith, Sink.print_eq_error, bind, Except.bind, pure, Except.pure]
  | some s =>
    simp only [Option.some.injEq, exists_eq_left']
    cases written : summaryLine source s with
    | error e =>
      have long := summaryLine_eq_error.1 written
      have notShort : ¬∀ n ∈ s.written .text, Numeral.write n ≠ .error ⟨⟩ := by simpa using long
      simp only [Option.toList_some, List.mapM_cons, written, Numeral.failWith, bind, Except.bind, Except.error.injEq,
        long, notShort, true_and, false_and, or_false]
      exact eq_comm
    | ok line =>
      have short : ∀ n ∈ s.written .text, Numeral.write n ≠ .error ⟨⟩ := fun n number limit => by
        simp [summaryLine_eq_error.2 ⟨n, number, limit⟩] at written
      have notLong : ¬∃ n ∈ s.written .text, Numeral.write n = .error ⟨⟩ := by simpa using short
      have name : sink.takesText line = sink.takesText source := takesText_summaryLine written
      rw [or_iff_right fun limit => notLong limit.1, and_iff_right short]
      simp [written, name, Numeral.failWith, Sink.print_eq_error, bind, Except.bind, pure, Except.pure]

theorem printText_eq_error (format : options.format = .text) :
    printText sink options diagnostics summary = .error fault ↔ PrintFails sink options diagnostics summary fault := by
  have steps : printText sink options diagnostics summary = .error fault ↔
      sink.print (diagnostics.map (diagnosticLine options.source)) = .error fault ∨
        ∃ front, sink.print (diagnostics.map (diagnosticLine options.source)) = .ok front ∧
          (Numeral.failWith .numeral (summary.toList.mapM (summaryLine options.source)) >>= sink.print) =
            .error fault := by
    simp only [printText, bind_eq_error, reduceCtorEq, and_false, exists_false, or_false]
  rw [steps]
  constructor
  · rintro (unprinted | ⟨front, printed, failed⟩)
    · obtain ⟨⟨line, listed, untaken⟩, rfl⟩ := Sink.print_eq_error.1 unprinted
      obtain ⟨d, member, rfl⟩ := List.mem_map.1 listed
      exact .diagnostic format member untaken
    · have prints : Prints sink options diagnostics := (print_diagnostics_eq_ok format).1 ⟨front, printed⟩
      obtain ⟨s, given, ⟨⟨n, listed, long⟩, rfl⟩ | ⟨short, untaken, rfl⟩⟩ := print_summary_eq_error.1 failed
      · exact .numeral prints given (format ▸ listed) long
      · exact .source format prints given short untaken
  · intro fails
    cases fails with
    | diagnostic _ member untaken =>
      exact .inl (Sink.print_eq_error.2 ⟨⟨_, List.mem_map_of_mem member, untaken⟩, rfl⟩)
    | @numeral s n prints given listed long =>
      obtain ⟨front, printed⟩ := (print_diagnostics_eq_ok format).2 prints
      exact .inr ⟨front, printed, print_summary_eq_error.2 ⟨s, given, .inl ⟨⟨n, format ▸ listed, long⟩, rfl⟩⟩⟩
    | @source s _ prints given short untaken =>
      obtain ⟨front, printed⟩ := (print_diagnostics_eq_ok format).2 prints
      exact .inr ⟨front, printed, print_summary_eq_error.2 ⟨s, given, .inr ⟨short, untaken, rfl⟩⟩⟩

theorem printJson_eq_error (format : options.format = .json) :
    printJson sink diagnostics summary = .error fault ↔ PrintFails sink options diagnostics summary fault := by
  have prints : Prints sink options diagnostics := .inl format
  constructor
  · intro failed
    rcases bind_eq_error.1 failed with limit | ⟨numerals, -, unprinted⟩
    · obtain ⟨reached, rfl⟩ := Numeral.failWith_eq_error.1 limit
      obtain ⟨n, listed, long⟩ := Numeral.mapM_eq_error.1 reached
      obtain ⟨s, given, written⟩ := List.mem_flatMap.1 listed
      exact .numeral prints (Option.mem_toList.1 given) (by simpa [format, Summary.written] using written) long
    · obtain ⟨⟨line, listed, untaken⟩, -⟩ := Sink.print_eq_error.1 unprinted
      rw [List.mem_singleton.1 listed, takesText_outputJson] at untaken
      cases untaken
  · intro fails
    cases fails with
    | numeral _ given written long =>
      refine bind_eq_error.2 (.inl (Numeral.failWith_eq_error.2 ⟨Numeral.mapM_eq_error.2 ⟨_, ?_, long⟩, rfl⟩))
      rw [format] at written
      exact List.mem_flatMap.2 ⟨_, Option.mem_toList.2 given, written⟩
    | diagnostic text | source text =>
      rw [format] at text
      cases text

theorem printed_eq_error :
    printed sink options diagnostics summary = .error fault ↔ PrintFails sink options diagnostics summary fault := by
  unfold printed
  split
  · next format => exact printText_eq_error format
  · next format => exact printJson_eq_error format

end

end AsmCheck.Command
