import AsmCheck.Proofs.Analysis.Stretches
import AsmCheck.Proofs.Command.Exit

/-! How a run of the command ends. What can be told in words ends the run with an exit code; a file that is not UTF-8, a
numeral beyond the limit, a character that cannot be printed and a few other things do not. All of them are listed here,
and nothing else keeps a run from an exit code. -/

set_option autoImplicit false

namespace AsmCheck.Command

open InstructionSet (LoadError)
open Source (ShortRuns)

/-! ## What keeps a run from its end -/

/-- The source is there and reads as a text. -/
structure SourceReads (folder : Folder) (options : Options) (t : Text) : Prop where
  named : Path.fault? options.source = none
  read : ∃ bytes, folder.openFile (Path.tidy options.source) = .ok bytes ∧ decodeText? bytes = some t

/-- A path that cannot be looked for: the user in it cannot be named or has no home, or one of its names, the first such,
cannot be handed over. -/
inductive PathFaults (folder : Folder) (path : Text) : Fault → Prop where
  | user {user : Text} {fault : Fault} : Path.user? path = some user → Path.fault? user = some fault →
      PathFaults folder path fault
  | home {user : Text} : Path.user? path = some user → Path.fault? user = none →
      (∀ home, folder.home? user = some home → home.head? = some '~') → PathFaults folder path .homeUnknown
  | name {found name : Text} {before after : List Text} {fault : Fault} : folder.expand path = .ok found →
      Path.names found = before ++ name :: after → (∀ other ∈ before, Path.fault? other = none) →
      Path.fault? name = some fault → PathFaults folder path fault

/-- The table is there to be read. -/
structure TableOpens (folder : Folder) (path found : Text) (bytes : ByteArray) : Prop where
  reached : folder.reach path = .ok found
  opened : folder.openResolved found = .ok bytes

/-- A table from which the command gets neither an instruction set nor words to say why. -/
inductive TableFaults (folder : Folder) : Place → Fault → Prop where
  | path {path : Text} {fault : Fault} : PathFaults folder path fault → TableFaults folder (.file path) fault
  | name {path found : Text} : folder.reach path = .ok found → folder.openResolved found = .error .nameTooLong →
      TableFaults folder (.file path) .nameTooLong
  | bytes {path found : Text} {bytes : ByteArray} : TableOpens folder path found bytes → decodeText? bytes = none →
      TableFaults folder (.file path) .notUtf8
  | numeral {path found t : Text} {bytes : ByteArray} : TableOpens folder path found bytes → decodeText? bytes = some t →
      Json.read t = .error .numeral → TableFaults folder (.file path) .numeral
  | depth {path found t : Text} {bytes : ByteArray} : TableOpens folder path found bytes → decodeText? bytes = some t →
      Json.read t = .error .tooDeep → TableFaults folder (.file path) .tooDeep

/-- What keeps a run from an exit code, in the order in which it comes up. -/
inductive Hinders (sink : Sink) (folder : Folder) (options : Options) : Fault → Prop where
  | sourcePath {fault : Fault} : Path.fault? options.source = some fault → Hinders sink folder options fault
  | sourceBytes {bytes : ByteArray} : Path.fault? options.source = none →
      folder.openFile (Path.tidy options.source) = .ok bytes → decodeText? bytes = none →
      Hinders sink folder options .notUtf8
  | table {t : Text} {fault : Fault} : SourceReads folder options t → TableFaults folder options.place fault →
      Hinders sink folder options fault
  | threshold {t : Text} {set : InstructionSet} : SourceReads folder options t → options.place.load folder = .ok set →
      options.threshold = none → Hinders sink folder options .noThreshold
  | limit {t : Text} {set : InstructionSet} : SourceReads folder options t → options.place.load folder = .ok set →
      options.threshold.isSome = true → ReachesLimit options set t → Hinders sink folder options .numeral
  | printing {t : Text} {set : InstructionSet} {diagnostics : List Diagnostic} {summary : Option Summary} {fault : Fault} :
      SourceReads folder options t → options.place.load folder = .ok set →
      ComesToPrint options set t diagnostics summary → PrintFails sink options diagnostics summary fault →
      Hinders sink folder options fault

/-- The source or the table cannot be loaded, and there are words for the reason. -/
inductive LoadFails (folder : Folder) (options : Options) : Prop where
  | source {fault : FileFault} : Path.fault? options.source = none →
      folder.openFile (Path.tidy options.source) = .error fault → LoadFails folder options
  | table {t message : Text} {error : LoadError} : SourceReads folder options t →
      options.place.load folder = .error error → error.message? = some message → LoadFails folder options

/-! ## Loading a table -/

section
variable {folder : Folder} {place : Place} {fault : Fault}

theorem ofBytes_eq_fault {text : Text} {bytes : ByteArray} :
    InstructionSet.ofBytes text bytes = .error (.fault fault) ↔
      decodeText? bytes = none ∧ fault = .notUtf8 ∨ ∃ t, decodeText? bytes = some t ∧
        (Json.read t = .error .numeral ∧ fault = .numeral ∨ Json.read t = .error .tooDeep ∧ fault = .tooDeep) := by
  unfold InstructionSet.ofBytes
  cases decoded : decodeText? bytes with
  | none => simp [eq_comm]
  | some t =>
    cases read : Json.read t with
    | error error => cases error <;> simp [read, eq_comm]
    | ok data => cases checked : InstructionSet.ofJson text data <;> simp [read, checked]

theorem expand_eq_error {path : Text} : folder.expand path = .error fault ↔
    ∃ user, Path.user? path = some user ∧ (Path.fault? user = some fault ∨ Path.fault? user = none ∧
      (∀ home, folder.home? user = some home → home.head? = some '~') ∧ fault = .homeUnknown) := by
  unfold Folder.expand
  cases asked : Path.user? path with
  | none => simp
  | some user =>
    cases named : Path.fault? user with
    | some other => simp [named]
    | none =>
      cases known : folder.home? user with
      | none => simp [named, known, eq_comm]
      | some home =>
        cases home with
        | nil => simp [named, known]
        | cons c rest => by_cases tilde : c = '~' <;> simp [named, known, tilde, eq_comm]

theorem reach_eq_error {path : Text} : folder.reach path = .error fault ↔ PathFaults folder path fault := by
  constructor
  · intro failed
    rcases bind_eq_error.1 failed with failed | ⟨found, expanded, failed⟩
    · obtain ⟨user, asked, named | ⟨named, homeless, rfl⟩⟩ := expand_eq_error.1 failed
      · exact .user asked named
      · exact .home asked named homeless
    · split at failed
      · next other first =>
        cases failed
        obtain ⟨before, name, after, names, faulty, sound⟩ := List.findSome?_eq_some_iff.1 first
        exact .name expanded names sound faulty
      · cases failed
  · intro faults
    cases faults with
    | user asked named => exact bind_eq_error.2 (.inl (expand_eq_error.2 ⟨_, asked, .inl named⟩))
    | home asked named homeless =>
      exact bind_eq_error.2 (.inl (expand_eq_error.2 ⟨_, asked, .inr ⟨named, homeless, rfl⟩⟩))
    | name expanded names sound faulty =>
      refine bind_eq_error.2 (.inr ⟨_, expanded, ?_⟩)
      rw [List.findSome?_eq_some_iff.2 ⟨_, _, _, names, faulty, sound⟩]

theorem load_eq_fault : place.load folder = .error (.fault fault) ↔ TableFaults folder place fault := by
  constructor
  · intro failed
    cases place with
    | bundled => cases failed
    | file path =>
      cases reached : folder.reach path with
      | error other =>
        simp only [Place.load, reached, Except.error.injEq, LoadError.fault.injEq] at failed
        exact .path (reach_eq_error.1 (failed ▸ reached))
      | ok found =>
        simp only [Place.load, reached] at failed
        cases opened : folder.openResolved found with
        | error reason =>
          rw [opened] at failed
          cases reason with
          | nameTooLong =>
            cases failed
            exact .name reached opened
          | missing | notFolder | isFolder => cases failed
        | ok bytes =>
          rw [opened] at failed
          rcases ofBytes_eq_fault.1 failed with ⟨undecoded, rfl⟩ | ⟨t, decoded, ⟨long, rfl⟩ | ⟨deep, rfl⟩⟩
          · exact .bytes ⟨reached, opened⟩ undecoded
          · exact .numeral ⟨reached, opened⟩ decoded long
          · exact .depth ⟨reached, opened⟩ decoded deep
  · intro faults
    cases faults with
    | path faults => simp [Place.load, reach_eq_error.2 faults]
    | name reached opened => simp [Place.load, reached, opened, InstructionSet.load]
    | bytes opens undecoded =>
      simp only [Place.load, opens.reached, opens.opened, InstructionSet.load]
      exact ofBytes_eq_fault.2 (.inl ⟨undecoded, rfl⟩)
    | numeral opens decoded long =>
      simp only [Place.load, opens.reached, opens.opened, InstructionSet.load]
      exact ofBytes_eq_fault.2 (.inr ⟨_, decoded, .inl ⟨long, rfl⟩⟩)
    | depth opens decoded deep =>
      simp only [Place.load, opens.reached, opens.opened, InstructionSet.load]
      exact ofBytes_eq_fault.2 (.inr ⟨_, decoded, .inr ⟨deep, rfl⟩⟩)

end

/-! ## One run -/

section
variable {sink : Sink} {folder : Folder} {arguments : List Text} {options : Options} {t : Text} {fault : Fault} {output : Output}

/-- What the run of the command comes to after its arguments have been read. -/
def checked (sink : Sink) (folder : Folder) (options : Options) : Except Fault Output :=
  check sink options (folder.openFile (Path.tidy options.source)) (options.place.text folder)
    (options.place.load folder)

theorem run_of_parsed (parsed : Options.parse arguments = .ok options) :
    run sink folder arguments = .ofExcept (checked sink folder options) := by
  simp [run, parsed, checked]

theorem SourceReads.checked_of_loaded (reads : SourceReads folder options t) {set : InstructionSet}
    (loaded : options.place.load folder = .ok set) :
    checked sink folder options = checkText sink options set (options.place.text folder) t := by
  obtain ⟨named, bytes, opened, decoded⟩ := reads
  simp [checked, check, named, opened, decoded, loaded]

theorem SourceReads.checked_of_fault (reads : SourceReads folder options t)
    (failed : options.place.load folder = .error (.fault fault)) : checked sink folder options = .error fault := by
  obtain ⟨named, bytes, opened, decoded⟩ := reads
  simp [checked, check, named, opened, decoded, failed]

theorem SourceReads.checked_of_message (reads : SourceReads folder options t) {error : LoadError} {message : Text}
    (failed : options.place.load folder = .error error) (told : error.message? = some message) :
    checked sink folder options = .ok ⟨exitUnloadable, [], Text.terminated [options.table.getD [] ++ ": " ++ message]⟩ := by
  obtain ⟨named, bytes, opened, decoded⟩ := reads
  cases error with
  | fault fault => cases told
  | notFound _ | malformed _ | unreadable _ | schema _ => simp [checked, check, named, opened, decoded, failed, told]

theorem Hinders.checked_eq (hinders : Hinders sink folder options fault) : checked sink folder options = .error fault := by
  cases hinders with
  | sourcePath faulty => simp [checked, check, faulty]
  | sourceBytes named opened undecoded => simp [checked, check, named, opened, undecoded]
  | table reads faults => exact reads.checked_of_fault (load_eq_fault.2 faults)
  | threshold reads loaded none =>
    rw [reads.checked_of_loaded loaded]
    exact checkText_eq_error.2 (.inl ⟨none, rfl⟩)
  | limit reads loaded given reaches =>
    rw [reads.checked_of_loaded loaded]
    exact checkText_eq_error.2 (.inr (.inl ⟨given, reaches, rfl⟩))
  | printing reads loaded comes fails =>
    rw [reads.checked_of_loaded loaded]
    exact checkText_eq_error.2 (.inr (.inr ⟨_, _, comes, fails⟩))

/-- A failure that there are words for ends the run with one line of them. -/
theorem LoadFails.checked_eq (fails : LoadFails folder options) :
    ∃ message, checked sink folder options = .ok ⟨exitUnloadable, [], Text.terminated [message]⟩ := by
  cases fails with
  | @source fault named failed =>
    refine ⟨options.source ++ ": cannot read file: " ++ FileError.message ⟨fault, Path.tidy options.source⟩, ?_⟩
    simp [checked, check, named, failed]
  | table reads failed told => exact ⟨_, reads.checked_of_message failed told⟩

/-- A run is hindered, or it cannot load something and says so, or it comes to the check of a text. -/
theorem checked_cases (sink : Sink) (folder : Folder) (options : Options) :
    (∃ fault, Hinders sink folder options fault) ∨ LoadFails folder options ∨
    ∃ t set output, SourceReads folder options t ∧ options.place.load folder = .ok set ∧
      checkText sink options set (options.place.text folder) t = .ok output := by
  cases named : Path.fault? options.source with
  | some fault => exact .inl ⟨fault, .sourcePath named⟩
  | none =>
    cases opened : folder.openFile (Path.tidy options.source) with
    | error fault => exact .inr (.inl (.source named opened))
    | ok bytes =>
      cases decoded : decodeText? bytes with
      | none => exact .inl ⟨_, .sourceBytes named opened decoded⟩
      | some t =>
        have reads : SourceReads folder options t := ⟨named, bytes, opened, decoded⟩
        cases loaded : options.place.load folder with
        | error error =>
          -- An error without words is a fault.
          cases error with
          | fault fault => exact .inl ⟨fault, .table reads (load_eq_fault.1 loaded)⟩
          | notFound _ | malformed _ | unreadable _ | schema _ => exact .inr (.inl (.table reads loaded rfl))
        | ok set =>
          cases result : checkText sink options set (options.place.text folder) t with
          | ok output => exact .inr (.inr ⟨t, set, output, reads, rfl, result⟩)
          | error fault =>
            rcases checkText_eq_error.1 result with ⟨none, -⟩ | ⟨given, reaches, -⟩ | ⟨_, _, comes, fails⟩
            · exact .inl ⟨_, .threshold reads loaded none⟩
            · exact .inl ⟨_, .limit reads loaded given reaches⟩
            · exact .inl ⟨_, .printing reads loaded comes fails⟩

/-- Only a check that asks for the program can find it unloadable. -/
theorem exit_of_checkText {set : InstructionSet} {place : Text} (done : checkText sink options set place t = .ok output) :
    output.exit = 0 ∨ output.exit = 1 ∨ options.program = true ∧ output.exit = 2 := by
  obtain ⟨-, diagnostics, -, exit⟩ := checkText_eq_ok done
  rw [exit]
  rcases verdict_cases options.program diagnostics t with ⟨⟨asked, -⟩, code⟩ | ⟨-, code⟩
  · exact .inr (.inr ⟨asked, code⟩)
  · rw [code]
    split
    · exact .inr (.inl rfl)
    · exact .inl rfl

/-- A check that does not ask for the program reaches the limit at a long run of digits only. -/
theorem checkText_ne_numeral {set : InstructionSet} {place : Text} (unasked : options.program = false)
    (short : ShortRuns t) : checkText sink options set place t ≠ .error .numeral := by
  intro failed
  obtain ⟨found, analyzed⟩ := Analysis.exists_analyze_of_shortRuns set short
  rcases checkText_eq_error.1 failed with ⟨-, other⟩ | ⟨-, reaches, -⟩ | ⟨diagnostics, summary, comes, fails⟩
  · cases other
  · simp [ReachesLimit, analyzed, unasked] at reaches
  · obtain ⟨-, -, -, -, -, ⟨-, rfl⟩ | ⟨asked, -⟩⟩ := comes
    · cases fails with
      | numeral _ given => cases given
    · simp [unasked] at asked

theorem SourceReads.exists_exit (reads : SourceReads folder options t) {set : InstructionSet}
    (loaded : options.place.load folder = .ok set) (given : options.threshold.isSome = true)
    (unasked : options.program = false) (short : ShortRuns t) (printable : Printable sink options set t) :
    ∃ output, checked sink folder options = .ok output ∧ (output.exit = 0 ∨ output.exit = 1) := by
  rw [reads.checked_of_loaded loaded]
  obtain ⟨output, done⟩ := (exists_checkText_eq_ok (checkText_ne_numeral unasked short)).2 ⟨given, printable⟩
  refine ⟨output, done, ?_⟩
  simpa [unasked] using exit_of_checkText done

theorem exists_exit (free : ∀ fault, ¬Hinders sink folder options fault) :
    ∃ output, checked sink folder options = .ok output ∧ (output.exit = 0 ∨ output.exit = 1 ∨ output.exit = 2) := by
  rcases checked_cases sink folder options with ⟨fault, hinders⟩ | fails | ⟨t, set, output, reads, loaded, done⟩
  · exact absurd hinders (free fault)
  · obtain ⟨message, told⟩ := fails.checked_eq
    exact ⟨_, told, .inr (.inr rfl)⟩
  · refine ⟨output, (reads.checked_of_loaded loaded).trans done, ?_⟩
    rcases exit_of_checkText done with ok | errors | ⟨-, unloadable⟩
    · exact .inl ok
    · exact .inr (.inl errors)
    · exact .inr (.inr unloadable)

theorem checked_eq_error : checked sink folder options = .error fault ↔ Hinders sink folder options fault := by
  constructor
  · intro failed
    by_contra free
    -- Another fault would have ended the run in its own way.
    have none : ∀ other, ¬Hinders sink folder options other := by
      intro other hinders
      cases failed.symm.trans hinders.checked_eq
      exact free hinders
    obtain ⟨output, done, -⟩ := exists_exit none
    cases failed.symm.trans done
  · exact Hinders.checked_eq

end

/-- A run whose arguments are in order ends with one of the exit codes 0, 1 and 2 exactly if none of the things listed
keeps it from that, and otherwise with the fault listed. A source or table that cannot be loaded for a reason that can
be told ends it with 2, nothing on the standard output and one line on the other. Where both are loaded and the program
is not asked for, a text without a long run of digits is checked to the end if the stream takes what is printed. -/
theorem run_ends_unless_hindered {sink : Sink} {folder : Folder} {arguments : List Text} {options : Options}
    (parsed : Options.parse arguments = .ok options) :
    (∀ fault, run sink folder arguments = .faulted fault ↔ Hinders sink folder options fault) ∧
    ((∃ output, run sink folder arguments = .finished output ∧
        (output.exit = 0 ∨ output.exit = 1 ∨ output.exit = 2)) ↔ ∀ fault, ¬Hinders sink folder options fault) ∧
    (LoadFails folder options → ∃ line, run sink folder arguments = .finished ⟨2, [], Text.terminated [line]⟩) ∧
    (∀ t set, SourceReads folder options t → options.place.load folder = .ok set → options.threshold.isSome = true →
      options.program = false → ShortRuns t → Printable sink options set t →
      ∃ output, run sink folder arguments = .finished output ∧ (output.exit = 0 ∨ output.exit = 1)) := by
  simp only [run_of_parsed parsed, ofExcept_eq_faulted, ofExcept_eq_finished]
  refine ⟨fun fault => checked_eq_error, ⟨?_, exists_exit⟩, LoadFails.checked_eq,
    fun t set reads => reads.exists_exit⟩
  rintro ⟨output, done, -⟩ fault hinders
  cases done.symm.trans hinders.checked_eq

/-- A source file and a table beside it. -/
def folderWith (source table : List UInt8) : Folder where
  location := "/w"
  entries := [(["w", "a.asm"], .file ⟨source.toArray⟩), (["w", "t.json"], .file ⟨table.toArray⟩)]

/-- A table that is no object is told of. -/
theorem run_ends_bad_table :
    Options.parse ["a.asm", "--table", "t.json"] = .ok { source := "a.asm", table := some "t.json" } ∧
      ∃ line, run .utf8 (folderWith [0x52, 0x45, 0x54] [0x5B, 0x5D]) ["a.asm", "--table", "t.json"] =
        .finished ⟨2, [], Text.terminated [line]⟩ := by
  have parsed : Options.parse ["a.asm", "--table", "t.json"] = .ok { source := "a.asm", table := some "t.json" } := by
    decide +kernel
  have reads : SourceReads (folderWith [0x52, 0x45, 0x54] [0x5B, 0x5D]) { source := "a.asm", table := some "t.json" }
      "RET" := ⟨by decide +kernel, _, rfl, by decide +kernel⟩
  have failed : (Options.place { source := "a.asm", table := some "t.json" }).load
      (folderWith [0x52, 0x45, 0x54] [0x5B, 0x5D]) = .error (.schema .notObject) := by
    decide +kernel
  exact ⟨parsed, (run_ends_unless_hindered parsed).2.2.1 (.table reads failed rfl)⟩

/-- A source that is no UTF-8 text is not. -/
theorem run_faults_undecodable_source :
    Options.parse ["a.asm"] = .ok { source := "a.asm" } ∧
      run .utf8 (folderWith [0xFF] []) ["a.asm"] = .faulted .notUtf8 := by
  decide +kernel

end AsmCheck.Command
