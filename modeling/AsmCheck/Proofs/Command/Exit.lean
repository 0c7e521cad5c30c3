import AsmCheck.Proofs.Analysis.Reports
import AsmCheck.Proofs.Assembly.Placement
import AsmCheck.Proofs.Command.Printing

/-! The exit code of the command. It is counted from the diagnostics that are shown, but no threshold hides an error,
so a run that finishes has an exit code that hangs on the text and the instruction set alone, and on whether the program
is asked for. Threshold and format decide whether it finishes: there has to be a threshold, and the stream has to take
the lines that are printed. -/

set_option autoImplicit false

namespace AsmCheck.Command

open Assembly (assemble Failure)

/-! ## Diagnostics that are shown -/

theorem rank_error_le (threshold : Severity) : Severity.error.rank ≤ threshold.rank := by
  cases threshold <;> decide

theorem hasErrors_shownDiagnostics (threshold : Severity) (diagnostics : List Diagnostic) :
    hasErrors (shownDiagnostics threshold diagnostics) = hasErrors diagnostics := by
  simp only [hasErrors, shownDiagnostics, List.any_filter]
  congr 1
  funext d
  cases severity : d.severity with
  | error => simp [Diagnostic.isError, severity, rank_error_le]
  | warning | information | hint => simp [Diagnostic.isError, severity]

/-! ## One check -/

/-- The exit code that a check comes to. -/
def verdict (program : Bool) (diagnostics : List Diagnostic) (assembled : Except Failure Program) : Nat :=
  match program, assembled with
  | true, .error (.rejected _) => exitUnloadable
  | _, _ => if hasErrors diagnostics then exitErrors else exitOk

section
variable {sink : Sink} {options : Options} {before : List Text} {diagnostics : List Diagnostic}
  {summary : Option Summary}

theorem finish_eq_ok {output : Output} (finished : finish sink options before diagnostics summary = .ok output) :
    output.exit = if hasErrors diagnostics then exitErrors else exitOk := by
  obtain ⟨stdout, -, result⟩ := bind_eq_ok.1 finished
  cases result
  rfl

theorem finish_eq_error {fault : Fault} : finish sink options before diagnostics summary = .error fault ↔
    PrintFails sink options diagnostics summary fault := by
  simp only [finish, bind_eq_error, reduceCtorEq, and_false, exists_false, or_false, printed_eq_error]

end

/-- Assembly stops at a line of the text. -/
def Rejects (t : Text) : Prop := ∃ r, (assemble t).program = .error (.rejected r)

/-- A check comes as far as printing these diagnostics, and this summary where the program is asked for. -/
def ComesToPrint (options : Options) (set : InstructionSet) (t : Text) (diagnostics : List Diagnostic)
    (summary : Option Summary) : Prop :=
  ∃ threshold found, options.threshold = some threshold ∧ analyze set t = .ok found ∧
    diagnostics = shownDiagnostics threshold found ∧
    (options.program = false ∧ summary = none ∨ options.program = true ∧ ∃ p width height,
      (assemble t).program = .ok p ∧ p.displaySize = .ok (width, height) ∧ summary = some ⟨p, width, height⟩)

/-- A decimal numeral goes beyond the limit in the analysis, or, where the program is asked for, in assembling it or in
finding its display. -/
def ReachesLimit (options : Options) (set : InstructionSet) (t : Text) : Prop :=
  analyze set t = .error ⟨⟩ ∨ options.program = true ∧
    ((assemble t).program = .error .numeral ∨ ∃ p, (assemble t).program = .ok p ∧ p.displaySize = .error ⟨⟩)

section
variable {sink : Sink} {options : Options} {set : InstructionSet} {place t : Text}

theorem checkText_eq_ok {output : Output} (checked : checkText sink options set place t = .ok output) :
    options.threshold.isSome = true ∧ ∃ diagnostics, analyze set t = .ok diagnostics ∧
      output.exit = verdict options.program diagnostics (assemble t).program := by
  unfold checkText at checked
  cases given : options.threshold with
  | none => simp [given] at checked
  | some threshold =>
    simp only [given, bind_eq_ok, Numeral.failWith_eq_ok] at checked
    obtain ⟨analysis, analyzed, checked⟩ := checked
    refine ⟨rfl, analysis.diagnostics, Analysis.analyze_eq_ok.2 ⟨analysis, analyzed, rfl⟩, ?_⟩
    split at checked
    · next asked =>
      split at checked
      · cases checked
      · next rejected =>
        cases checked
        simp only [verdict, asked, rejected]
      · next assembled =>
        obtain ⟨summary, -, finished⟩ := bind_eq_ok.1 checked
        rw [finish_eq_ok finished, hasErrors_shownDiagnostics]
        simp only [verdict, asked, assembled]
    · next unasked =>
      rw [finish_eq_ok checked, hasErrors_shownDiagnostics]
      simp only [verdict, unasked]

theorem analyze_eq_error {e : Numeral.TooLong} : analyze set t = .error e ↔ Analysis.ofText set t = .error e := by
  simp only [analyze, bind_eq_error, reduceCtorEq, and_false, exists_false, or_false]

/-- A check of a text goes wrong without a threshold, at the limit of numerals or in printing, and in no other way. -/
theorem checkText_eq_error {fault : Fault} :
    checkText sink options set place t = .error fault ↔
      options.threshold = none ∧ fault = .noThreshold ∨
      options.threshold.isSome = true ∧ ReachesLimit options set t ∧ fault = .numeral ∨
      ∃ diagnostics summary, ComesToPrint options set t diagnostics summary ∧
        PrintFails sink options diagnostics summary fault := by
  unfold checkText ComesToPrint
  cases given : options.threshold with
  | none =>
    simp only [Except.error.injEq, reduceCtorEq, false_and, exists_false, or_false, true_and, Option.isSome_none,
      Bool.false_eq_true]
    exact eq_comm
  | some threshold =>
    simp only [reduceCtorEq, false_and, false_or, Option.isSome_some, true_and, ReachesLimit, Option.some.injEq]
    cases analyzed : Analysis.ofText set t with
    | error e =>
      simp only [Numeral.failWith, bind, Except.bind, analyze_eq_error.2 analyzed, Except.error.injEq, true_or, true_and,
        reduceCtorEq, false_and, and_false, exists_false, or_false]
      exact eq_comm
    | ok analysis =>
      have found : analyze set t = .ok analysis.diagnostics := Analysis.analyze_eq_ok.2 ⟨analysis, analyzed, rfl⟩
      cases asked : options.program with
      | false => simp [Numeral.failWith, bind, Except.bind, finish_eq_error, found]
      | true =>
        cases assembled : (assemble t).program with
        | error failure =>
          cases failure with
          | numeral => simp [Numeral.failWith, bind, Except.bind, found, eq_comm]
          | rejected r => simp [Numeral.failWith, bind, Except.bind, found]
        | ok p =>
          cases sized : p.displaySize with
          | error e => simp [Numeral.failWith, bind, Except.bind, summarize, sized, found, eq_comm]
          | ok size =>
            obtain ⟨width, height⟩ := size
            simp [Numeral.failWith, bind, Except.bind, summarize, sized, finish_eq_error, found]

end

/-! ## Rejection is an error -/

theorem severity_of_isMisplacement {issue : Analysis.Issue} (misplaced : issue.isMisplacement = true) :
    issue.severity = .error := by
  unfold Analysis.Issue.isMisplacement at misplaced
  split at misplaced
  · rfl
  · rfl
  · cases misplaced

/-- What assembly rejects, the analysis has called an error. -/
theorem hasErrors_of_rejected {set : InstructionSet} {t : Text} {diagnostics : List Diagnostic}
    {r : Assembly.Rejection} (analyzed : analyze set t = .ok diagnostics)
    (rejected : (assemble t).program = .error (.rejected r)) : hasErrors diagnostics = true := by
  obtain ⟨analysis, whole, rfl⟩ := Analysis.analyze_eq_ok.1 analyzed
  have sorted := Source.numberFrom_sorted none 0 (Text.lines t)
  obtain ⟨-, first⟩ := Assembly.run_misplacements sorted (s := {}) (Analysis.ofText_eq_ok whole)
  obtain ⟨report, member, misplaced, -⟩ := (first r (Assembly.program_eq_error.1 rejected)).1
  rw [hasErrors, List.any_eq_true]
  refine ⟨report.diagnostic, List.mem_map_of_mem ?_, ?_⟩
  · simp [Analysis.reports, member]
  · simp [Diagnostic.isError, Analysis.Report.diagnostic, severity_of_isMisplacement misplaced]

/-! ## What a stream takes -/

/-- Nothing that is printed is too much for the stream: it is JSON, or the text is rejected before anything is printed,
or the stream takes the lines of all diagnostics that are shown and, for the line of a program, the name of the source. -/
def Printable (sink : Sink) (options : Options) (set : InstructionSet) (t : Text) : Prop :=
  options.format = .json ∨ (options.program = true ∧ Rejects t) ∨
    (∀ threshold found, options.threshold = some threshold → analyze set t = .ok found →
      ∀ d ∈ shownDiagnostics threshold found, sink.takesText (diagnosticLine options.source d) = true) ∧
    (options.program = true → sink.takesText options.source = true)

section
variable {sink : Sink} {options : Options} {set : InstructionSet} {t : Text} {diagnostics : List Diagnostic}
  {summary : Option Summary}

theorem ComesToPrint.not_rejects (comes : ComesToPrint options set t diagnostics summary) :
    ¬(options.program = true ∧ Rejects t) := by
  rintro ⟨asked, r, rejected⟩
  obtain ⟨-, -, -, -, -, ⟨unasked, -⟩ | ⟨-, p, -, -, assembled, -⟩⟩ := comes
  · simp [unasked] at asked
  · simp [rejected] at assembled

theorem Printable.takes_lines (printable : Printable sink options set t)
    (comes : ComesToPrint options set t diagnostics summary) (format : options.format = .text) :
    (∀ d ∈ diagnostics, sink.takesText (diagnosticLine options.source d) = true) ∧
      (summary.isSome = true → sink.takesText options.source = true) := by
  rcases printable with json | rejected | ⟨lines, source⟩
  · simp [json] at format
  · exact absurd rejected comes.not_rejects
  · obtain ⟨threshold, found, given, analyzed, rfl, ⟨-, rfl⟩ | ⟨asked, -⟩⟩ := comes
    · exact ⟨lines threshold found given analyzed, by simp⟩
    · exact ⟨lines threshold found given analyzed, fun _ => source asked⟩

theorem Printable.not_unencodable (printable : Printable sink options set t)
    (comes : ComesToPrint options set t diagnostics summary) :
    ¬PrintFails sink options diagnostics summary .unencodable := by
  intro fails
  cases fails with
  | diagnostic format member untaken =>
    have taken := (printable.takes_lines comes format).1 _ member
    simp [untaken] at taken
  | source format _ given _ untaken =>
    have taken := (printable.takes_lines comes format).2 (by simp [given])
    simp [untaken] at taken

/-- A check that is not cut short comes to print what the stream is able to take, or the text is rejected. -/
theorem comesToPrint_or_rejects {threshold : Severity} {found : List Diagnostic} (given : options.threshold = some threshold)
    (analyzed : analyze set t = .ok found) (within : ¬ReachesLimit options set t) :
    (options.program = true ∧ Rejects t) ∨
      ∃ summary, ComesToPrint options set t (shownDiagnostics threshold found) summary ∧
        (options.program = true → summary.isSome = true) := by
  cases asked : options.program with
  | false => exact .inr ⟨none, ⟨threshold, found, given, analyzed, rfl, .inl ⟨asked, rfl⟩⟩, by simp⟩
  | true =>
    cases assembled : (assemble t).program with
    | error failure =>
      cases failure with
      | numeral => exact absurd (.inr ⟨asked, .inl assembled⟩) within
      | rejected r => exact .inl ⟨rfl, r, assembled⟩
    | ok p =>
      cases sized : p.displaySize with
      | error e => exact absurd (.inr ⟨asked, .inr ⟨p, assembled, sized⟩⟩) within
      | ok size =>
        exact .inr ⟨some ⟨p, size.1, size.2⟩, ⟨threshold, found, given, analyzed, rfl,
          .inr ⟨asked, p, size.1, size.2, assembled, sized, rfl⟩⟩, fun _ => rfl⟩

/-- What is printed without a failure was printable. -/
theorem printable_of_not_printFails {threshold : Severity} {found : List Diagnostic}
    (given : options.threshold = some threshold) (analyzed : analyze set t = .ok found)
    (within : ¬ReachesLimit options set t)
    (printed : ∀ diagnostics summary fault, ComesToPrint options set t diagnostics summary →
      ¬PrintFails sink options diagnostics summary fault) : Printable sink options set t := by
  cases format : options.format with
  | json => exact .inl format
  | text =>
    -- A line that the stream does not take would have been a failure of its own.
    rcases comesToPrint_or_rejects given analyzed within with rejected | ⟨summary, comes, shown⟩
    · exact .inr (.inl rejected)
    have lines : ∀ d ∈ shownDiagnostics threshold found, sink.takesText (diagnosticLine options.source d) = true := by
      intro d member
      by_contra untaken
      exact printed _ _ _ comes (.diagnostic format member (by simpa using untaken))
    refine .inr (.inr ⟨?_, ?_⟩)
    · intro threshold' found' given' analyzed'
      cases given.symm.trans given'
      cases analyzed.symm.trans analyzed'
      exact lines
    · intro asked
      obtain ⟨s, summarized⟩ := Option.isSome_iff_exists.1 (shown asked)
      by_contra untaken
      refine printed _ _ _ comes (.source format (.inr lines) summarized ?_ (by simpa using untaken))
      intro n listed long
      exact printed _ _ _ comes (.numeral (.inr lines) summarized (format ▸ listed) long)

/-- A check is printed to the end exactly if it has a threshold and nothing in it is too much for the stream, unless a
numeral is too long. -/
theorem exists_checkText_eq_ok {place : Text} (converted : checkText sink options set place t ≠ .error .numeral) :
    (∃ output, checkText sink options set place t = .ok output) ↔
      options.threshold.isSome = true ∧ Printable sink options set t := by
  constructor
  · rintro ⟨output, checked⟩
    obtain ⟨given, found, analyzed, -⟩ := checkText_eq_ok checked
    obtain ⟨threshold, chosen⟩ := Option.isSome_iff_exists.1 given
    have clean (fault : Fault) : checkText sink options set place t ≠ .error fault := by simp [checked]
    refine ⟨given, printable_of_not_printFails chosen analyzed ?_ ?_⟩
    · intro reaches
      exact clean _ (checkText_eq_error.2 (.inr (.inl ⟨given, reaches, rfl⟩)))
    · intro diagnostics summary fault comes fails
      exact clean _ (checkText_eq_error.2 (.inr (.inr ⟨diagnostics, summary, comes, fails⟩)))
  · rintro ⟨given, printable⟩
    cases checked : checkText sink options set place t with
    | ok output => exact ⟨output, rfl⟩
    | error fault =>
      rcases checkText_eq_error.1 checked with ⟨none, -⟩ | ⟨-, -, rfl⟩ | ⟨diagnostics, summary, comes, fails⟩
      · simp [none] at given
      · exact absurd checked converted
      · cases fault with
        | numeral => exact absurd checked converted
        | unencodable => exact absurd fails (printable.not_unencodable comes)
        | _ => cases fails

end

/-! ## Runs of the command -/

/-- The arguments lead to these options, and the files they name to a text and an instruction set. -/
structure Opens (folder : Folder) (arguments : List Text) (options : Options) (t : Text) (set : InstructionSet) :
    Prop where
  parsed : Options.parse arguments = .ok options
  named : Path.fault? options.source = none
  read : ∃ bytes, folder.openFile (Path.tidy options.source) = .ok bytes ∧ decodeText? bytes = some t
  loaded : options.place.load folder = .ok set

section
variable {sink : Sink} {folder : Folder} {arguments : List Text} {options : Options} {t : Text} {set : InstructionSet}

theorem Opens.run_eq (opens : Opens folder arguments options t set) :
    run sink folder arguments = .ofExcept (checkText sink options set (options.place.text folder) t) := by
  obtain ⟨parsed, named, ⟨bytes, found, decoded⟩, loaded⟩ := opens
  simp [run, parsed, check, named, found, decoded, loaded]

theorem ofExcept_eq_faulted {result : Except Fault Output} {fault : Fault} :
    Outcome.ofExcept result = .faulted fault ↔ result = .error fault := by
  cases result <;> simp [Outcome.ofExcept]

theorem ofExcept_eq_finished {result : Except Fault Output} {output : Output} :
    Outcome.ofExcept result = .finished output ↔ result = .ok output := by
  cases result <;> simp [Outcome.ofExcept]

/-- The exit code of a run that finishes is the verdict on text and instruction set. -/
theorem Opens.finished (opens : Opens folder arguments options t set) {output : Output}
    (ran : run sink folder arguments = .finished output) :
    ∃ diagnostics, analyze set t = .ok diagnostics ∧
      output.exit = verdict options.program diagnostics (assemble t).program := by
  rw [opens.run_eq, ofExcept_eq_finished] at ran
  exact (checkText_eq_ok ran).2

/-- Apart from numerals that are too long, a threshold and the stream decide whether a run finishes. -/
theorem Opens.exists_finished (opens : Opens folder arguments options t set)
    (converted : run sink folder arguments ≠ .faulted .numeral) :
    (∃ output, run sink folder arguments = .finished output) ↔
      options.threshold.isSome = true ∧ Printable sink options set t := by
  rw [opens.run_eq, ne_eq, ofExcept_eq_faulted] at converted
  simp only [opens.run_eq, ofExcept_eq_finished]
  exact exists_checkText_eq_ok converted

end

/-- The analysis of the text has an error among its diagnostics. -/
def FindsErrors (set : InstructionSet) (t : Text) : Prop :=
  ∃ diagnostics, analyze set t = .ok diagnostics ∧ hasErrors diagnostics = true

section
variable {program : Bool} {diagnostics : List Diagnostic} {t : Text}

theorem verdict_cases (program : Bool) (diagnostics : List Diagnostic) (t : Text) :
    (program = true ∧ Rejects t) ∧ verdict program diagnostics (assemble t).program = 2 ∨
      ¬(program = true ∧ Rejects t) ∧
        verdict program diagnostics (assemble t).program = if hasErrors diagnostics then 1 else 0 := by
  by_cases unloadable : program = true ∧ Rejects t
  · obtain ⟨rfl, r, rejected⟩ := unloadable
    exact .inl ⟨⟨rfl, r, rejected⟩, by simp [verdict, rejected, exitUnloadable]⟩
  · refine .inr ⟨unloadable, ?_⟩
    unfold verdict
    split
    · next rejected => exact absurd ⟨rfl, _, rejected⟩ unloadable
    · rfl

theorem verdict_eq_two : verdict program diagnostics (assemble t).program = 2 ↔ program = true ∧ Rejects t := by
  rcases verdict_cases program diagnostics t with ⟨unloadable, code⟩ | ⟨loads, code⟩
  · rw [code]
    simp [unloadable]
  · simp only [code, loads, iff_false]
    split <;> decide

theorem verdict_eq_one :
    verdict program diagnostics (assemble t).program = 1 ↔
      ¬(program = true ∧ Rejects t) ∧ hasErrors diagnostics = true := by
  rcases verdict_cases program diagnostics t with ⟨unloadable, code⟩ | ⟨loads, code⟩
  · rw [code]
    simp [unloadable]
  · cases errors : hasErrors diagnostics <;> simp [code, loads, errors]

theorem verdict_eq_zero :
    verdict program diagnostics (assemble t).program = 0 ↔
      ¬(program = true ∧ Rejects t) ∧ ¬hasErrors diagnostics = true := by
  rcases verdict_cases program diagnostics t with ⟨unloadable, code⟩ | ⟨loads, code⟩
  · rw [code]
    simp [unloadable]
  · cases errors : hasErrors diagnostics <;> simp [code, loads, errors]

end

/-- A run that is told a threshold finishes if the stream takes what it prints. It exits with 2 if the program is asked
for and the text is rejected, otherwise with 1 if the analysis has found an error, and otherwise with 0. Threshold,
format, verbosity and stream have no part in the exit code of a run that finishes, and where the check alone exits with
0, the check with the program does so too. -/
theorem exit_code_decided_by_text {sink : Sink} {folder : Folder} {arguments : List Text} {options : Options} {t : Text}
    {set : InstructionSet} (opens : Opens folder arguments options t set)
    (converted : run sink folder arguments ≠ .faulted .numeral) :
    ((∃ output, run sink folder arguments = .finished output) ↔
      options.threshold.isSome = true ∧ Printable sink options set t) ∧
    ∀ output, run sink folder arguments = .finished output →
      (output.exit = 2 ↔ options.program = true ∧ Rejects t) ∧
      (output.exit = 1 ↔ ¬(options.program = true ∧ Rejects t) ∧ FindsErrors set t) ∧
      (output.exit = 0 ↔ ¬(options.program = true ∧ Rejects t) ∧ ¬FindsErrors set t) ∧
      ∀ stream others other, Opens folder others other t set → run stream folder others ≠ .faulted .numeral →
        other.threshold.isSome = true → Printable stream other set t →
        ∃ result, run stream folder others = .finished result ∧
          (other.program = options.program → result.exit = output.exit) ∧
          (options.program = false → output.exit = 0 → result.exit = 0) := by
  refine ⟨opens.exists_finished converted, ?_⟩
  intro output ran
  obtain ⟨diagnostics, analyzed, exit⟩ := opens.finished ran
  have errors : FindsErrors set t ↔ hasErrors diagnostics = true := by simp [FindsErrors, analyzed]
  rw [exit, errors]
  refine ⟨verdict_eq_two, verdict_eq_one, verdict_eq_zero, ?_⟩
  intro stream others other opens' converted' given printable
  obtain ⟨result, ran'⟩ := (opens'.exists_finished converted').2 ⟨given, printable⟩
  obtain ⟨found, analyzed', exit'⟩ := opens'.finished ran'
  cases analyzed.symm.trans analyzed'
  refine ⟨result, ran', fun same => by rw [exit', same], ?_⟩
  intro unasked clean
  have noErrors := (verdict_eq_zero.1 clean).2
  -- Without an error there is nothing that assembly could have rejected.
  have loads : ¬Rejects t := by
    rintro ⟨r, rejected⟩
    exact noErrors (hasErrors_of_rejected analyzed rejected)
  rw [exit']
  exact verdict_eq_zero.2 ⟨fun unloadable => loads unloadable.2, noErrors⟩

/-- A folder that holds one source file. -/
def folderOf (content : String) : Folder := { location := "/w", entries := [(["w", "a.asm"], .file content.toUTF8)] }

/-- A text with a warning and no error passes with the program as it does without it, whatever is shown. -/
theorem exit_code_warning_only :
    run .utf8 (folderOf "RET\n") ["a.asm"] = .finished ⟨0,
      "a.asm:1:1: warning: RET instruction outside of function context (no preceding CALL target) [asm-flow]\n", []⟩ ∧
    ∃ result, run .utf8 (folderOf "RET\n") ["-vv", "--format=json", "--min-severity", "error", "a.asm", "--program"] =
      .finished result ∧ result.exit = 0 := by
  have opens : Opens (folderOf "RET\n") ["a.asm"] ⟨"a.asm", none, .text, some .hint, false, 0⟩ "RET\n"
      InstructionSet.bundled := ⟨by decide +kernel, by decide +kernel, ⟨_, rfl, by decide +kernel⟩, rfl⟩
  have others : Opens (folderOf "RET\n") ["-vv", "--format=json", "--min-severity", "error", "a.asm", "--program"]
      ⟨"a.asm", none, .json, some .error, true, 2⟩ "RET\n" InstructionSet.bundled :=
    ⟨by decide +kernel, by decide +kernel, ⟨_, rfl, by decide +kernel⟩, rfl⟩
  have ran : run .utf8 (folderOf "RET\n") ["a.asm"] = .finished ⟨0,
      "a.asm:1:1: warning: RET instruction outside of function context (no preceding CALL target) [asm-flow]\n", []⟩ := by
    decide +kernel
  have converted : run .utf8 (folderOf "RET\n") ["a.asm"] ≠ .faulted .numeral := by simp [ran]
  have converted' :
      run .utf8 (folderOf "RET\n") ["-vv", "--format=json", "--min-severity", "error", "a.asm", "--program"] ≠
        .faulted .numeral := by decide +kernel
  have decided := (exit_code_decided_by_text opens converted).2 _ ran
  obtain ⟨result, ran', -, passes⟩ := decided.2.2.2 .utf8 _ _ others converted' rfl (.inl rfl)
  exact ⟨ran, result, ran', passes rfl rfl⟩

/-- A table whose only register has a surrogate for its name, which JSON can spell. -/
def surrogateTable : String :=
  "\x7b\"schema_version\": 1, \"name\": \"S\", \"registers\": [\x7b\"name\": \"\\ud800\"\x7d], " ++
  "\"instructions\": [\x7b\"mnemonic\": \"MOV\", \"summary\": \"Move\", \"operands\": 2\x7d]\x7d"

def surrogateFolder : Folder where
  location := "/w"
  entries := [(["w", "a.asm"], .file "MOV ECX, 1".toUTF8), (["w", "t.json"], .file surrogateTable.toUTF8)]

def surrogateSet : InstructionSet :=
  ⟨.int 1, "S", [], [⟨[.surrogate 0], []⟩], [], [⟨"MOV", "Move", "MOV", .exactly 2, false, [], [], 1⟩]⟩

def surrogateOptions (format : Format) : Options := { source := "a.asm", table := some "t.json", format }

/-- The message that lists the registers cannot be printed as text in UTF-8, so there is no exit code, and in JSON there
is one. Nor is there one if the threshold is taken away. -/
theorem exit_code_lost_in_printing :
    Opens surrogateFolder ["a.asm", "--table", "t.json"] (surrogateOptions .text) "MOV ECX, 1" surrogateSet ∧
    run .utf8 surrogateFolder ["a.asm", "--table", "t.json"] = .faulted .unencodable ∧
    (∃ output, run .utf8 surrogateFolder ["a.asm", "--table", "t.json", "--format", "json"] = .finished output ∧
      output.exit = 1) ∧
    run .utf8 surrogateFolder ["a.asm", "--table", "t.json", "--format", "json", "--min-severity=--"] =
      .faulted .noThreshold := by
  have loaded : (Place.file "t.json").load surrogateFolder = .ok surrogateSet := by decide +kernel
  have read : ∃ bytes, surrogateFolder.openFile "a.asm" = .ok bytes ∧ decodeText? bytes = some "MOV ECX, 1" :=
    ⟨_, rfl, by decide +kernel⟩
  have text : Opens surrogateFolder ["a.asm", "--table", "t.json"] (surrogateOptions .text) "MOV ECX, 1"
      surrogateSet := ⟨by decide +kernel, by decide +kernel, read, loaded⟩
  have json : Opens surrogateFolder ["a.asm", "--table", "t.json", "--format", "json"] (surrogateOptions .json)
      "MOV ECX, 1" surrogateSet := ⟨by decide +kernel, by decide +kernel, read, loaded⟩
  have unlimited : Opens surrogateFolder ["a.asm", "--table", "t.json", "--format", "json", "--min-severity=--"]
      { surrogateOptions .json with threshold := none } "MOV ECX, 1" surrogateSet :=
    ⟨by decide +kernel, by decide +kernel, read, loaded⟩
  have exit : (checkText .utf8 (surrogateOptions .json) surrogateSet
      ((surrogateOptions .json).place.text surrogateFolder) "MOV ECX, 1").map Output.exit = .ok 1 := by decide +kernel
  refine ⟨text, ?_, ?_, ?_⟩
  · rw [text.run_eq, ofExcept_eq_faulted]
    decide +kernel
  · simp only [json.run_eq, ofExcept_eq_finished]
    cases checked : checkText .utf8 (surrogateOptions .json) surrogateSet
        ((surrogateOptions .json).place.text surrogateFolder) "MOV ECX, 1" with
    | error fault => simp [checked, Except.map] at exit
    | ok output => exact ⟨output, rfl, by simpa [checked, Except.map] using exit⟩
  · rw [unlimited.run_eq, ofExcept_eq_faulted]
    decide +kernel

end AsmCheck.Command
