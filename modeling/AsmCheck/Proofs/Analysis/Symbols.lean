import AsmCheck.Proofs.Analysis.Routines
import Mathlib.Data.List.Induction
import Mathlib.Data.List.Nodup

/-! The symbols of a source text. Each name is listed with the lines that define it and no others, and each line that
defines a name again, or first of several times, is reported with the numbers of all the others. -/

set_option autoImplicit false

namespace AsmCheck

namespace Source

/-- The name of a constant that is well defined. -/
def Statement.constant? : Statement → Option Text
  | .constant name _ => some name
  | _ => none

theorem Statement.label?_of_constant? {s : Statement} {name : Text} (defines : s.constant? = some name) :
    s.label? = none := by
  cases s with
  | constant _ _ => rfl
  | _ => cases defines

end Source

namespace Analysis

open Source (Line Statement)

/-! ## Grouping -/

namespace Symbols

/-- The lines with a name are put under it in their order, and names stand in the order of their first line. -/
structure Groups (name? : Statement → Option Text) (lines : List Line) (bindings : Bindings (List Line)) : Prop where
  names : FirstOccurrences (lines.filterMap fun line => name? line.statement) bindings.names
  held : ∀ name, (bindings.get? name).getD [] = lines.filter fun line => name? line.statement = some name

variable {name? : Statement → Option Text} {lines defining : List Line} {bindings : Bindings (List Line)} {line : Line}
  {name : Text}

theorem Groups.skip (groups : Groups name? lines bindings) (unnamed : name? line.statement = none) :
    Groups name? (lines ++ [line]) bindings where
  names := by simpa [unnamed] using groups.names
  held name := by simpa [unnamed] using groups.held name

theorem Groups.addLine (groups : Groups name? lines bindings) (named : name? line.statement = some name) :
    Groups name? (lines ++ [line]) (addLine bindings name line) where
  names := by
    have listed : (Symbols.addLine bindings name line).names = Routine.addNew name bindings.names :=
      Bindings.names_alter
    rw [listed, List.filterMap_append]
    simpa [named] using groups.names.addNew name
  held other := by
    rw [Symbols.addLine, List.filter_append, ← groups.held]
    by_cases same : other = name
    · subst same
      rw [Bindings.get?_alter_self, Option.getD_some]
      simp [named]
    · rw [Bindings.get?_alter_of_ne same]
      simp [named, Ne.symm same]

/-- What is bound to a name is just the lines that have it. -/
theorem Groups.eq_filter (groups : Groups name? lines bindings) (bound : (name, defining) ∈ bindings) :
    defining = lines.filter fun line => name? line.statement = some name := by
  rw [← groups.held, Bindings.get?_of_mem groups.names.nodup bound, Option.getD_some]

/-- Labels and constants are kept apart, and a line has at most one of the two. -/
theorem groups_ofLines (lines : List Line) :
    Groups Statement.label? lines (ofLines lines).labels ∧ Groups Statement.constant? lines (ofLines lines).constants := by
  induction lines using List.reverseRecOn with
  | nil => exact ⟨⟨.nil, fun _ => rfl⟩, ⟨.nil, fun _ => rfl⟩⟩
  | append_singleton lines line ih =>
    obtain ⟨labels, constants⟩ := ih
    rw [ofLines, List.foldl_append, List.foldl_cons, List.foldl_nil]
    unfold add
    split
    · next statement => exact ⟨labels.skip (by rw [statement]; rfl), constants.addLine (by rw [statement]; rfl)⟩
    · next other =>
      have undefined : line.statement.constant? = none := by
        cases statement : line.statement with
        | constant name value => exact absurd statement (other name value)
        | _ => rfl
      split
      · next labelled => exact ⟨labels.addLine labelled, constants.skip undefined⟩
      · next unlabelled => exact ⟨labels.skip unlabelled, constants.skip undefined⟩

end Symbols

/-! ## Places of definitions -/

/-- The name that the line at a position defines. -/
def nameAt? (name? : Statement → Option Text) (texts : List Text) (i : Nat) : Option Text :=
  texts[i]?.bind fun t => name? (Source.classify t)

/-- The positions of the lines that define a name. -/
def definedAt (name? : Statement → Option Text) (texts : List Text) (name : Text) : List Nat :=
  (List.range texts.length).filter fun i => nameAt? name? texts i = some name

/-- Names stand in the order of their first definition, each with the numbers of all lines that define it. -/
structure Lists (texts : List Text) (name? : Statement → Option Text) (bindings : Bindings (List Line)) : Prop where
  names : FirstOccurrences (texts.filterMap fun t => name? (Source.classify t)) bindings.names
  ordered : ∀ name lines, (name, lines) ∈ bindings → (lines.map Line.index).Pairwise (· < ·)
  places : ∀ name lines, (name, lines) ∈ bindings → ∀ i, i ∈ lines.map Line.index ↔ nameAt? name? texts i = some name

variable {name? : Statement → Option Text} {texts : List Text} {bindings : Bindings (List Line)} {name : Text} {i : Nat}

theorem mem_definedAt : i ∈ definedAt name? texts name ↔ nameAt? name? texts i = some name := by
  rw [definedAt, List.mem_filter, List.mem_range, decide_eq_true_eq, and_iff_right_iff_imp]
  intro named
  obtain ⟨t, found, -⟩ := Option.bind_eq_some_iff.1 named
  exact (List.getElem?_eq_some_iff.1 found).1

theorem definedAt_sorted (name? : Statement → Option Text) (texts : List Text) (name : Text) :
    (definedAt name? texts name).Pairwise (· < ·) :=
  List.pairwise_lt_range.sublist List.filter_sublist

theorem map_index_filter (name? : Statement → Option Text) (texts : List Text) (name : Text) :
    ((Source.number texts).filter fun line => name? line.statement = some name).map Line.index =
      definedAt name? texts name := by
  rw [definedAt, ← Source.map_index_number, List.filter_map]
  apply congrArg (List.map Line.index)
  apply List.filter_congr
  intro line member
  have own := Source.text_of_mem_number member
  simp [nameAt?, own, Source.statement_of_mem_numberFrom member]

theorem Symbols.Groups.map_index (groups : Symbols.Groups name? (Source.number texts) bindings) {lines : List Line}
    (bound : (name, lines) ∈ bindings) : lines.map Line.index = definedAt name? texts name := by
  rw [groups.eq_filter bound, map_index_filter]

theorem Symbols.Groups.lists (groups : Symbols.Groups name? (Source.number texts) bindings) :
    Lists texts name? bindings where
  names := by
    have statements : (Source.number texts).map Line.statement = texts.map Source.classify :=
      Source.map_statement_numberFrom none 0 texts
    have same : ((Source.number texts).filterMap fun line => name? line.statement) =
        texts.filterMap fun t => name? (Source.classify t) := by
      have both := congrArg (List.filterMap name?) statements
      rwa [List.filterMap_map, List.filterMap_map] at both
    rw [← same]
    exact groups.names
  ordered name lines bound := by
    rw [groups.map_index bound]
    exact definedAt_sorted name? texts name
  places name lines bound i := by
    rw [groups.map_index bound, mem_definedAt]

theorem Lists.nodup {lines : List Line} (lists : Lists texts name? bindings) (bound : (name, lines) ∈ bindings) :
    (lines.map Line.index).Nodup :=
  (lists.ordered name lines bound).imp Nat.ne_of_lt

/-- A line has one name at most, so it stands under one. -/
theorem Lists.disjoint (lists : Lists texts name? bindings) :
    bindings.Pairwise fun b c => (b.2.map Line.index).Disjoint (c.2.map Line.index) := by
  have distinct : bindings.Pairwise fun b c => b.1 ≠ c.1 := List.pairwise_map.1 lists.names.nodup
  refine distinct.imp_of_mem ?_
  intro b c first second different i here there
  have own := (lists.places b.1 b.2 first i).1 here
  have other := (lists.places c.1 c.2 second i).1 there
  exact different (Option.some.inj (own.symm.trans other))

theorem not_label_and_constant {other : Text} (labelled : nameAt? Statement.label? texts i = some name)
    (defined : nameAt? Statement.constant? texts i = some other) : False := by
  obtain ⟨t, found, label⟩ := Option.bind_eq_some_iff.1 labelled
  rw [nameAt?, found, Option.bind_some] at defined
  rw [Statement.label?_of_constant? defined] at label
  cases label

/-! ## Repeated definitions -/

/-- The range of the visible part of the line at a position. -/
def rangeAt (texts : List Text) (i : Nat) : Range :=
  ⟨i, Source.startColumn (texts.getD i []), i, Source.endColumn (texts.getD i [])⟩

/-- One diagnostic for each definition of a name that is defined more than once, with the numbers of the lines, counted
from one, that define it too. -/
def repeatDiagnostics (name? : Statement → Option Text) (severity : Severity) (wording : Text → Text → Text)
    (texts names : List Text) : List Diagnostic :=
  names.flatMap fun name =>
    let places := definedAt name? texts name
    if places.length < 2 then [] else places.map fun i =>
      ⟨severity, rangeAt texts i,
        wording name (Text.join ", " ((places.filter (· ≠ i)).map fun j => Text.ofNat (j + 1))), "asm-labels"⟩

theorem range_of_mem_number {line : Line} (member : line ∈ Source.number texts) :
    line.range = rangeAt texts line.index := by
  rw [rangeAt, Source.getD_of_mem_number member]
  rfl

/-- The lines that define a name too, by their numbers. -/
theorem lineList_otherLines (lines : List Line) (line : Line) :
    Issue.lineList (Symbols.otherLines lines line) =
      Text.join ", " (((lines.map Line.index).filter (· ≠ line.index)).map fun j => Text.ofNat (j + 1)) := by
  rw [Issue.lineList, Symbols.otherLines, List.filter_map, List.map_map, List.map_map]
  rfl

theorem map_diagnostic_repetitions (groups : Symbols.Groups name? (Source.number texts) bindings)
    {issue : Text → List Nat → Issue} {severity : Severity} {wording : Text → Text → Text}
    (worded : ∀ name others, (issue name others).severity = severity ∧
      (issue name others).message = wording name (Issue.lineList others) ∧ (issue name others).check = .labels) :
    (Symbols.repetitions issue bindings).map Report.diagnostic =
      repeatDiagnostics name? severity wording texts bindings.names := by
  rw [Symbols.repetitions, repeatDiagnostics, List.map_flatMap, Bindings.names, List.flatMap_map]
  apply List.flatMap_congr
  rintro ⟨name, lines⟩ bound
  have among : ∀ line ∈ lines, line ∈ Source.number texts := by
    rw [groups.eq_filter bound]
    exact fun line member => (List.mem_filter.1 member).1
  simp only [← groups.map_index bound, List.length_map]
  split
  · rfl
  · rw [List.map_map, List.map_map]
    apply List.map_congr_left
    intro line member
    obtain ⟨severity, message, check⟩ := worded name (Symbols.otherLines lines line)
    simp only [Function.comp_apply, Report.diagnostic, severity, message, check, lineList_otherLines,
      range_of_mem_number (among line member)]
    rfl

/-- The symbols of a text list every definition of a label and of a constant under its name and nothing else. Each
definition of a label that is defined again is an error, each one of such a constant a warning. -/
theorem symbols_list_every_definition (texts : List Text) :
    Lists texts Statement.label? (Symbols.ofLines (Source.number texts)).labels ∧
    Lists texts Statement.constant? (Symbols.ofLines (Source.number texts)).constants ∧
    (((Symbols.ofLines (Source.number texts)).labels ++ (Symbols.ofLines (Source.number texts)).constants).flatMap
      fun b => b.2.map Line.index).Nodup ∧
    (Symbols.ofLines (Source.number texts)).reports.map Report.diagnostic =
      repeatDiagnostics Statement.label? .error
        (fun name others => "Duplicate label '" ++ name ++ "' (also defined on line " ++ others ++ ")") texts
        (Symbols.ofLines (Source.number texts)).labels.names ++
      repeatDiagnostics Statement.constant? .warning
        (fun name others => "Constant '" ++ name ++ "' is defined more than once (also defined on line " ++ others ++
          "); each use sees the most recent definition") texts
        (Symbols.ofLines (Source.number texts)).constants.names := by
  obtain ⟨labels, constants⟩ := Symbols.groups_ofLines (Source.number texts)
  refine ⟨labels.lists, constants.lists, ?_, ?_⟩
  · refine List.nodup_flatMap.2 ⟨?_, ?_⟩
    · rintro ⟨name, lines⟩ bound
      rcases List.mem_append.1 bound with label | constant
      · exact labels.lists.nodup label
      · exact constants.lists.nodup constant
    · refine List.pairwise_append.2 ⟨labels.lists.disjoint, constants.lists.disjoint, ?_⟩
      intro b label c constant i here there
      exact not_label_and_constant ((labels.lists.places b.1 b.2 label i).1 here)
        ((constants.lists.places c.1 c.2 constant i).1 there)
  · rw [Symbols.reports, List.map_append]
    congr 1
    · exact map_diagnostic_repetitions labels fun _ _ => ⟨rfl, rfl, rfl⟩
    · exact map_diagnostic_repetitions constants fun _ _ => ⟨rfl, rfl, rfl⟩

end Analysis

end AsmCheck
