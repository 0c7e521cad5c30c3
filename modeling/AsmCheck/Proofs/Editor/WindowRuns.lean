import AsmCheck.Proofs.Analysis.LongNumerals
import AsmCheck.Proofs.Editor.Window
import AsmCheck.Proofs.History
import Mathlib.Data.List.Infix

/-! Runs of a window. No fault ends a run: the window goes on with what was done up to it. So what a run shows is
what the last completed analysis has found, and the set in use is the one of that analysis as long as no later set
came for a text that could not be analysed. -/

set_option autoImplicit false

namespace AsmCheck.Editor.Window

def after (w : Window) (turns : List Turn) : Window := turns.foldl (fun w t => (w.turn t).1) w

theorem after_concat (w : Window) (turns : List Turn) (t : Turn) :
    w.after (turns ++ [t]) = ((w.after turns).turn t).1 :=
  List.foldl_concat ..

/-- In a run, a turn analyses the text to the end. -/
def CompletesAfter (start : Window) (before : List Turn) (t : Turn) : Prop := t.Completes (start.after before)

/-- In a run, a turn brings a set for a text that cannot be analysed. -/
def LosesAfter (start : Window) (before : List Turn) (t : Turn) : Prop := t.Loses (start.after before)

/-- The text of the last completed analysis and the set it was made with, which are those of the start if none was
completed since. -/
def AnalysedLast (start : Window) (turns : List Turn) (analysed : Text) (under : InstructionSet) : Prop :=
  ∃ last, LastThat start.CompletesAfter turns last ∧
    match last with
    | none => start.text = analysed ∧ start.set = under
    | some (before, t) => (start.after (before ++ [t])).text = analysed ∧ (start.after (before ++ [t])).set = under

/-- A set has come for a text that could not be analysed, and no analysis was completed since. -/
def Unsettled (start : Window) (turns : List Turn) : Prop :=
  ∃ before t, LastThat (fun before t => start.CompletesAfter before t ∨ start.LosesAfter before t) turns
    (some (before, t)) ∧ start.LosesAfter before t

section
variable {start : Window} {turns : List Turn} {t : Turn}

theorem Unsettled.of_loses (loses : start.LosesAfter turns t) : start.Unsettled (turns ++ [t]) :=
  ⟨turns, t, .of_counts (.inr loses), loses⟩

theorem Unsettled.concat (unsettled : start.Unsettled turns) (incomplete : ¬start.CompletesAfter turns t) :
    start.Unsettled (turns ++ [t]) := by
  by_cases loses : start.LosesAfter turns t
  · exact .of_loses loses
  · obtain ⟨before, last, latest, lost⟩ := unsettled
    exact ⟨before, last, latest.of_not_counts (not_or.2 ⟨incomplete, loses⟩), lost⟩

/-- What a run keeps: the last completed analysis is shown, and it was made with the set in use unless the run
is unsettled. -/
theorem IsConsistent.after (consistent : start.IsConsistent start.text start.set)
    (kept : ∀ t ∈ turns, ∀ placeToo, t ≠ .command (.forget placeToo)) :
    ∃ analysed under, start.AnalysedLast turns analysed under ∧ (start.after turns).IsConsistent analysed under ∧
      ((start.after turns).set = under ∨ start.Unsettled turns) := by
  induction turns using List.reverseRecOn with
  | nil => exact ⟨_, _, ⟨none, .nil, rfl, rfl⟩, consistent, .inl rfl⟩
  | append_singleton turns t ih =>
    obtain ⟨analysed, under, ⟨last, latest, found⟩, same, settled⟩ := ih fun t member => kept t (by simp [member])
    rcases same.of_turn (kept t (by simp)) with ⟨completed, fresh⟩ | ⟨incomplete, shown, set⟩
    · -- this turn has become the last that completes an analysis
      rw [← after_concat] at fresh
      exact ⟨_, _, ⟨some (turns, t), .of_counts completed, rfl, rfl⟩, fresh, .inl rfl⟩
    · -- the last one is still the one before, and a new set is lost on the text
      rw [← after_concat] at shown set
      refine ⟨analysed, under, ⟨last, latest.of_not_counts incomplete, found⟩, shown, ?_⟩
      rcases set with unchanged | loses
      · exact settled.imp unchanged.trans fun unsettled => unsettled.concat incomplete
      · exact .inr (.of_loses loses)

end

/-! ## Faults -/

/-- What is done to a window all the time: its text is edited or analysed, a filter is chosen, or the selection
is asked for something. -/
def Turn.IsRoutine : Turn → Prop
  | .event (.setText _) | .event (.complete _) | .event .analyze | .command _ => True
  | .event (.chooseFilter choice) => -5 ≤ choice ∧ choice < 5
  | .event _ => False

section
variable {w : Window} {set under : InstructionSet} {analysed : Text}

theorem chooseFilter_eq_ok (w : Window) {choice : Int} (least : -5 ≤ choice) (most : choice < 5) :
    (w.chooseFilter choice).2 = .ok {} := by
  unfold chooseFilter
  split
  · rfl
  · next missing =>
    -- A choice below zero counts from the end, so there is a filter for each of the ten.
    have five : filters.length = 5 := rfl
    unfold atPosition? at missing
    split at missing
    · rw [List.getElem?_eq_none_iff] at missing
      omega
    · split at missing
      · rw [List.getElem?_eq_none_iff] at missing
        omega
      · omega

theorem settled_eq_ok_iff (v : Window) (set : InstructionSet) :
    (v.settled (AsmCheck.analyze set w.text)).2 = .ok () ↔ Analysable w.text := by
  constructor
  · intro done
    cases analyzed : AsmCheck.analyze set w.text with
    | ok diagnostics => exact ⟨set, diagnostics, analyzed⟩
    | error limit => simp [settled, analyzed] at done
  · intro analysable
    obtain ⟨diagnostics, analyzed⟩ := analysable.exists_analyze set
    rw [analyzed]
    rfl

/-- A routine turn ends in a fault only if it analyses a text that cannot be analysed. -/
theorem IsConsistent.turn_eq_ok_iff {t : Turn} (consistent : w.IsConsistent analysed under)
    (kept : ∀ placeToo, t ≠ .command (.forget placeToo)) (routine : t.IsRoutine) :
    (w.turn t).2 = .ok () ↔ (t.Analyses w → Analysable w.text) := by
  cases t with
  | command c =>
    have remembers : ∀ placeToo, c ≠ .forget placeToo := fun placeToo same => kept placeToo (congrArg _ same)
    have analyses : (Turn.command c).Analyses w ↔ w.IsToldBy c := .rfl
    rw [analyses]
    by_cases told : w.IsToldBy c
    · obtain ⟨found, -, result⟩ := command_of_told consistent remembers told
      simp only [turn, result, told, true_imp_iff]
      exact settled_eq_ok_iff _ found
    · have done : (w.command c).2 = .ok () := by rw [command, followNotices_of_not_told told]
      simp [turn, done, told]
  | event e =>
    cases e with
    | setText t | complete word => exact iff_of_true rfl False.elim
    | analyze =>
      have result : w.analyze = w.settled (AsmCheck.analyze w.set w.text) :=
        analyze_eq consistent.problems consistent.seen
      have done : (w.turn (.event .analyze)).2 = .ok () ↔ w.analyze.2 = .ok () := by
        simp only [turn, step, telling]
        cases w.analyze.2 <;> simp [Except.map]
      rw [done, result, settled_eq_ok_iff]
      simp [Turn.Analyses]
    | chooseFilter choice =>
      have chosen := chooseFilter_eq_ok w routine.1 routine.2
      refine iff_of_true ?_ False.elim
      simp [turn, step, chosen, Except.map]
    | _ => exact absurd routine id

/-- A set that is loaded while the text cannot be analysed is in use, and nothing that is shown has changed. -/
theorem IsConsistent.lost_of_load {path : Text} (consistent : w.IsConsistent analysed under)
    (loaded : (Place.file path).load w.folder = .ok set) (long : ¬Analysable w.text) :
    (Turn.command (.load path)).Loses w ∧ (w.turn (.command (.load path))).2 = .error .numeral ∧
      (w.turn (.command (.load path))).1.set = set ∧
      (w.turn (.command (.load path))).1.IsConsistent analysed under := by
  have done : w.selection.step w.folder (.load path) =
      (w.folder, { w.selection with active := some set, place := some (.file path) }, .used set,
        w.selection.subscribers.map fun tag => (tag, set)) := by
    simp [Selection.step, Selection.loadFrom, loaded, Selection.notices]
  have told : w.IsToldBy (.load path) := by
    rw [IsToldBy, done]
    simpa [IsTold] using consistent.subscribed
  obtain ⟨found, new, result⟩ := command_of_told consistent (by simp) told
  have active : (w.asked (.load path)).selection.active = some set := by rw [asked, done]
  obtain rfl : set = found := Option.some.inj (active.symm.trans new.selection)
  rw [analyze_eq_error_of_not_analysable long] at result
  rw [turn, result]
  exact ⟨⟨told, long⟩, rfl, rfl, new⟩

/-! ## The start -/

/-- A window on a selection before its first analysis. -/
def unanalysed (folder : Folder) (selection : Selection) (set : InstructionSet) : Window where
  folder
  selection := { selection with subscribers := selection.subscribers ++ [subscriber] }
  set
  pane := Pane.start set
  panel := { problems := { set := some set } }

/-- The text is empty, so that no numeral stands in the way of the first analysis. -/
theorem exists_startOn (folder : Folder) (selection : Selection) (set : InstructionSet) :
    ∃ diagnostics, AsmCheck.analyze set [] = .ok diagnostics ∧
      startOn folder selection set = (unanalysed folder selection set).showing diagnostics := by
  obtain ⟨diagnostics, found⟩ : ∃ diagnostics, AsmCheck.analyze set [] = .ok diagnostics := ⟨_, rfl⟩
  have analyzed : (unanalysed folder selection set).analyze =
      (unanalysed folder selection set).settled (AsmCheck.analyze set []) :=
    analyze_eq rfl (show (-1 : Int) ≤ 0 by decide)
  refine ⟨diagnostics, found, ?_⟩
  change (unanalysed folder selection set).analyze.1 = _
  rw [analyzed, found]
  rfl

theorem startOn_consistent {selection : Selection} (folder : Folder) (used : selection.active = some set) :
    (startOn folder selection set).IsConsistent (startOn folder selection set).text
      (startOn folder selection set).set := by
  obtain ⟨diagnostics, found, start⟩ := exists_startOn folder selection set
  have one : (unanalysed folder selection set).UsesOneSet := ⟨used, rfl, rfl, rfl, rfl, rfl⟩
  rw [start]
  exact one.of_showing (by simp [unanalysed]) found

/-- A window on a selection that uses a set, in every run: all its parts and the selection use one set, and the
problems and labels shown are those of the last completed analysis, of its text with its set. If the problems have
the version of the text, this is the text as it stands. And its set is the one in use, unless a later one came while
the text could not be analysed: that is the one way in which a window shows what a set no longer in use has found.
What is done all the time ends in a fault only if it analyses a text that cannot be analysed. -/
theorem window_stays_consistent {folder : Folder} {s selection : Selection} {notices : Selection.Notices}
    (opened : s.current folder = (selection, .used set, notices)) {turns : List Turn}
    (kept : ∀ t ∈ turns, ∀ placeToo, t ≠ .command (.forget placeToo)) :
    let start := startOn folder selection set
    let w := start.after turns
    (∃ analysed under, start.AnalysedLast turns analysed under ∧ w.IsConsistent analysed under ∧
      (w.set = under ∨ start.Unsettled turns)) ∧
    (¬start.Unsettled turns → w.panel.problems.version = w.version →
      AsmCheck.analyze w.set w.text = .ok w.panel.problems.diagnostics) ∧
    ∀ t : Turn, t.IsRoutine → (∀ placeToo, t ≠ .command (.forget placeToo)) →
      ((w.turn t).2 = .ok () ↔ (t.Analyses w → Analysable w.text)) := by
  intro start w
  have consistent := startOn_consistent folder (Selection.active_of_current opened)
  obtain ⟨analysed, under, last, shown, set⟩ := consistent.after kept
  refine ⟨⟨analysed, under, last, shown, set⟩, ?_, ?_⟩
  · intro settled current
    rw [set.resolve_right settled, shown.unchanged current]
    exact shown.found
  · intro t routine remembers
    exact shown.turn_eq_ok_iff remembers routine

end

def tinySelection : Selection :=
  { home := .bundled, active := some Selection.tinySet, place := some (.file "t.json"), subscribers := ["a"] }

/-- A text is analysed, a table is not found, the default one is loaded, and the text is edited again. -/
def tinyTurns : List Turn :=
  [.event (.setText "GO 1"), .event .analyze, .command (.load "u.json"), .command .restore, .event (.chooseFilter 1),
    .event (.setText "GO")]

def tinyStart : Window := startOn Selection.tinyFolder tinySelection Selection.tinySet

/-- The load that fails changes nothing. The other one has the text analysed again, under the version it had. -/
theorem window_consistent_after_restore :
    tinySelection.current Selection.tinyFolder = (tinySelection, .used Selection.tinySet, []) ∧
    (∀ t ∈ tinyTurns, ∀ placeToo, t ≠ .command (.forget placeToo)) ∧ ¬tinyStart.Unsettled tinyTurns ∧
    ∃ w analysed, tinyStart.after tinyTurns = w ∧ tinyStart.AnalysedLast tinyTurns analysed w.set ∧
      w.IsConsistent analysed w.set ∧ w.panel.problems.version = 1 ∧ w.version = 2 ∧
      w.stateLabel = "Errors | 1 problems" ∧ w.setLabel = "Table: Educational x86 (32-bit, flat)" := by
  have opened : tinySelection.current Selection.tinyFolder = (tinySelection, .used Selection.tinySet, []) := rfl
  have kept : ∀ t ∈ tinyTurns, ∀ placeToo, t ≠ .command (.forget placeToo) := by simp [tinyTurns]
  -- The text takes three values in this run, and each of them can be analysed.
  have analysable : ∀ before ∈ tinyTurns.inits, Analysable (tinyStart.after before).text := by
    have texts : ∀ before ∈ tinyTurns.inits, (tinyStart.after before).text ∈ ([[], "GO 1", "GO"] : List Text) := by
      decide +kernel
    have read : ∀ t ∈ ([[], "GO 1", "GO"] : List Text), (AsmCheck.analyze Selection.tinySet t).toBool = true := by
      decide +kernel
    intro before member
    have done := read _ (texts before member)
    cases analyzed : AsmCheck.analyze Selection.tinySet (tinyStart.after before).text with
    | ok diagnostics => exact ⟨_, _, analyzed⟩
    | error limit => simp [analyzed, Except.toBool] at done
  have settled : ¬tinyStart.Unsettled tinyTurns := by
    rintro ⟨before, t, ⟨-, rest, split, -⟩, loses⟩
    exact loses.2 (analysable before ((List.mem_inits _ _).2 ⟨t :: rest, split.symm⟩))
  obtain ⟨⟨analysed, under, last, consistent, set⟩, -, -⟩ := window_stays_consistent opened kept
  obtain rfl := set.resolve_right settled
  have shown : (tinyStart.after tinyTurns).panel.problems.version = 1 ∧ (tinyStart.after tinyTurns).version = 2 ∧
      (tinyStart.after tinyTurns).stateLabel = "Errors | 1 problems" ∧
      (tinyStart.after tinyTurns).setLabel = "Table: Educational x86 (32-bit, flat)" := by decide +kernel
  exact ⟨opened, kept, settled, _, analysed, rfl, last, consistent, shown⟩

def bundledSelection : Selection :=
  { home := .bundled, active := some InstructionSet.bundled, place := some .bundled }

def bundledStart : Window := startOn Selection.tinyFolder bundledSelection InstructionSet.bundled

/-- A data line with a numeral of one digit more than can be read. -/
def longText : Text :=
  Text.terminated [(".data" : Text), Source.dataLine .byte (List.replicate (Numeral.limit + 1) '1')]

/-- The numeral is typed in, and then a table is loaded. -/
def longTurns : List Turn := [.event (.setText longText), .command (.load "t.json")]

theorem not_analysable_longText : ¬Analysable longText := by
  rintro ⟨set, diagnostics, analyzed⟩
  have digits : ∀ c ∈ List.replicate (Numeral.limit + 1) (CodePoint.scalar '1'), c.isDigit = true := by
    intro c member
    rw [List.eq_of_mem_replicate member]
    rfl
  have long : Numeral.limit < (List.replicate (Numeral.limit + 1) (CodePoint.scalar '1')).length := by
    rw [List.length_replicate]
    exact Nat.lt_succ_self _
  cases (Analysis.analyze_eq_error_of_long set .byte digits long).symm.trans analyzed

/-- The table is in use, and what is shown is still what was found with the other one, its name included. -/
theorem window_stale_after_long_numeral :
    bundledSelection.current Selection.tinyFolder = (bundledSelection, .used InstructionSet.bundled, []) ∧
    (∀ t ∈ longTurns, ∀ placeToo, t ≠ .command (.forget placeToo)) ∧ bundledStart.Unsettled longTurns ∧
    ∃ w, bundledStart.after longTurns = w ∧ w.selection.active = some w.set ∧ w.set.name = "Tiny" ∧
      w.setLabel = "Table: Educational x86 (32-bit, flat)" := by
  obtain ⟨diagnostics, -, start⟩ := exists_startOn Selection.tinyFolder bundledSelection InstructionSet.bundled
  have folder : bundledStart.folder = Selection.tinyFolder := by rw [bundledStart, start]; rfl
  have set : bundledStart.set = InstructionSet.bundled := by rw [bundledStart, start]; rfl
  have consistent : bundledStart.IsConsistent bundledStart.text bundledStart.set := startOn_consistent _ rfl
  have typed : (bundledStart.setText longText).IsConsistent bundledStart.text bundledStart.set :=
    (KeepsAnalysis.setDocument bundledStart { text := longText }).isConsistent consistent
  have loaded : (Place.file "t.json").load (bundledStart.setText longText).folder = .ok Selection.tinySet := by
    rw [setText, setDocument, folder]
    exact Selection.load_tinyFolder
  -- Typing has left everything as the start has it, and the load changes no more than the set.
  obtain ⟨loses, -, used, shown⟩ := typed.lost_of_load loaded not_analysable_longText
  have reached : bundledStart.after longTurns =
      ((bundledStart.setText longText).turn (.command (.load "t.json"))).1 := by
    rw [longTurns, after, List.foldl_cons, List.foldl_cons, List.foldl_nil, turn, step]
  have lost : bundledStart.Unsettled ([.event (.setText longText)] ++ [.command (.load "t.json")]) := .of_loses loses
  have name : bundledStart.set.name = "Educational x86 (32-bit, flat)" := by rw [set]; rfl
  refine ⟨rfl, by simp [longTurns], lost, _, reached, shown.selection, by rw [used]; rfl, ?_⟩
  rw [shown.name, name]
  rfl

end AsmCheck.Editor.Window
