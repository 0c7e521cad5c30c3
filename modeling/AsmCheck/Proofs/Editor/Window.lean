import AsmCheck.Editor.Window
import AsmCheck.Proofs.Analysis.Reports
import AsmCheck.Proofs.Editor.Publication
import AsmCheck.Proofs.InstructionSet.Selection

/-! A window keeps the instruction set in five places and the result of its last analysis in three. Whatever is done to
the window or to the selection below it, and whether or not it ends in a fault, the five places agree. What is shown is
what the analysis of the text has to say with the set in use, as long as no set comes while a numeral in the text is too
long for an analysis: then the window has the new set and still shows what was found with an older one. -/

set_option autoImplicit false

namespace AsmCheck.Editor.Window

open Numeral (TooLong)

abbrev text (w : Window) : Text := w.pane.document.text

/-! ## What is kept in several places -/

/-- The set in use is the same for the selection, the problems and the editor, which has its names and words. -/
structure UsesOneSet (w : Window) : Prop where
  selection : w.selection.active = some w.set
  problems : w.panel.problems.set = some w.set
  pane : w.pane.set = w.set
  mnemonics : w.pane.mnemonics = w.set.mnemonics
  registers : w.pane.registers = w.set.registerNames
  words : w.pane.words = (Assist.completions w.set).map Assist.Completion.label

/-- The problems and the labels are those of a text that was analysed, and of the set it was analysed with. -/
structure ShowsAnalysis (w : Window) (analysed : Text) (under : InstructionSet) : Prop where
  seen : w.panel.problems.version ≤ w.version
  found : AsmCheck.analyze under analysed = .ok w.panel.problems.diagnostics
  unchanged : w.panel.problems.version = w.version → w.text = analysed
  state : w.stateLabel = (if hasErrors w.panel.problems.diagnostics then "Errors" else "OK" : Text) ++ " | " ++
    Text.ofNat w.panel.problems.diagnostics.length ++ " problems"
  name : w.setLabel = "Table: " ++ under.name

/-- The window is told of every load, so it stays with the set that the selection uses. -/
structure IsConsistent (w : Window) (analysed : Text) (under : InstructionSet) : Prop
    extends UsesOneSet w, ShowsAnalysis w analysed under where
  subscribed : subscriber ∈ w.selection.subscribers

/-- Some analysis of the text comes to an end. It hangs on the text only, so every analysis does. -/
def Analysable (t : Text) : Prop := ∃ set diagnostics, AsmCheck.analyze set t = .ok diagnostics

/-- What is shown after a step is what an analysis of the text has found, if one was completed, and otherwise what was
shown before. A set that is not the one from before, without an analysis, has been lost on the text. -/
def IsConsistentAfter (w v : Window) (completed lost : Prop) (analysed : Text) (under : InstructionSet) : Prop :=
  completed ∧ v.IsConsistent v.text v.set ∨
    ¬completed ∧ v.IsConsistent analysed under ∧ (v.set = w.set ∨ lost)

section
variable {w v : Window} {set under : InstructionSet} {analysed : Text}

/-! ## Analyses -/

theorem Analysable.exists_analyze {t : Text} (analysable : Analysable t) (set : InstructionSet) :
    ∃ diagnostics, AsmCheck.analyze set t = .ok diagnostics := by
  obtain ⟨other, diagnostics, analyzed⟩ := analysable
  exact Analysis.exists_analyze_of_set analyzed set

theorem analyze_eq_error_of_not_analysable {t : Text} (long : ¬Analysable t) (set : InstructionSet) :
    AsmCheck.analyze set t = .error ⟨⟩ := by
  cases analyzed : AsmCheck.analyze set t with
  | error limit => rfl
  | ok diagnostics => exact absurd ⟨set, diagnostics, analyzed⟩ long

/-- The window with the diagnostics of its text. -/
def showing (w : Window) (diagnostics : List Diagnostic) : Window :=
  diagnosticsChanged { w with
    panel := { w.panel with
      problems := { w.panel.problems with version := w.version, diagnostics }
      rows := diagnostics.filter (Panel.passes w.panel.filter) } }

/-- The window with what an analysis has come to. -/
def settled (w : Window) : Except TooLong (List Diagnostic) → Window × Except Fault Unit
  | .ok diagnostics => (w.showing diagnostics, .ok ())
  | .error _ => (w, .error .numeral)

/-- An analysis is never stale while the problems are no newer than the text. -/
theorem analyze_eq (known : w.panel.problems.set = some set) (seen : w.panel.problems.version ≤ w.version) :
    w.analyze = w.settled (AsmCheck.analyze set w.text) := by
  unfold analyze Panel.run Problems.instructionSet
  rw [known, Option.getD_some]
  cases AsmCheck.analyze set w.text with
  | error limit => rfl
  | ok diagnostics =>
    rcases w.panel.publish_cases w.version diagnostics with ⟨stale, -⟩ | ⟨-, result⟩
    · exact absurd seen (not_le.2 stale)
    · simp only [bind, Except.bind, result]
      rfl

/-- Whatever an analysis shows is consistent, if the window uses one set. -/
theorem UsesOneSet.of_showing (one : w.UsesOneSet) (subscribed : subscriber ∈ w.selection.subscribers)
    {diagnostics : List Diagnostic} (found : AsmCheck.analyze w.set w.text = .ok diagnostics) :
    (w.showing diagnostics).IsConsistent w.text w.set where
  toUsesOneSet := ⟨one.selection, one.problems, one.pane, one.mnemonics, one.registers, one.words⟩
  toShowsAnalysis := ⟨le_rfl, found, fun _ => rfl, rfl, rfl⟩
  subscribed := subscribed

/-! ## New sets -/

def withSet (w : Window) (set : InstructionSet) : Window :=
  { w with set, panel := w.panel.useSet set, pane := w.pane.useSet set }

def IsTold (notices : Selection.Notices) : Prop := subscriber ∈ notices.map Prod.fst

theorem followNotices_of_not_told {notices : Selection.Notices} (untold : ¬IsTold notices) :
    w.followNotices notices = (w, .ok ()) := by
  induction notices with
  | nil => rfl
  | cons notice rest ih =>
    simp only [IsTold, List.map_cons, List.mem_cons, not_or] at untold
    rw [followNotices, if_neg (Ne.symm untold.1)]
    exact ih untold.2

/-- However often a window is told of one set, it comes to the same as being told once. -/
theorem followNotices_of_told {notices : Selection.Notices} (same : ∀ notice ∈ notices, notice.2 = set)
    (told : IsTold notices) (seen : w.panel.problems.version ≤ w.version) :
    w.followNotices notices = (w.withSet set).settled (AsmCheck.analyze set w.text) := by
  induction notices generalizing w with
  | nil => simp [IsTold] at told
  | cons notice rest ih =>
    obtain ⟨tag, found⟩ := notice
    obtain rfl : found = set := same _ List.mem_cons_self
    have later := fun notice member => same notice (List.mem_cons_of_mem _ member)
    rw [followNotices]
    split
    · have once : w.useSet found = (w.withSet found).settled (AsmCheck.analyze found w.text) :=
        analyze_eq (w := w.withSet found) rfl seen
      rw [once]
      cases analyzed : AsmCheck.analyze found w.text with
      | error limit => rfl
      | ok diagnostics =>
        simp only [settled]
        by_cases again : IsTold rest
        · -- the window has the set and the version already, and the same analysis leaves it as it is
          rw [ih later again le_rfl]
          change settled _ (AsmCheck.analyze found w.text) = _
          rw [analyzed]
          rfl
        · exact followNotices_of_not_told again
    · next other =>
      apply ih later _ seen
      simpa [IsTold, Ne.symm other] using told

/-! ## What changes nothing of an analysis -/

/-- Nothing that depends on the set or on an analysis is different, and a text that is different has a new version. -/
structure KeepsAnalysis (w v : Window) : Prop where
  set : v.set = w.set
  selection : v.selection = w.selection
  problems : v.panel.problems = w.panel.problems
  pane : v.pane = { w.pane with document := v.pane.document }
  state : v.stateLabel = w.stateLabel
  name : v.setLabel = w.setLabel
  edited : v.text = w.text ∧ v.version = w.version ∨ w.version < v.version

namespace KeepsAnalysis

theorem refl (w : Window) : w.KeepsAnalysis w := ⟨rfl, rfl, rfl, rfl, rfl, rfl, .inl ⟨rfl, rfl⟩⟩

theorem trans {u : Window} (first : u.KeepsAnalysis w) (second : w.KeepsAnalysis v) : u.KeepsAnalysis v where
  set := second.set.trans first.set
  selection := second.selection.trans first.selection
  problems := second.problems.trans first.problems
  pane := by rw [second.pane, first.pane]
  state := second.state.trans first.state
  name := second.name.trans first.name
  edited := by
    rcases first.edited with ⟨text, version⟩ | newer
    · rw [← text, ← version]
      exact second.edited
    · rcases second.edited with ⟨-, version⟩ | newest
      · exact .inr (version ▸ newer)
      · exact .inr (newer.trans newest)

theorem setDocument (w : Window) (document : Document) : w.KeepsAnalysis (w.setDocument document) :=
  ⟨rfl, rfl, rfl, rfl, rfl, rfl, .inr (Nat.lt_succ_self _)⟩

theorem moveTo (w : Window) {document : Document} (same : document.text = w.text) :
    w.KeepsAnalysis (w.moveTo document) :=
  ⟨rfl, rfl, rfl, rfl, rfl, rfl, .inl ⟨same, rfl⟩⟩

theorem setFile (w : Window) (file : Option Text) : w.KeepsAnalysis (w.setFile file) :=
  ⟨rfl, rfl, rfl, rfl, rfl, rfl, .inl ⟨rfl, rfl⟩⟩

theorem setFolder (w : Window) (folder : Folder) : w.KeepsAnalysis { w with folder } :=
  ⟨rfl, rfl, rfl, rfl, rfl, rfl, .inl ⟨rfl, rfl⟩⟩

theorem setFilter (w : Window) (filter : Option (List Text)) :
    w.KeepsAnalysis { w with panel := w.panel.setFilter filter } :=
  ⟨rfl, rfl, rfl, rfl, rfl, rfl, .inl ⟨rfl, rfl⟩⟩

theorem usesOneSet (keeps : w.KeepsAnalysis v) (one : w.UsesOneSet) : v.UsesOneSet := by
  obtain ⟨set, selection, problems, pane, -, -, -⟩ := keeps
  constructor
  · rw [selection, set, one.selection]
  · rw [problems, set, one.problems]
  · rw [pane, set, one.pane]
  · rw [pane, set, one.mnemonics]
  · rw [pane, set, one.registers]
  · rw [pane, set, one.words]

theorem seen (keeps : w.KeepsAnalysis v) (seen : w.panel.problems.version ≤ w.version) :
    v.panel.problems.version ≤ v.version := by
  rw [keeps.problems]
  rcases keeps.edited with ⟨-, version⟩ | newer
  · rwa [version]
  · exact seen.trans (Int.ofNat_le.2 newer.le)

theorem isConsistent (keeps : w.KeepsAnalysis v) (consistent : w.IsConsistent analysed under) :
    v.IsConsistent analysed under where
  toUsesOneSet := keeps.usesOneSet consistent.toUsesOneSet
  seen := keeps.seen consistent.seen
  found := by rw [keeps.problems, consistent.found]
  unchanged := by
    rw [keeps.problems]
    intro current
    rcases keeps.edited with ⟨text, version⟩ | newer
    · rw [text]
      exact consistent.unchanged (current.trans (congrArg Nat.cast version))
    · -- the problems are not newer than the text was before it was edited
      have seen := consistent.seen
      omega
  state := by rw [keeps.state, keeps.problems, consistent.state]
  name := by rw [keeps.name, consistent.name]
  subscribed := by rw [keeps.selection]; exact consistent.subscribed

end KeepsAnalysis

theorem text_jump (document : Document) (line : Int) : (document.jump line).text = document.text := by
  unfold Document.jump
  split <;> rfl

/-! ## One turn -/

/-- The window after something was asked of the selection and before it is told of it. -/
def asked (w : Window) (c : Selection.Command) : Window :=
  { w with folder := (w.selection.step w.folder c).1, selection := (w.selection.step w.folder c).2.1 }

def command (w : Window) (c : Selection.Command) : Window × Except Fault Unit :=
  (w.asked c).followNotices (w.selection.step w.folder c).2.2.2

def IsToldBy (w : Window) (c : Selection.Command) : Prop := IsTold (w.selection.step w.folder c).2.2.2

/-- What happens to a window: something in it, or something to the selection below it. -/
inductive Turn where
  | event (e : Event)
  | command (c : Selection.Command)

/-- The window after a turn, and the fault that the turn has ended in, if it has. -/
def turn (w : Window) : Turn → Window × Except Fault Unit
  | .event e => ((w.step e).1, (w.step e).2.map fun _ => ())
  | .command c => w.command c

/-- The window is told of a set in a turn. -/
def Turn.Tells (w : Window) : Turn → Prop
  | .event (.loadSet path) => path ≠ [] ∧ w.IsToldBy (.load path)
  | .event .reloadSet => w.IsToldBy .reload
  | .command c => w.IsToldBy c
  | .event _ => False

/-- Whether a turn makes the window analyse its text: it is asked to, a text is opened, or a set is loaded. -/
def Turn.Analyses (w : Window) : Turn → Prop
  | .event .analyze => True
  | .event (.openFile path) =>
    path ≠ [] ∧ Path.fault? path = none ∧ ∃ bytes t, w.folder.openFile path = .ok bytes ∧ decodeText? bytes = some t
  | t => t.Tells w

/-- The window analyses its text in a turn, and the text that it has then can be analysed. -/
def Turn.Completes (w : Window) (t : Turn) : Prop := t.Analyses w ∧ Analysable (w.turn t).1.text

/-- The window is told of a set in a turn while its text cannot be analysed. -/
def Turn.Loses (w : Window) (t : Turn) : Prop := t.Tells w ∧ ¬Analysable w.text

theorem IsConsistent.subscribed_asked (consistent : w.IsConsistent analysed under) (c : Selection.Command) :
    subscriber ∈ (w.asked c).selection.subscribers := by
  rw [asked, Selection.subscribers_step]
  exact List.mem_append_left _ consistent.subscribed

theorem command_of_told {c : Selection.Command} (consistent : w.IsConsistent analysed under)
    (kept : ∀ placeToo, c ≠ .forget placeToo) (told : w.IsToldBy c) :
    ∃ found, ((w.asked c).withSet found).IsConsistent analysed under ∧
      w.command c = ((w.asked c).withSet found).settled (AsmCheck.analyze found w.text) := by
  obtain ⟨found, active, ⟨silent, -⟩ | notices⟩ := Selection.step_tells_active w.folder consistent.selection kept
  · simp [IsToldBy, silent, IsTold] at told
  · refine ⟨found, ?_, followNotices_of_told ?_ told consistent.seen⟩
    · exact {
        toUsesOneSet := ⟨active, rfl, rfl, rfl, rfl, rfl⟩
        toShowsAnalysis := ⟨consistent.seen, consistent.found, consistent.unchanged, consistent.state, consistent.name⟩
        subscribed := consistent.subscribed_asked c }
    · rw [notices]
      simp

theorem IsConsistent.of_command {c : Selection.Command} (consistent : w.IsConsistent analysed under)
    (kept : ∀ placeToo, c ≠ .forget placeToo) :
    w.IsConsistentAfter (w.command c).1 (w.IsToldBy c ∧ Analysable (w.command c).1.text)
      (w.IsToldBy c ∧ ¬Analysable w.text) analysed under := by
  by_cases told : w.IsToldBy c
  · obtain ⟨found, new, result⟩ := command_of_told consistent kept told
    by_cases analysable : Analysable w.text
    · obtain ⟨diagnostics, analyzed⟩ := analysable.exists_analyze found
      rw [result, analyzed]
      exact .inl ⟨⟨told, analysable⟩, new.toUsesOneSet.of_showing new.subscribed analyzed⟩
    · rw [result, analyze_eq_error_of_not_analysable analysable]
      exact .inr ⟨fun completed => analysable completed.2, new, .inr ⟨told, analysable⟩⟩
  · refine .inr ⟨fun completed => told completed.1, ?_⟩
    obtain ⟨found, active, ⟨-, rfl⟩ | notices⟩ := Selection.step_tells_active w.folder consistent.selection kept
    · rw [command, followNotices_of_not_told told]
      exact ⟨{ consistent with selection := active, subscribed := consistent.subscribed_asked c }, .inl rfl⟩
    · -- whoever has subscribed is told, and so is the window
      refine absurd ?_ told
      simpa [IsToldBy, IsTold, notices] using consistent.subscribed

/-- What the window does with a load is what follows from asking the selection for it. -/
theorem follow_eq_command {c : Selection.Command} {place : Place} (message : InstructionSet → Text)
    (loads : w.selection.step w.folder c = (w.folder, w.selection.loadFrom w.folder place)) :
    (w.follow message (w.selection.loadFrom w.folder place)).1 = (w.command c).1 := by
  unfold command asked
  rw [loads]
  rcases Selection.loadFrom_cases w.folder w.selection place with ⟨set, -, result⟩ | ⟨error, result⟩
  · rw [result]
    rfl
  · rw [result]
    cases error with
    | fault fault => cases fault <;> rfl
    | _ => rfl

/-! ### Events -/

theorem keepsAnalysis_saveTo (w : Window) (path : Text) : w.KeepsAnalysis (w.saveTo path).1 := by
  unfold saveTo
  simp only
  split
  · exact .refl w
  · exact .refl w
  · exact .setFolder w _

theorem keepsAnalysis_saveAs (w : Window) (path : Text) : w.KeepsAnalysis (w.saveAs path).1 := by
  unfold saveAs
  split
  · exact .refl w
  · exact (KeepsAnalysis.setFile w _).trans (keepsAnalysis_saveTo _ path)

theorem keepsAnalysis_save (w : Window) (path : Text) : w.KeepsAnalysis (w.save path).1 := by
  unfold save
  split
  · exact keepsAnalysis_saveTo w _
  · exact keepsAnalysis_saveAs w path

theorem keepsAnalysis_assemble (w : Window) : w.KeepsAnalysis w.assemble.1 := by
  unfold assemble
  split
  · exact .refl w
  · exact .moveTo w (text_jump _ _)
  · exact .refl w

theorem keepsAnalysis_chooseFilter (w : Window) (choice : Int) : w.KeepsAnalysis (w.chooseFilter choice).1 := by
  unfold chooseFilter
  split
  · exact .setFilter w _
  · exact .refl w

theorem keepsAnalysis_activate (w : Window) (row : Int) : w.KeepsAnalysis (w.activate row) := by
  unfold activate
  split
  · exact .moveTo w (text_jump _ _)
  · exact .refl w

/-- A turn that leaves the analysis alone. -/
theorem IsConsistent.of_quiet {t : Turn} (consistent : w.IsConsistent analysed under)
    (keeps : w.KeepsAnalysis (w.turn t).1) (silent : ¬t.Analyses w) :
    w.IsConsistentAfter (w.turn t).1 (t.Completes w) (t.Loses w) analysed under :=
  .inr ⟨fun completed => silent completed.1, keeps.isConsistent consistent, .inl keeps.set⟩

/-- An analysis of the text of a window that has kept to the set it had. -/
theorem IsConsistent.of_analyze {lost : Prop} (consistent : v.IsConsistent analysed under) (same : v.set = w.set) :
    w.IsConsistentAfter v.analyze.1 (Analysable v.analyze.1.text) lost analysed under := by
  rw [analyze_eq consistent.problems consistent.seen]
  by_cases analysable : Analysable v.text
  · obtain ⟨diagnostics, analyzed⟩ := analysable.exists_analyze v.set
    rw [analyzed]
    exact .inl ⟨analysable, consistent.toUsesOneSet.of_showing consistent.subscribed analyzed⟩
  · rw [analyze_eq_error_of_not_analysable analysable]
    exact .inr ⟨analysable, consistent, .inl same⟩

theorem IsConsistent.of_openFile (consistent : w.IsConsistent analysed under) (path : Text) :
    w.IsConsistentAfter (w.turn (.event (.openFile path))).1 ((Turn.event (.openFile path)).Completes w)
      ((Turn.event (.openFile path)).Loses w) analysed under := by
  have quiet (unopened : (w.openFile path).1 = w) (silent : ¬(Turn.event (.openFile path)).Analyses w) :=
    consistent.of_quiet (t := .event (.openFile path)) (by simp only [turn, step, unopened]; exact .refl w) silent
  by_cases empty : path = []
  · exact quiet (by simp [openFile, empty]) fun given => given.1 empty
  cases faulty : Path.fault? path with
  | some fault => exact quiet (by simp [openFile, empty, faulty]) fun given => by simp [Turn.Analyses, faulty] at given
  | none =>
    cases opened : w.folder.openFile path with
    | error fault => exact quiet (by simp [openFile, empty, faulty, opened]) fun given => by simp [Turn.Analyses, opened] at given
    | ok bytes =>
      cases decoded : decodeText? bytes with
      | none =>
        exact quiet (by simp [openFile, empty, faulty, opened, decoded]) fun given => by
          simp [Turn.Analyses, opened, decoded] at given
      | some t =>
        have edited : w.KeepsAnalysis ((w.setText t).setFile (some path)) :=
          (KeepsAnalysis.setDocument w { text := t }).trans (.setFile _ _)
        have reached : (w.turn (.event (.openFile path))).1 = ((w.setText t).setFile (some path)).analyze.1 := by
          simp [turn, step, openFile, empty, faulty, opened, decoded, telling]
        have analyses : (Turn.event (.openFile path)).Analyses w := ⟨empty, faulty, bytes, t, opened, decoded⟩
        simp only [Turn.Completes, analyses, true_and, reached]
        exact (edited.isConsistent consistent).of_analyze edited.set

theorem IsConsistent.of_step (consistent : w.IsConsistent analysed under) (e : Event) :
    w.IsConsistentAfter (w.turn (.event e)).1 ((Turn.event e).Completes w) ((Turn.event e).Loses w) analysed under := by
  cases e with
  | analyze =>
    simp only [Turn.Completes, Turn.Analyses, true_and]
    exact consistent.of_analyze rfl
  | openFile path => exact consistent.of_openFile path
  | loadSet path =>
    by_cases empty : path = []
    · refine consistent.of_quiet ?_ fun given => given.1 empty
      simp only [turn, step, loadSet, empty]
      exact .refl w
    · have reached : (w.turn (.event (.loadSet path))).1 = (w.command (.load path)).1 := by
        simp only [turn, step, loadSet, List.isEmpty_iff, empty, if_false]
        exact follow_eq_command _ rfl
      simp only [Turn.Completes, Turn.Loses, Turn.Analyses, Turn.Tells, reached, ne_eq, empty, not_false_eq_true, true_and]
      exact consistent.of_command (by simp)
  | reloadSet =>
    have reached : (w.turn (.event .reloadSet)).1 = (w.command .reload).1 := follow_eq_command _ rfl
    simp only [Turn.Completes, Turn.Loses, Turn.Analyses, Turn.Tells, reached]
    exact consistent.of_command (by simp)
  | assemble => exact consistent.of_quiet (keepsAnalysis_assemble w) id
  | save path => exact consistent.of_quiet (keepsAnalysis_save w path) id
  | saveAs path => exact consistent.of_quiet (keepsAnalysis_saveAs w path) id
  | chooseFilter choice => exact consistent.of_quiet (keepsAnalysis_chooseFilter w choice) id
  | setText t | complete word => exact consistent.of_quiet (.setDocument w _) id
  | newFile => exact consistent.of_quiet ((KeepsAnalysis.setDocument w _).trans (.setFile _ none)) id
  | write path entry => exact consistent.of_quiet (.setFolder w _) id
  | activate row => exact consistent.of_quiet (keepsAnalysis_activate w row) id
  | jump line => exact consistent.of_quiet (.moveTo w (text_jump _ _)) id
  | moveCursor position => exact consistent.of_quiet (.moveTo w rfl) id
  | read path | hover line column | words => exact consistent.of_quiet (.refl w) id

theorem IsConsistent.of_turn {t : Turn} (consistent : w.IsConsistent analysed under)
    (kept : ∀ placeToo, t ≠ .command (.forget placeToo)) :
    w.IsConsistentAfter (w.turn t).1 (t.Completes w) (t.Loses w) analysed under := by
  cases t with
  | event e => exact consistent.of_step e
  | command c => exact consistent.of_command fun placeToo same => kept placeToo (congrArg _ same)

end

end AsmCheck.Editor.Window
