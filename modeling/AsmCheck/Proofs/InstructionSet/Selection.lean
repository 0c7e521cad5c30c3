import AsmCheck.InstructionSet.Selection
import AsmCheck.Proofs.History
import Mathlib.Data.List.Induction

/-! The set in use and where it comes from. Files may change and loads may fail at any time: the set in use stays what
its place held when it was last loaded, a failure changes nothing and is told to nobody, and every load is told to
all who have subscribed until then. -/

set_option autoImplicit false

namespace AsmCheck

theorem InstructionSet.ofBytes_eq_ok {place : Text} {bytes : ByteArray} {set : InstructionSet}
    (loaded : ofBytes place bytes = .ok set) :
    ∃ t data, decodeText? bytes = some t ∧ Json.read t = .ok data ∧ ofJson place data = .ok set := by
  unfold ofBytes at loaded
  split at loaded
  · cases loaded
  · next t decoded =>
    split at loaded
    · cases loaded
    · cases loaded
    · cases loaded
    · next data read =>
      split at loaded
      · cases loaded
      · next found =>
        cases loaded
        exact ⟨t, data, decoded, read, found⟩

/-- What stands at a place reads as an instruction set. -/
def Place.Holds (folder : Folder) (set : InstructionSet) : Place → Prop
  | .bundled => set = InstructionSet.bundled
  | .file path => ∃ found bytes t data, folder.reach path = .ok found ∧ folder.openResolved found = .ok bytes ∧
      decodeText? bytes = some t ∧ Json.read t = .ok data ∧
      InstructionSet.ofJson (Path.resolve folder.location found) data = .ok set

theorem Place.holds_of_load {folder : Folder} {place : Place} {set : InstructionSet}
    (loaded : place.load folder = .ok set) : place.Holds folder set := by
  cases place with
  | bundled =>
    cases loaded
    rfl
  | file path =>
    cases reached : folder.reach path with
    | error fault => simp [load, reached] at loaded
    | ok found =>
      simp only [load, reached, InstructionSet.load] at loaded
      split at loaded
      · next bytes opened =>
        obtain ⟨t, data, decoded, read, valid⟩ := InstructionSet.ofBytes_eq_ok loaded
        exact ⟨found, bytes, t, data, reached, opened, decoded, read, valid⟩
      all_goals cases loaded

namespace Selection

/-! ## One command -/

/-- The place that a command loads a set from. -/
def Command.source? (s : Selection) : Command → Option Place
  | .load path => some (.file path)
  | .reload => some (s.place.getD s.home)
  | .restore => some s.home
  | .current => if s.active.isNone then some s.home else none
  | _ => none

/-- Who subscribes by a command. -/
def Command.tag? : Command → Option Text
  | .subscribe tag => some tag
  | _ => none

section
variable {folder : Folder} {s : Selection} {c : Command} {place : Place}

theorem loadFrom_cases (folder : Folder) (s : Selection) (place : Place) :
    (∃ set, place.load folder = .ok set ∧ s.loadFrom folder place =
      ({ s with active := some set, place := some place }, .used set, s.subscribers.map fun tag => (tag, set))) ∨
    ∃ error, s.loadFrom folder place = (s, .failed error, []) := by
  unfold loadFrom
  cases loaded : place.load folder with
  | ok set => exact .inl ⟨set, rfl, rfl⟩
  | error error => exact .inr ⟨error, rfl⟩

theorem current_of_active {set : InstructionSet} (used : s.active = some set) :
    s.current folder = (s, .used set, []) := by
  simp [current, used]

theorem step_of_source (source : c.source? s = some place) : s.step folder c = (folder, s.loadFrom folder place) := by
  cases c with
  | load path | reload | restore =>
    cases source
    rfl
  | current =>
    cases used : s.active with
    | none =>
      simp only [Command.source?, used, Option.isNone_none, if_true, Option.some.injEq] at source
      simp [step, current, used, source]
    | some set => simp [Command.source?, used] at source
  | subscribe tag | announce | forget placeToo | siblings | write path entry | remove path => cases source

theorem step_of_no_source (nothing : c.source? s = none) (kept : ∀ placeToo, c ≠ .forget placeToo) :
    (s.step folder c).2.1.active = s.active ∧ (s.step folder c).2.1.place = s.place := by
  cases c with
  | load path | reload | restore => cases nothing
  | current =>
    cases used : s.active with
    | none => simp [Command.source?, used] at nothing
    | some set => simp [step, current_of_active used, used]
  | forget placeToo => exact absurd rfl (kept placeToo)
  | subscribe tag | announce | siblings | write path entry | remove path => exact ⟨rfl, rfl⟩

/-- Only a load can fail, and it leaves everything as it was. -/
theorem step_of_failed {error : InstructionSet.LoadError} (failed : (s.step folder c).2.2.1 = .failed error) :
    s.step folder c = (folder, s, .failed error, []) := by
  cases source : c.source? s with
  | some place =>
    rw [step_of_source source] at failed ⊢
    rcases loadFrom_cases folder s place with ⟨set, -, result⟩ | ⟨other, result⟩
    · simp [result] at failed
    · rw [result] at failed ⊢
      cases failed
      rfl
  | none =>
    cases c with
    | load path | reload | restore => cases source
    | current =>
      cases used : s.active with
      | none => simp [Command.source?, used] at source
      | some set => simp [step, current_of_active used] at failed
    | subscribe tag | announce | forget placeToo | siblings | write path entry | remove path => cases failed

theorem subscribers_loadFrom : (s.loadFrom folder place).1.subscribers = s.subscribers := by
  rcases loadFrom_cases folder s place with ⟨set, -, result⟩ | ⟨error, result⟩ <;> rw [result]

theorem subscribers_step : (s.step folder c).2.1.subscribers = s.subscribers ++ c.tag?.toList := by
  cases c with
  | load path | reload | restore => simp [step, reload, subscribers_loadFrom, Command.tag?]
  | current =>
    cases used : s.active with
    | none => simp [step, current, used, subscribers_loadFrom, Command.tag?]
    | some set => simp [step, current_of_active used, Command.tag?]
  | subscribe tag | announce | forget placeToo | siblings | write path entry | remove path =>
    simp [step, Command.tag?]

/-- A selection that uses a set goes on using one. It tells nobody while it keeps the set, and otherwise it
tells all who have subscribed of the set it uses then. -/
theorem step_tells_active {set : InstructionSet} (folder : Folder) (used : s.active = some set)
    (kept : ∀ placeToo, c ≠ .forget placeToo) :
    ∃ found, (s.step folder c).2.1.active = some found ∧
      ((s.step folder c).2.2.2 = [] ∧ found = set ∨
        (s.step folder c).2.2.2 = s.subscribers.map fun tag => (tag, found)) := by
  cases source : c.source? s with
  | some place =>
    rw [step_of_source source]
    rcases loadFrom_cases folder s place with ⟨found, -, result⟩ | ⟨error, result⟩
    · exact ⟨found, by rw [result], .inr (by rw [result])⟩
    · exact ⟨set, by rw [result, used], .inl ⟨by rw [result], rfl⟩⟩
  | none =>
    refine ⟨set, (step_of_no_source source kept).1.trans used, ?_⟩
    cases c with
    | load path | reload | restore => cases source
    | current => exact .inl ⟨by simp [step, current_of_active used], rfl⟩
    | announce => exact .inr (by simp [step, notices, used])
    | forget placeToo => exact absurd rfl (kept placeToo)
    | subscribe tag | siblings | write path entry | remove path => exact .inl ⟨rfl, rfl⟩

theorem active_of_current {now : Selection} {set : InstructionSet} {notices : Notices}
    (opened : s.current folder = (now, .used set, notices)) : now.active = some set := by
  cases used : s.active with
  | some known =>
    rw [current_of_active used] at opened
    cases opened
    exact used
  | none =>
    simp only [current, used] at opened
    rcases loadFrom_cases folder s s.home with ⟨found, -, result⟩ | ⟨error, result⟩
    · rw [result] at opened
      cases opened
      rfl
    · simp [result] at opened

/-- A command asks for a load, and is answered with the set that was found. -/
structure Loads (folder : Folder) (s : Selection) (c : Command) (place : Place) (set : InstructionSet) : Prop where
  source : c.source? s = some place
  answer : (s.step folder c).2.2.1 = .used set

/-- What is loaded was there to be read, it is in use from then on, and all subscribers are told. -/
theorem Loads.result {set : InstructionSet} (loads : Loads folder s c place set) : place.Holds folder set ∧
    s.step folder c = (folder, { s with active := some set, place := some place }, .used set,
      s.subscribers.map fun tag => (tag, set)) := by
  have answer := loads.answer
  rw [step_of_source loads.source] at answer ⊢
  rcases loadFrom_cases folder s place with ⟨found, loaded, result⟩ | ⟨error, result⟩
  · rw [result] at answer ⊢
    cases answer
    exact ⟨Place.holds_of_load loaded, rfl⟩
  · simp [result] at answer

/-- A command that does not load leaves the set in use, unless it is told to forget it. -/
theorem step_of_not_loads (unloaded : ∀ place set, ¬Loads folder s c place set)
    (kept : ∀ placeToo, c ≠ .forget placeToo) :
    (s.step folder c).2.1.active = s.active ∧ (s.step folder c).2.1.place = s.place := by
  cases source : c.source? s with
  | none => exact step_of_no_source source kept
  | some place =>
    rcases loadFrom_cases folder s place with ⟨set, -, result⟩ | ⟨error, result⟩
    · exact absurd ⟨source, by rw [step_of_source source, result]⟩ (unloaded place set)
    · rw [step_of_source source, result]
      exact ⟨rfl, rfl⟩

end

/-! ## Runs -/

/-- The files and the selection after commands, one after another. -/
def after (folder : Folder) (s : Selection) : List Command → Folder × Selection
  | [] => (folder, s)
  | c :: rest => after (s.step folder c).1 (s.step folder c).2.1 rest

theorem after_concat (folder : Folder) (s : Selection) (commands : List Command) (c : Command) :
    after folder s (commands ++ [c]) =
      (((after folder s commands).2.step (after folder s commands).1 c).1,
        ((after folder s commands).2.step (after folder s commands).1 c).2.1) := by
  induction commands generalizing folder s with
  | nil => rfl
  | cons first rest ih => exact ih _ _

/-- In a run, a command loads a set. -/
def LoadsAfter (folder : Folder) (s : Selection) (before : List Command) (c : Command) : Prop :=
  ∃ place set, Loads (after folder s before).1 (after folder s before).2 c place set

/-- The set in use is what its place held at the last load, which is that of the start if there was none since. -/
def UsesLastLoad (folder : Folder) (s : Selection) (commands : List Command) : Prop :=
  ∃ place set, (after folder s commands).2.active = some set ∧ (after folder s commands).2.place = some place ∧
    ∃ last, LastThat (LoadsAfter folder s) commands last ∧
      match last with
      | none => place = s.home ∧ place.Holds folder set
      | some (before, c) => Loads (after folder s before).1 (after folder s before).2 c place set ∧
        place.Holds (after folder s before).1 set

/-- Who has subscribed, in the order they came. -/
def subscribed (commands : List Command) : List Text := commands.filterMap Command.tag?

section
variable {folder : Folder} {home : Place} {s : Selection} {set : InstructionSet}

theorem start_eq_used (started : start folder home = (s, .used set)) :
    s = { home, active := some set, place := some home } ∧ home.Holds folder set := by
  unfold start at started
  rcases loadFrom_cases folder { home } home with ⟨found, loaded, result⟩ | ⟨error, result⟩
  · rw [result] at started
    cases started
    exact ⟨rfl, Place.holds_of_load loaded⟩
  · simp [result] at started

theorem subscribers_after (folder : Folder) (s : Selection) (commands : List Command) :
    (after folder s commands).2.subscribers = s.subscribers ++ subscribed commands := by
  induction commands generalizing folder s with
  | nil => simp [after, subscribed]
  | cons c rest ih =>
    rw [after, ih, subscribers_step, List.append_assoc]
    cases told : c.tag? <;> simp [subscribed, told]

theorem UsesLastLoad.concat {commands : List Command} {c : Command} (uses : UsesLastLoad folder s commands)
    (kept : ∀ placeToo, c ≠ .forget placeToo) : UsesLastLoad folder s (commands ++ [c]) := by
  unfold UsesLastLoad
  rw [after_concat]
  by_cases loading : LoadsAfter folder s commands c
  · obtain ⟨place, set, loads⟩ := loading
    obtain ⟨holds, result⟩ := loads.result
    exact ⟨place, set, by rw [result], by rw [result], _, .of_counts ⟨place, set, loads⟩, loads, holds⟩
  · obtain ⟨place, set, active, placed, last, latest, origin⟩ := uses
    have unloaded := step_of_not_loads (fun place set loads => loading ⟨place, set, loads⟩) kept
    exact ⟨place, set, unloaded.1.trans active, unloaded.2.trans placed, last, latest.of_not_counts loading, origin⟩

theorem usesLastLoad_after (started : start folder home = (s, .used set)) {commands : List Command}
    (kept : ∀ c ∈ commands, ∀ placeToo, c ≠ .forget placeToo) : UsesLastLoad folder s commands := by
  induction commands using List.reverseRecOn with
  | nil =>
    obtain ⟨rfl, holds⟩ := start_eq_used started
    exact ⟨home, set, rfl, rfl, none, .nil, rfl, holds⟩
  | append_singleton commands c ih =>
    exact (ih fun d member => kept d (List.mem_append_left _ member)).concat (kept c (by simp))

/-- A selection that was made with a set, and is never told to forget it, uses what its place held at the last load,
after whatever has happened to the files. A failure leaves everything as it was and is told to nobody, a load goes
to all who have subscribed until then, and asking for the set in use does neither. -/
theorem selection_follows_last_load (started : start folder home = (s, .used set)) (commands : List Command)
    (kept : ∀ c ∈ commands, ∀ placeToo, c ≠ .forget placeToo) :
    UsesLastLoad folder s commands ∧
    ∀ files now, after folder s commands = (files, now) →
      (∀ c error, (now.step files c).2.2.1 = .failed error → now.step files c = (files, now, .failed error, [])) ∧
      (∀ c place, c.source? now = some place →
        (∃ found, Loads files now c place found) ∨ ∃ error, (now.step files c).2.2.1 = .failed error) ∧
      (∀ c place found, Loads files now c place found → place.Holds files found ∧
        now.step files c = (files, { now with active := some found, place := some place }, .used found,
          (subscribed commands).map fun tag => (tag, found))) ∧
      ∃ used, now.active = some used ∧ now.step files .current = (files, now, .used used, []) := by
  have uses := usesLastLoad_after started kept
  refine ⟨uses, ?_⟩
  intro files now reached
  refine ⟨fun c error failed => step_of_failed failed, ?_, ?_, ?_⟩
  · intro c place source
    rcases loadFrom_cases files now place with ⟨found, -, result⟩ | ⟨error, result⟩
    · exact .inl ⟨found, source, by rw [step_of_source source, result]⟩
    · exact .inr ⟨error, by rw [step_of_source source, result]⟩
  · intro c place found loads
    have told : now.subscribers = subscribed commands := by
      have registered := subscribers_after folder s commands
      rwa [reached, (start_eq_used started).1, List.nil_append] at registered
    rw [← told]
    exact loads.result
  · obtain ⟨place, used, active, -⟩ := uses
    rw [reached] at active
    exact ⟨used, active, congrArg (Prod.mk files) (current_of_active active)⟩

end

/-- The table of a set that has one operation. -/
def tinyTable : String :=
  "\x7b\"schema_version\": 1, \"name\": \"Tiny\", \"registers\": [\x7b\"name\": \"a\"\x7d], " ++
  "\"instructions\": [\x7b\"mnemonic\": \"go\", \"summary\": \"Go\", \"operands\": 0\x7d]\x7d"

def tinyFolder : Folder := { location := "/w", entries := [(["w", "t.json"], .file tinyTable.toUTF8)] }

def tinySet : InstructionSet :=
  ⟨.int 1, "Tiny", [], [⟨"A", []⟩], [], [⟨"GO", "Go", "GO", .exactly 0, false, [], [], 1⟩]⟩

theorem load_tinyFolder : (Place.file "t.json").load tinyFolder = .ok tinySet := by decide +kernel

/-- The table is loaded, and then something else is written over it. -/
def tinyCommands : List Command := [.subscribe "a", .load "t.json", .write ["w", "t.json"] (.file "[".toUTF8)]

/-- A file that is broken after it was loaded cannot be loaded again, and the set that was in it stays in use. -/
theorem selection_survives_broken_file :
    ∃ s files now, start tinyFolder .bundled = (s, .used InstructionSet.bundled) ∧
      after tinyFolder s tinyCommands = (files, now) ∧ UsesLastLoad tinyFolder s tinyCommands ∧
      now.active = some tinySet ∧ now.step files .reload = (files, now, .failed (.malformed "/w/t.json"), []) := by
  have broken : (Place.file "t.json").load (tinyFolder.put ["w", "t.json"] (.file "[".toUTF8)) =
      .error (.malformed "/w/t.json") := by decide +kernel
  have started : start tinyFolder .bundled =
      ({ home := .bundled, active := some InstructionSet.bundled, place := some .bundled },
        .used InstructionSet.bundled) := rfl
  have reached : after tinyFolder
      { home := .bundled, active := some InstructionSet.bundled, place := some .bundled } tinyCommands =
      (tinyFolder.put ["w", "t.json"] (.file "[".toUTF8),
        { home := .bundled, active := some tinySet, place := some (.file "t.json"), subscribers := ["a"] }) := by
    simp [tinyCommands, after, step, loadFrom, load_tinyFolder]
  obtain ⟨uses, onwards⟩ := selection_follows_last_load started tinyCommands (by simp [tinyCommands])
  refine ⟨_, _, _, started, reached, uses, rfl, (onwards _ _ reached).1 .reload _ ?_⟩
  simp only [step, reload, loadFrom, Option.getD_some, broken]

end Selection

end AsmCheck
