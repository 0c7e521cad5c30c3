import AsmCheck.Editor.Problems
import AsmCheck.Proofs.History
import Mathlib.Data.List.Nodup
import Mathlib.Order.Bounds.Basic

/-! Diagnostics that come in any order. A panel keeps those of the newest version it has seen, the later ones
among equals, and its rows are never out of step with them. So it does not matter in which order the analyses of
different versions end. -/

set_option autoImplicit false

namespace AsmCheck.Editor

open Numeral (TooLong)

/-- Diagnostics with the version of the text they are about. -/
structure Publication where
  version : Int
  diagnostics : List Diagnostic

/-- As new as everything that was published before, and no older than a panel that has seen nothing. -/
def Publication.IsNews (before : List Publication) (p : Publication) : Prop :=
  -1 ≤ p.version ∧ ∀ q ∈ before, q.version ≤ p.version

/-! ## One publication -/

/-- The versions that have been seen after some publications, that of an empty panel among them. -/
def seenVersions (publications : List Publication) : Set Int := {v | v = -1 ∨ ∃ p ∈ publications, p.version = v}

theorem seenVersions_append (first second : List Publication) :
    seenVersions (first ++ second) = seenVersions first ∪ {v | ∃ p ∈ second, p.version = v} := by
  ext v
  simp [seenVersions, or_and_right, exists_or, or_assoc]

theorem seenVersions_perm {first second : List Publication} (reordered : first.Perm second) :
    seenVersions first = seenVersions second := by
  ext v
  simp [seenVersions, reordered.mem_iff]

namespace Problems

/-- The problems are those of the last news, and their version is the greatest that has been seen. -/
structure Follows (problems : Problems) (publications : List Publication) : Prop where
  greatest : IsGreatest (seenVersions publications) problems.version
  latest : ∃ last, LastThat Publication.IsNews publications last ∧
    problems.version = last.elim (-1) (·.2.version) ∧ problems.diagnostics = last.elim [] (·.2.diagnostics)

variable {problems : Problems} {publications : List Publication} {p : Publication}

theorem follows_nil (set : Option InstructionSet) : Follows { set } [] where
  greatest := by simp [seenVersions, IsGreatest, upperBounds]
  latest := ⟨none, .nil, rfl, rfl⟩

/-- Whether a publication is news can be told from the version that is kept. -/
theorem Follows.isNews_iff (follows : problems.Follows publications) :
    Publication.IsNews publications p ↔ problems.version ≤ p.version := by
  constructor
  · rintro ⟨fresh, newer⟩
    rcases follows.greatest.1 with start | ⟨q, member, version⟩
    · exact start ▸ fresh
    · exact version ▸ newer q member
  · intro newer
    refine ⟨(follows.greatest.2 (.inl rfl)).trans newer, ?_⟩
    intro q member
    exact (follows.greatest.2 (.inr ⟨q, member, rfl⟩)).trans newer

theorem Follows.of_stale (follows : problems.Follows publications) (stale : p.version < problems.version) :
    problems.Follows (publications ++ [p]) where
  greatest := by
    rw [seenVersions_append]
    refine ⟨.inl follows.greatest.1, ?_⟩
    rintro v (before | last)
    · exact follows.greatest.2 before
    · simp only [List.mem_singleton, exists_eq_left, Set.mem_ofPred] at last
      exact last ▸ stale.le
  latest := by
    obtain ⟨last, latest, kept⟩ := follows.latest
    have old : ¬Publication.IsNews publications p := fun news => absurd (follows.isNews_iff.1 news) (not_le.2 stale)
    exact ⟨last, latest.of_not_counts old, kept⟩

theorem Follows.of_newer (follows : problems.Follows publications) (newer : problems.version ≤ p.version) :
    Follows { problems with version := p.version, diagnostics := p.diagnostics } (publications ++ [p]) where
  greatest := by
    rw [seenVersions_append]
    refine ⟨.inr ⟨p, by simp, rfl⟩, ?_⟩
    rintro v (before | last)
    · exact (follows.greatest.2 before).trans newer
    · simp only [List.mem_singleton, exists_eq_left, Set.mem_ofPred] at last
      exact last.ge
  latest := ⟨some (publications, p), .of_counts (follows.isNews_iff.2 newer), rfl, rfl⟩

/-- Publications of different versions leave the same diagnostics in every order. -/
theorem Follows.diagnostics_of_perm {others : Problems} {reordered : List Publication}
    (follows : problems.Follows publications) (follows' : others.Follows reordered)
    (perm : reordered.Perm publications) (distinct : (publications.map Publication.version).Nodup)
    (counted : ∀ q ∈ publications, 0 ≤ q.version) : others.diagnostics = problems.diagnostics := by
  have same : others.version = problems.version :=
    (seenVersions_perm perm ▸ follows'.greatest).unique follows.greatest
  obtain ⟨last, latest, version, diagnostics⟩ := follows.latest
  obtain ⟨last', latest', version', diagnostics'⟩ := follows'.latest
  rw [diagnostics, diagnostics']
  rw [version, version'] at same
  -- The newest version decides which publication came last, or that there was none.
  cases last with
  | none =>
    cases last' with
    | none => rfl
    | some found' =>
      have counts := counted found'.2 (perm.mem_iff.1 latest'.mem)
      simp only [Option.elim] at same
      omega
  | some found =>
    have counts := counted found.2 latest.mem
    cases last' with
    | none =>
      simp only [Option.elim] at same
      omega
    | some found' =>
      have equal := List.inj_on_of_nodup_map distinct (perm.mem_iff.1 latest'.mem) latest.mem same
      simp only [Option.elim, equal]

end Problems

/-! ## Runs of a panel -/

namespace Panel

/-- A stale publication leaves the panel as it was, and any other one goes to the rows at once. -/
theorem publish_cases (p : Panel) (version : Int) (diagnostics : List Diagnostic) :
    version < p.problems.version ∧ p.publish version diagnostics = (p, false) ∨
    p.problems.version ≤ version ∧ p.publish version diagnostics =
      ({ p with
          problems := { p.problems with version, diagnostics }
          rows := diagnostics.filter (passes p.filter) }, true) := by
  unfold publish Problems.publish
  by_cases stale : version < p.problems.version
  · exact .inl ⟨stale, by simp [stale]⟩
  · exact .inr ⟨not_lt.1 stale, by simp [stale, refresh]⟩

/-- What others do to a panel: they publish diagnostics or choose a filter. -/
inductive Update where
  | publish (p : Publication)
  | filter (sources : Option (List Text))

namespace Update

def event : Update → Event
  | .publish p => .publish p.version p.diagnostics
  | .filter sources => .filter sources

def publication? : Update → Option Publication
  | .publish p => some p
  | .filter _ => none

def filter? : Update → Option (Option (List Text))
  | .publish _ => none
  | .filter sources => some sources

end Update

def publications (updates : List Update) : List Publication := updates.filterMap Update.publication?

/-- The filter that was chosen last. -/
def chosenFilter? (updates : List Update) : Option (Option (List Text)) :=
  (updates.filterMap Update.filter?).getLast?

/-- The panel after updates, one after another. -/
def after (p : Panel) : List Update → Except TooLong Panel
  | [] => .ok p
  | u :: rest => do (← p.step u.event).1.after rest

/-- The problems follow the publications, and the rows are what the filter lets through of them. -/
structure Shows (p : Panel) (publications : List Publication) (filter : Option (List Text)) : Prop where
  problems : p.problems.Follows publications
  filter : p.filter = filter
  rows : p.rows = p.problems.diagnostics.filter (passes p.filter)

theorem shows_nil (set : Option InstructionSet) : Shows { problems := { set } } [] none :=
  ⟨Problems.follows_nil set, rfl, rfl⟩

theorem Shows.publish {p : Panel} {history : List Publication} {filter : Option (List Text)}
    (shows : p.Shows history filter) (q : Publication) :
    (p.publish q.version q.diagnostics).1.Shows (history ++ [q]) filter := by
  rcases p.publish_cases q.version q.diagnostics with ⟨stale, result⟩ | ⟨newer, result⟩
  · rw [result]
    exact ⟨shows.problems.of_stale stale, shows.filter, shows.rows⟩
  · rw [result]
    exact ⟨shows.problems.of_newer newer, shows.filter, rfl⟩

theorem Shows.after {p : Panel} {history : List Publication} {filter : Option (List Text)}
    (shows : p.Shows history filter) (updates : List Update) :
    ∃ q, p.after updates = .ok q ∧
      q.Shows (history ++ publications updates) ((chosenFilter? updates).getD filter) := by
  induction updates generalizing p history filter with
  | nil => exact ⟨p, rfl, by simpa [publications, chosenFilter?] using shows⟩
  | cons u rest ih =>
    cases u with
    | publish published =>
      obtain ⟨q, reached, later⟩ := ih (shows.publish published)
      rw [List.append_assoc] at later
      exact ⟨q, reached, later⟩
    | filter sources =>
      have chosen : (p.setFilter sources).Shows history sources := ⟨shows.problems, rfl, rfl⟩
      have last : (chosenFilter? (.filter sources :: rest)).getD filter = (chosenFilter? rest).getD sources := by
        simp [chosenFilter?, Update.filter?, List.getLast?_cons]
      obtain ⟨q, reached, later⟩ := ih chosen
      exact ⟨q, reached, last ▸ later⟩

/-- A panel that has seen nothing takes publications and filters in any order. Its version is then the greatest that
was published and never falls, its diagnostics are those of the last news, its rows are what the last filter
lets through, and a publication that is no news changes nothing. Publications of different versions leave the same
diagnostics in every order. -/
theorem newest_publication_shown (set : Option InstructionSet) (updates : List Update) :
    ∃ p, after { problems := { set } } updates = .ok p ∧
      IsGreatest (seenVersions (publications updates)) p.problems.version ∧
      (∀ more q, after { problems := { set } } (updates ++ more) = .ok q →
        p.problems.version ≤ q.problems.version) ∧
      (∃ last, LastThat Publication.IsNews (publications updates) last ∧
        p.problems.diagnostics = last.elim [] (·.2.diagnostics)) ∧
      (∀ version diagnostics, ∃ q taken, p.step (.publish version diagnostics) = .ok (q, taken) ∧
        (taken = true ↔ Publication.IsNews (publications updates) ⟨version, diagnostics⟩) ∧
        (taken = false → q = p)) ∧
      (p.rows = p.problems.diagnostics.filter fun d =>
        ∀ sources ∈ (chosenFilter? updates).getD none, d.source ∈ sources) ∧
      ∀ others, (publications others).Perm (publications updates) →
        ((publications updates).map Publication.version).Nodup →
        (∀ q ∈ publications updates, 0 ≤ q.version) →
        ∃ q, after { problems := { set } } others = .ok q ∧
          q.problems.diagnostics = p.problems.diagnostics := by
  obtain ⟨p, reached, shows⟩ := (shows_nil set).after updates
  rw [List.nil_append] at shows
  obtain ⟨last, latest, -, diagnostics⟩ := shows.problems.latest
  refine ⟨p, reached, shows.problems.greatest, ?_, ⟨last, latest, diagnostics⟩, ?_, ?_, ?_⟩
  · intro more q later
    obtain ⟨_, again, onwards⟩ := (shows_nil set).after (updates ++ more)
    cases later.symm.trans again
    apply onwards.problems.greatest.2
    rw [List.nil_append, publications, List.filterMap_append, seenVersions_append]
    exact .inl shows.problems.greatest.1
  · intro version diagnostics
    rw [shows.problems.isNews_iff]
    rcases p.publish_cases version diagnostics with ⟨stale, result⟩ | ⟨newer, result⟩
    · exact ⟨p, false, congrArg Except.ok result, by simpa using stale, fun _ => rfl⟩
    · exact ⟨_, true, congrArg Except.ok result, by simpa using newer, fun rejected => by simp at rejected⟩
  · rw [shows.rows, shows.filter]
    apply List.filter_congr
    intro d _
    cases (chosenFilter? updates).getD none with
    | none => simp [passes]
    | some sources => simp [passes]
  · intro others perm distinct counted
    obtain ⟨q, ended, shown⟩ := (shows_nil set).after others
    exact ⟨q, ended, shows.problems.diagnostics_of_perm shown.problems perm distinct counted⟩

/-- An analysis of version 1 that ends after that of version 2 comes too late, whether or not a filter hides what
the other one has found. -/
theorem newest_publication_late_analysis :
    ∃ p q,
      after {} [.publish ⟨2, [⟨.error, ⟨0, 0, 0, 3⟩, "second", "asm-flow"⟩]⟩, .filter (some ["asm-labels"]),
        .publish ⟨1, []⟩] = .ok p ∧
      p.rows = [] ∧ p.problems.diagnostics = [⟨.error, ⟨0, 0, 0, 3⟩, "second", "asm-flow"⟩] ∧
      after {} [.publish ⟨1, []⟩, .publish ⟨2, [⟨.error, ⟨0, 0, 0, 3⟩, "second", "asm-flow"⟩]⟩] = .ok q ∧
      q.problems.diagnostics = p.problems.diagnostics := by
  obtain ⟨p, reached, -, -, -, -, rows, ordered⟩ := newest_publication_shown none
    [.publish ⟨2, [⟨.error, ⟨0, 0, 0, 3⟩, "second", "asm-flow"⟩]⟩, .filter (some ["asm-labels"]), .publish ⟨1, []⟩]
  obtain ⟨q, reordered, same⟩ := ordered
    [.publish ⟨1, []⟩, .publish ⟨2, [⟨.error, ⟨0, 0, 0, 3⟩, "second", "asm-flow"⟩]⟩]
    (List.Perm.swap _ _ _) (by decide) (by simp [publications, Update.publication?])
  have shown : p.problems.diagnostics = [⟨.error, ⟨0, 0, 0, 3⟩, "second", "asm-flow"⟩] := by
    cases reached
    rfl
  refine ⟨p, q, reached, ?_, shown, reordered, same⟩
  rw [rows, shown]
  decide

end Panel

end AsmCheck.Editor
