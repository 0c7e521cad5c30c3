import AsmCheck.InstructionSet.Bundled
import AsmCheck.Proofs.Analysis.Ranges
import AsmCheck.Proofs.Analysis.Retexting
import AsmCheck.Proofs.Assembly.Retexting
import AsmCheck.Proofs.Source.Comments

/-! Trailing comments do not interfere. Of a text and the same text with a comment behind one of its lines, assembly
makes one program and the analysis says one thing. Only what quotes the line quotes the comment too, and only what
ends on the line ends behind the comment. -/

set_option autoImplicit false

namespace AsmCheck

open Source (Line Commentable Unmarked withComment)

variable {texts : List Text} {index : Nat} {line comment : Text}

theorem getD_set (found : texts[index]? = some line) (text : Text) (position : Nat) :
    (texts.set index text).getD position [] = if position = index then text else texts.getD position [] := by
  have inside : index < texts.length := (List.getElem?_eq_some_iff.1 found).1
  by_cases here : position = index
  · simp [List.getD_eq_getElem?_getD, here, inside]
  · simp [List.getD_eq_getElem?_getD, List.getElem?_set_ne (Ne.symm here), here]

theorem text_of_mem_number_of_index (found : texts[index]? = some line) {numbered : Line}
    (member : numbered ∈ Source.number texts) (here : numbered.index = index) : numbered.text = line := by
  have own := Source.text_of_mem_number member
  rw [here, found] at own
  exact (Option.some.inj own).symm

/-! ## Assembly -/

def Instruction.requoted (number : Nat) (text : Text) (i : Instruction) : Instruction :=
  if i.line = number then { i with raw := Text.trim text } else i

/-- The same program where the instruction of one line, counted from one, is quoted from another text. -/
def Program.requoted (number : Nat) (text : Text) (p : Program) : Program :=
  { p with instructions := p.instructions.map (Instruction.requoted number text) }

theorem lineText_set (found : texts[index]? = some line) (text : Text) (number : Nat) :
    lineText (texts.set index text) number = if number = index + 1 then text else lineText texts number := by
  cases number with
  | zero => rfl
  | succ n => simpa [lineText] using getD_set found text n

theorem Instruction.requoted_within (found : texts[index]? = some line) (text : Text) (i : Instruction) :
    (i.within texts).requoted (index + 1) text = i.within (texts.set index text) := by
  by_cases here : i.line = index + 1 <;>
    simp [Instruction.within, Instruction.requoted, lineText_set found, here]

namespace Assembly

def Failure.requoted (number : Nat) (text : Text) : Failure → Failure
  | .rejected r => .rejected (if r.line = number then { r with text } else r)
  | .numeral => .numeral

/-- The same result where one line, counted from one, is quoted from another text. -/
def Result.requoted (number : Nat) (text : Text) (result : Result) : Result :=
  ⟨result.remarks, (result.program.map (Program.requoted number text)).mapError (Failure.requoted number text)⟩

theorem Failure.requoted_within (found : texts[index]? = some line) (text : Text) (failure : Failure) :
    (failure.within texts).requoted (index + 1) text = failure.within (texts.set index text) := by
  cases failure with
  | numeral => rfl
  | rejected r =>
    by_cases here : r.line = index + 1 <;> simp [Failure.within, Failure.requoted, lineText_set found, here]

/-- To quote all lines from a list with one text changed is to quote them from the list, and then the one from the
changed text. -/
theorem Result.requoted_within (found : texts[index]? = some line) (text : Text) (result : Result) :
    (result.within texts).requoted (index + 1) text = result.within (texts.set index text) := by
  obtain ⟨remarks, program⟩ := result
  cases program with
  | error failure =>
    simp [Result.within, Result.requoted, Except.map, Except.mapError, Failure.requoted_within found]
  | ok p =>
    simp [Result.within, Result.requoted, Except.map, Except.mapError, Program.within, Program.requoted,
      Instruction.requoted_within found]

/-- What the line said it says with a comment behind it, so only its quotations change. -/
theorem assembleLines_withComment (found : texts[index]? = some line) (commentable : Commentable line)
    (unmarked : Unmarked comment) :
    assembleLines (Source.number (texts.set index (withComment line comment))) =
      (assembleLines (Source.number texts)).requoted (index + 1) (withComment line comment) := by
  have bodies : ∀ numbered ∈ Source.number texts,
      Source.body (numbered.commentAt (texts.set index (withComment line comment)) index).text =
        Source.body numbered.text := by
    intro numbered member
    simp only [Line.commentAt, getD_set found]
    split
    · next here => rw [text_of_mem_number_of_index found member here, commentable.body_withComment]
    · rw [Source.getD_of_mem_number member]
  -- The old result quotes the old text already, so it is enough to quote the one line anew.
  rw [Source.number_set_withComment found commentable unmarked,
    assembleLines_map (Line.retexts_commentAt _ index) bodies, ← Result.requoted_within found, assembleLines_within]

end Assembly

/-! ## Analysis -/

/-- The same range, which ends at another column if it ends on a given line. -/
def Range.endingAt (index column : Nat) (r : Range) : Range :=
  if r.endLine = index then { r with endColumn := column } else r

def Diagnostic.endingAt (index column : Nat) (d : Diagnostic) : Diagnostic :=
  { d with range := d.range.endingAt index column }

namespace Analysis

/-- A range that starts at something visible starts there with the comment too. -/
theorem Anchored.within_withComment {r : Range} (anchored : Anchored (Source.number texts) r)
    (found : texts[index]? = some line) (comment : Text) :
    r.within (texts.set index (withComment line comment)) =
      r.endingAt index (Source.endColumn (withComment line comment)) := by
  obtain ⟨first, start, last, stop, code, -, rfl⟩ := anchored
  have starts : Source.startColumn ((texts.set index (withComment line comment)).getD first.index []) =
      Source.startColumn first.text := by
    rw [getD_set found]
    split
    · next here =>
      have text := text_of_mem_number_of_index found start here
      have visible := Source.isBlank_of_mem_number start code
      rw [text] at visible ⊢
      exact Source.startColumn_withComment visible comment
    · rw [Source.getD_of_mem_number start]
  simp only [Range.within, Range.endingAt, Line.rangeTo, Int.toNat_natCast, starts, Int.natCast_inj]
  rw [getD_set found]
  split
  · rfl
  · rw [Source.getD_of_mem_number stop]

/-- The analysis says the same of a text with the comment, up to where it stops pointing. -/
theorem diagnostics_withComment (set : InstructionSet) (found : texts[index]? = some line)
    (commentable : Commentable line) (unmarked : Unmarked comment) :
    (ofLines set (texts.set index (withComment line comment))).map Analysis.diagnostics =
      ((ofLines set texts).map Analysis.diagnostics).map
        (List.map (Diagnostic.endingAt index (Source.endColumn (withComment line comment)))) := by
  have split (others : List Text) : (ofLines set others).map Analysis.diagnostics =
      ((ofLines set others).map Analysis.reports).map (List.map Report.diagnostic) := by
    cases ofLines set others <;> rfl
  rw [split, reports_retexted (Line.retexts_commentAt _ index)
    (Source.number_set_withComment found commentable unmarked)]
  cases analyzed : ofLines set texts with
  | error limit => rfl
  | ok a =>
    have each : ∀ r ∈ a.reports, (r.within (texts.set index (withComment line comment))).diagnostic =
        r.diagnostic.endingAt index (Source.endColumn (withComment line comment)) := by
      intro r member
      have range := (anchored_of_mem_reports analyzed member).within_withComment found comment
      simp only [Report.within, Report.diagnostic, Diagnostic.endingAt, range]
    simpa [Except.map, Analysis.diagnostics] using each

theorem analyze_eq_map (set : InstructionSet) (t : Text) :
    analyze set t = (ofLines set (Text.lines t)).map Analysis.diagnostics := by
  rw [analyze, ofText]
  cases ofLines set (Text.lines t) <;> rfl

end Analysis

open Analysis (diagnostics_withComment analyze_eq_map)
open Assembly (assemble assembleLines_withComment)

theorem unbroken_withComment (unbroken : ∀ t ∈ texts, ∀ c ∈ t, Text.isBreak c = false)
    (found : texts[index]? = some line) (single : ∀ c ∈ comment, Text.isBreak c = false) :
    ∀ t ∈ texts.set index (withComment line comment), ∀ c ∈ t, Text.isBreak c = false := by
  intro t member c inside
  rcases List.mem_or_eq_of_mem_set member with old | rfl
  · exact unbroken t old c inside
  · rcases List.mem_append.1 inside with before | after
    · exact unbroken line (List.mem_of_getElem? found) c before
    · rcases List.mem_cons.1 after with rfl | later
      · decide
      · exact single c later

/-- A comment behind one line of a text is seen by neither assembly nor analysis. Assembly makes the same remarks and
the same program, or stops at the same place, and the analysis has the same things to say; only the line itself is
quoted with the comment, and what ends on it ends where the comment does. -/
theorem trailing_comment_unseen (set : InstructionSet) (unbroken : ∀ t ∈ texts, ∀ c ∈ t, Text.isBreak c = false)
    (found : texts[index]? = some line) (commentable : Commentable line)
    (single : ∀ c ∈ comment, Text.isBreak c = false) (unmarked : Unmarked comment) :
    assemble (Text.terminated (texts.set index (withComment line comment))) =
      (assemble (Text.terminated texts)).requoted (index + 1) (withComment line comment) ∧
    analyze set (Text.terminated (texts.set index (withComment line comment))) =
      (analyze set (Text.terminated texts)).map
        (List.map (Diagnostic.endingAt index (Source.endColumn (withComment line comment)))) := by
  have lines := Text.lines_terminated unbroken
  have lines' := Text.lines_terminated (unbroken_withComment unbroken found single)
  constructor
  · rw [assemble, assemble, lines, lines']
    exact assembleLines_withComment found commentable unmarked
  · rw [analyze_eq_map, analyze_eq_map, lines, lines']
    exact diagnostics_withComment set found commentable unmarked

/-- The semicolon in quotes is part of the line, and the quote, the colon and the definition behind the other one are
not. -/
theorem trailing_comment_behind_quoted_semicolon :
    (assemble "f: PUSH ';' ; don't: N EQU 1\nCALL f\n").program =
      .ok ⟨[⟨1, "PUSH", ["';'"], "f: PUSH ';' ; don't: N EQU 1"⟩, ⟨2, "CALL", ["f"], "CALL f"⟩], [("f", 0)], [], [], 0⟩ ∧
    (analyze InstructionSet.bundled "f: PUSH ';' ; don't: N EQU 1\nCALL f\n").map (List.map (·.range)) =
      .ok [⟨0, 0, 0, 28⟩, ⟨0, 0, 1, 6⟩, ⟨0, 0, 0, 28⟩] := by
  have unbroken : ∀ t ∈ (["f: PUSH ';' ", "CALL f"] : List Text), ∀ c ∈ t, Text.isBreak c = false := by decide +kernel
  have commentable : Commentable "f: PUSH ';' " := by decide +kernel
  have single : ∀ c ∈ (" don't: N EQU 1" : Text), Text.isBreak c = false := by decide +kernel
  have unmarked : Unmarked " don't: N EQU 1" := by decide +kernel
  have found : (["f: PUSH ';' ", "CALL f"] : List Text)[0]? = some (Text.ofString "f: PUSH ';' ") := rfl
  have whole : Text.terminated
      ((["f: PUSH ';' ", "CALL f"] : List Text).set 0 (withComment "f: PUSH ';' " " don't: N EQU 1")) =
      "f: PUSH ';' ; don't: N EQU 1\nCALL f\n" := by decide +kernel
  obtain ⟨assembled, analyzed⟩ :=
    trailing_comment_unseen InstructionSet.bundled unbroken found commentable single unmarked
  rw [whole] at assembled analyzed
  rw [assembled, analyzed]
  exact ⟨by decide +kernel, by decide +kernel⟩

end AsmCheck
