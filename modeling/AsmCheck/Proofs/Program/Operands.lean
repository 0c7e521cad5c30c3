import AsmCheck.Proofs.Program.Substitution
import AsmCheck.Proofs.Source.Operands

/-! Constants and operands. Putting constants in neither joins nor divides operands: the operands of the new
text are those of the old one with the constants put in. -/

set_option autoImplicit false

namespace AsmCheck.Program

open Source (Piece Leads Nesting Passes isQuote isNameChar isNeutral fieldsFrom)

variable {constants : Bindings Int} {t s : Text}

theorem isNeutral_of_isNumeralChar {c : CodePoint} (numeral : isNumeralChar c = true) : isNeutral c = true := by
  rcases isNumeralChar_cases numeral with name | rfl
  · exact Source.isNeutral_of_isNameChar name
  · decide

namespace Substituted

/-- Where a scan passes over a beginning of each text to the same nesting, the fields stay related. -/
theorem fields_join {n m : Nesting} {head rest newHead tail : Text}
    (both : List.Forall₂ (Substituted constants) (fieldsFrom m rest) (fieldsFrom m tail))
    (old : Passes n head m) (new : Passes n newHead m)
    (join : ∀ {field other}, field <+: rest → Substituted constants field other →
      Substituted constants (head ++ field) (newHead ++ other)) :
    List.Forall₂ (Substituted constants) (fieldsFrom n (head ++ rest)) (fieldsFrom n (newHead ++ tail)) := by
  obtain ⟨field, fields, split, start⟩ := Source.exists_first_field m rest
  obtain ⟨other, others, splitTail, -⟩ := Source.exists_first_field m tail
  rw [split, splitTail, List.forall₂_cons] at both
  rw [old.fieldsFrom_append split, new.fieldsFrom_append splitTail]
  exact .cons (join start both.1) both.2

/-- A scan of the old text and one of the new text cut at the same commas. They keep in step up to a quote
that is never closed, and after that neither cuts any more. -/
theorem fields (related : Substituted constants t s) {n : Nesting} (outside : n.quote = none) :
    List.Forall₂ (Substituted constants) (fieldsFrom n t) (fieldsFrom n s) := by
  induction related generalizing n with
  | nil => exact .cons .nil .nil
  | @kept p rest tail leads unbound related ih =>
    have join : ∀ {field other : Text}, field <+: rest → Substituted constants field other →
        Substituted constants (p.text ++ field) (p.text ++ other) :=
      fun start fieldRelated => .kept (leads.of_prefix start) unbound fieldRelated
    cases leads with
    | @quoted q inside rest quote absent =>
      have passes : Passes n (Piece.quoted q inside).text n := .quoted outside quote absent
      exact fields_join (ih outside) passes passes join
    | @word letters rest some inside stop =>
      have neutral : ∀ c ∈ letters, isNeutral c = true :=
        fun c member => Source.isNeutral_of_isNameChar (inside c member)
      have passes : Passes n letters n := .neutral outside neutral
      exact fields_join (ih outside) passes passes join
    | @lone q rest quote absent =>
      -- The quote stays open to the end, so each text is a single field.
      have whole : ∀ {rest : Text}, q ∉ rest → fieldsFrom n ((Piece.other q).text ++ rest) = [q :: rest] := by
        intro rest absent
        exact (Passes.opened outside quote (.unclosed rfl absent)).fieldsFrom_eq
      rw [whole absent, whole (related.edited.not_mem_quote quote absent)]
      exact .cons (.kept (.lone quote absent) unbound related) .nil
    | @plain c rest noQuote noName =>
      have still : (n.after c).quote = none := by simp [Nesting.after, Source.openAfter, outside, noQuote]
      cases cut : n.separates c with
      | true =>
        simp only [Piece.text, List.singleton_append, fieldsFrom, cut, if_true]
        exact .cons .nil (ih still)
      | false =>
        have passes : Passes n [c] (n.after c) := .cons cut .nil
        exact fields_join (ih still) passes passes join
  | @replaced letters rest tail v leads named found short related ih =>
    have neutral : ∀ c ∈ letters, isNeutral c = true := by
      cases leads with
      | word _ inside _ => exact fun c member => Source.isNeutral_of_isNameChar (inside c member)
    have numeral : ∀ c ∈ Text.ofInt v, isNeutral c = true :=
      fun c member => isNeutral_of_isNumeralChar (isNumeralChar_of_mem_ofInt member)
    exact fields_join (ih outside) (.neutral outside neutral) (.neutral outside numeral)
      (fun start fieldRelated => .replaced (leads.of_prefix start) named found short fieldRelated)

/-! ## Trimming -/

theorem tight_ofInt (v : Int) : Text.Tight (Text.ofInt v) :=
  .of_visible (ofInt_ne_nil v) fun _ member => isSpace_of_isNumeralChar (isNumeralChar_of_mem_ofInt member)

theorem tight_word {letters rest : Text} (leads : Leads (.word letters) rest) : Text.Tight letters := by
  cases leads with
  | word some inside _ => exact .of_visible some fun c member => Source.isSpace_of_isNameChar (inside c member)

theorem trimStart (related : Substituted constants t s) :
    Substituted constants (Text.trimStart t) (Text.trimStart s) := by
  induction related with
  | nil => exact .nil
  | kept leads unbound related ih =>
    rcases leads.space_or_tight with ⟨c, rfl, space⟩ | tight
    · simp only [Piece.text, List.singleton_append, Text.trimStart_cons_space space]
      exact ih
    · rw [tight.trimStart_append, tight.trimStart_append]
      exact .kept leads unbound related
  | @replaced letters rest tail v leads named found short related ih =>
    rw [(tight_word leads).trimStart_append, (tight_ofInt v).trimStart_append]
    exact .replaced leads named found short related

theorem blank_iff (related : Substituted constants t s) :
    (∀ c ∈ t, Text.isSpace c = true) ↔ ∀ c ∈ s, Text.isSpace c = true := by
  induction related with
  | nil => rfl
  | kept leads unbound related ih => simp only [List.forall_mem_append, ih]
  | @replaced letters rest tail v leads named found short related ih =>
    obtain ⟨c, inLetters, visible⟩ := (tight_word leads).visible
    obtain ⟨d, inNumeral, clear⟩ := (tight_ofInt v).visible
    constructor
    · intro spaces
      simp [spaces c (List.mem_append_left _ inLetters)] at visible
    · intro spaces
      simp [spaces d (List.mem_append_left _ inNumeral)] at clear

/-- Behind a blank rest the beginning of a text is all that trimming leaves of it; otherwise it is untouched. -/
theorem trimEnd_join {head rest newHead tail : Text} (related : Substituted constants rest tail)
    (trimmed : Substituted constants (Text.trimEnd rest) (Text.trimEnd tail))
    (alone : Substituted constants (Text.trimEnd head) (Text.trimEnd newHead))
    (join : ∀ {front other}, front <+: rest → Substituted constants front other →
      Substituted constants (head ++ front) (newHead ++ other)) :
    Substituted constants (Text.trimEnd (head ++ rest)) (Text.trimEnd (newHead ++ tail)) := by
  by_cases blank : ∀ c ∈ rest, Text.isSpace c = true
  · rw [Text.trimEnd_append_blank _ blank, Text.trimEnd_append_blank _ (related.blank_iff.1 blank)]
    exact alone
  · obtain ⟨c, member, visible⟩ : ∃ c ∈ rest, Text.isSpace c = false := by simpa using blank
    obtain ⟨d, other, clear⟩ : ∃ d ∈ tail, Text.isSpace d = false := by simpa [related.blank_iff] using blank
    rw [Text.trimEnd_append_visible _ member visible, Text.trimEnd_append_visible _ other clear]
    exact join (Text.trimEnd_prefix rest) trimmed

theorem trimEnd (related : Substituted constants t s) :
    Substituted constants (Text.trimEnd t) (Text.trimEnd s) := by
  induction related with
  | nil => exact .nil
  | @kept p rest tail leads unbound related ih =>
    refine trimEnd_join related ih ?_ fun start both => .kept (leads.of_prefix start) unbound both
    rcases leads.space_or_tight with ⟨c, rfl, space⟩ | tight
    · have nothing : Text.trimEnd (Piece.other c).text = [] := by simp [Text.trimEnd, Piece.text, space]
      rw [nothing]
      exact .nil
    · have alone : Substituted constants (p.text ++ []) (p.text ++ []) :=
        .kept (leads.of_prefix List.nil_prefix) unbound .nil
      rw [tight.trimEnd_eq]
      simpa using alone
  | @replaced letters rest tail v leads named found short related ih =>
    refine trimEnd_join related ih ?_ fun start both => .replaced (leads.of_prefix start) named found short both
    have alone : Substituted constants (letters ++ []) (Text.ofInt v ++ []) :=
      .replaced (leads.of_prefix List.nil_prefix) named found short .nil
    rw [(tight_word leads).trimEnd_eq, (tight_ofInt v).trimEnd_eq]
    simpa using alone

theorem operands (related : Substituted constants t s) :
    List.Forall₂ (Substituted constants) (Source.operands t) (Source.operands s) := by
  have trimmed : List.Forall₂ (Substituted constants) ((fieldsFrom {} t).map Text.trim)
      ((fieldsFrom {} s).map Text.trim) := by
    rw [List.forall₂_map_left_iff, List.forall₂_map_right_iff]
    exact (related.fields rfl).imp fun field other both => both.trimStart.trimEnd
  refine List.rel_filter ?_ trimmed
  intro field other both
  simpa [List.isEmpty_iff] using not_congr both.eq_nil_iff

end Substituted

/-- Operands and constants commute: the operands of the text with its constants put in are the operands of the text
as it stands, each with its constants put in. Quotes and brackets need not be closed. -/
theorem substitution_keeps_operands {constants : Bindings Int} (free : QuoteFree constants)
    (writable : Writable constants) (t : Text) :
    ∃ s, substitute constants t = .ok s ∧
      (Source.operands t).mapM (substitute constants) = .ok (Source.operands s) := by
  obtain ⟨s, replaced⟩ := exists_substitute writable t
  have related : Substituted constants t s := (substitute_eq_ok free).1 replaced
  refine ⟨s, replaced, mapM_eq_ok.2 ?_⟩
  exact related.operands.imp fun _ _ both => (substitute_eq_ok free).2 both

/-- A quoted comma, a closing bracket too many and a quote that is never closed. -/
theorem substitution_keeps_operands_unclosed_quote :
    ∃ s, substitute [("N", -5)] "[EBX+(N], N), 'N,'N), .N, \"N, N" = .ok s ∧
      Source.operands s = ["[EBX+(-5], -5)", "'N,'-5)", ".N", "\"-5, -5"] := by
  have free : QuoteFree [("N", -5)] := by
    unfold QuoteFree
    decide
  have writable : Writable [("N", -5)] := by
    unfold Writable
    decide
  obtain ⟨s, replaced, each⟩ := substitution_keeps_operands free writable "[EBX+(N], N), 'N,'N), .N, \"N, N"
  refine ⟨s, replaced, Except.ok.inj (each.symm.trans ?_)⟩
  decide +kernel

end AsmCheck.Program
