import AsmCheck.Text.Basic

/-! Quotes hide what stands between them. A scan from the left keeps the quote that is open, and a
quote that is never closed hides the rest of the line. -/

set_option autoImplicit false

namespace AsmCheck.Source

def isQuote (c : CodePoint) : Bool := c == '\'' || c == '"'

/-- The quote open after a character, given the quote open before it. -/
def openAfter : Option CodePoint → CodePoint → Option CodePoint
  | some q, c => if c = q then none else some q
  | none, c => if isQuote c then some c else none

def stripCommentFrom : Option CodePoint → Text → Text
  | _, [] => []
  | quote, c :: rest =>
    if quote = none ∧ c = ';' then [] else c :: stripCommentFrom (openAfter quote c) rest

/-- What stands before the first semicolon outside quotes. -/
def stripComment (line : Text) : Text := stripCommentFrom none line

/-- The text up to the next occurrence of a quote, and the text after it. -/
def closeQuote? (q : CodePoint) : Text → Option (Text × Text)
  | [] => none
  | c :: rest => if c = q then some ([], rest) else (closeQuote? q rest).map fun p => (c :: p.1, p.2)

theorem closeQuote?_eq_append {q : CodePoint} {t inside after : Text}
    (h : closeQuote? q t = some (inside, after)) : t = inside ++ q :: after := by
  induction t generalizing inside with
  | nil => simp [closeQuote?] at h
  | cons c rest ih =>
    rw [closeQuote?] at h
    split at h
    · simp_all
    · obtain ⟨⟨i, a⟩, found, same⟩ := Option.map_eq_some_iff.1 h
      obtain ⟨rfl, rfl⟩ := Prod.mk.inj same
      rw [ih found, List.cons_append]

theorem length_of_closeQuote? {q : CodePoint} {t inside after : Text}
    (h : closeQuote? q t = some (inside, after)) : after.length < t.length := by
  rw [closeQuote?_eq_append h]
  simp only [List.length_append, List.length_cons]
  omega

theorem length_dropWhile_le (p : CodePoint → Bool) (t : Text) : (t.dropWhile p).length ≤ t.length :=
  (List.dropWhile_suffix p).length_le

end AsmCheck.Source
