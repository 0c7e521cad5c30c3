import AsmCheck.Proofs.Program.Evaluation

/-! Constants put in one map after another. A numeral holds nothing that a second map could name and keeps the
words around it apart, so the second map finds the words that the first has left and no others. -/

set_option autoImplicit false

namespace AsmCheck

open Source (Piece Leads isQuote isNameChar isNameStart isName pieces)

/-! ## Words outside quotes -/

namespace Source

/-- No quote is open between the first text and the second. A quote without a partner opens nothing. -/
inductive Outside : Text → Text → Prop where
  | start {rest : Text} : Outside [] rest
  | quoted {q : CodePoint} {inside before rest : Text} : isQuote q = true → q ∉ inside →
      Outside before rest → Outside (q :: (inside ++ q :: before)) rest
  | lone {q : CodePoint} {before rest : Text} : isQuote q = true → q ∉ before ++ rest →
      Outside before rest → Outside (q :: before) rest
  | plain {c : CodePoint} {before rest : Text} : isQuote c = false → Outside before rest → Outside (c :: before) rest

/-- The word stands in the text outside quotes, with no character of a name on either side of it. -/
def HasWord (word t : Text) : Prop :=
  ∃ before after, t = before ++ (word ++ after) ∧ Outside before (word ++ after) ∧
    (∀ c ∈ before.getLast?, isNameChar c = false) ∧ ∀ c ∈ after.head?, isNameChar c = false

variable {p : Piece} {word before rest after : Text}

/-- A text that does not end in a name is empty or goes on behind the name that it starts with. -/
theorem mem_pieces_of_dropWhile (apart : ∀ c ∈ before.getLast?, isNameChar c = false)
    (found : p ∈ pieces (before.dropWhile isNameChar ++ rest)) : p ∈ pieces (before ++ rest) := by
  have whole : before.takeWhile isNameChar ++ before.dropWhile isNameChar = before := List.takeWhile_append_dropWhile
  have inside : ∀ c ∈ before.takeWhile isNameChar, isNameChar c = true := fun c member => List.mem_takeWhile_imp member
  by_cases none : before.takeWhile isNameChar = []
  · rw [none, List.nil_append] at whole
    rwa [whole] at found
  · have stop : ∀ c ∈ (before.dropWhile isNameChar ++ rest).head?, isNameChar c = false := by
      cases behind : before.dropWhile isNameChar with
      | cons d more =>
        have first := head?_dropWhile_stop isNameChar before
        rw [behind] at first
        simpa using first
      | nil =>
        -- Otherwise the text is this name, and its last character stands apart from nothing.
        rw [behind, List.append_nil] at whole
        rw [whole] at inside none
        obtain ⟨front, last, rfl⟩ := (List.eq_nil_or_concat before).resolve_left none
        have ends : isNameChar last = false := apart last (by simp)
        simp [inside last (by simp)] at ends
    have leads : Leads (.word (before.takeWhile isNameChar)) (before.dropWhile isNameChar ++ rest) :=
      .word none inside stop
    have first := pieces_append leads
    rw [Piece.text, ← List.append_assoc, whole] at first
    rw [first]
    exact List.mem_cons_of_mem _ found

theorem apart_of_append (front : Text) (apart : ∀ c ∈ (front ++ before).getLast?, isNameChar c = false) :
    ∀ c ∈ before.getLast?, isNameChar c = false := by
  intro c last
  apply apart
  rw [List.getLast?_append, Option.mem_def.1 last]
  rfl

/-- A word that stands in a text is one of its pieces. -/
theorem HasWord.mem_pieces {t : Text} (some : word ≠ []) (inside : ∀ c ∈ word, isNameChar c = true)
    (stands : HasWord word t) : Piece.word word ∈ pieces t := by
  obtain ⟨before, after, rfl, outside, apart, stop⟩ := stands
  -- In the middle of a name no piece starts, so the induction leaves out the name that is not yet over.
  apply mem_pieces_of_dropWhile apart
  generalize behind : word ++ after = rest at outside
  induction outside with
  | start =>
    have first : pieces (word ++ after) = .word word :: pieces after := pieces_append (.word some inside stop)
    simp [← behind, first]
  | @quoted q within before rest quote absent outside ih =>
    have later := apart_of_append (q :: (within ++ [q])) (by simpa using apart)
    have first : pieces ((Piece.quoted q within).text ++ (before ++ rest)) = .quoted q within :: pieces (before ++ rest) :=
      pieces_append (.quoted quote absent)
    have found := mem_pieces_of_dropWhile later (ih later behind)
    simp [isNameChar_of_isQuote quote, Piece.text] at first ⊢
    simp [first, found]
  | @lone q before rest quote absent outside ih =>
    have later := apart_of_append [q] apart
    have first : pieces (q :: (before ++ rest)) = .other q :: pieces (before ++ rest) := pieces_append (.lone quote absent)
    have found := mem_pieces_of_dropWhile later (ih later behind)
    simp [isNameChar_of_isQuote quote, first, found]
  | @plain c before rest noQuote outside ih =>
    have later := apart_of_append [c] apart
    cases name : isNameChar c with
    | true => simpa [name] using ih later behind
    | false =>
      have first : pieces (c :: (before ++ rest)) = .other c :: pieces (before ++ rest) :=
        pieces_append (.plain noQuote name)
      have found := mem_pieces_of_dropWhile later (ih later behind)
      simp [name, first, found]

end Source

namespace Program

variable {first second both : Bindings Int} {t s u : Text}

/-! ## What a substitution leaves in place -/

/-- The rest may change behind a leading piece, since it keeps every character that is none of a name. -/
theorem Substituted.leads {p : Piece} (related : Substituted first t s) (leads : Leads p t) : Leads p s := by
  cases leads with
  | quoted quote absent => exact .quoted quote absent
  | @word letters t some inside stop =>
    refine .word some inside ?_
    cases t with
    | nil =>
      rw [related.eq_nil_iff.1 rfl]
      simp
    | cons c rest =>
      have noName : isNameChar c = false := stop c rfl
      obtain ⟨tail, rfl, -⟩ := related.edited.of_cons noName
      simpa using noName
  | lone quote absent => exact .lone quote (related.edited.not_mem_quote quote absent)
  | plain noQuote noName => exact .plain noQuote noName

theorem leads_digits (n : Nat) (stop : ∀ c ∈ t.head?, isNameChar c = false) : Leads (.word (Text.ofNat n)) t :=
  .word (ofNat_ne_nil n) (fun _ member => Source.isNameChar_of_isDigit (isDigit_of_mem_ofNat member)) stop

/-- A numeral names nothing. -/
theorem canName_digits (n : Nat) : canName (.word (Text.ofNat n)) = false := by
  obtain ⟨d, more, digits⟩ := List.exists_cons_of_ne_nil (ofNat_ne_nil n)
  have digit : d.isDigit = true := isDigit_of_mem_ofNat (n := n) (by simp [digits])
  simp [canName, digits, isNameStart, digit]

/-- The numeral of a number is cut into a minus, if it has one, and its digits. -/
theorem pieces_ofInt (v : Int) (stop : ∀ c ∈ t.head?, isNameChar c = false) :
    ∃ sign, (∀ p ∈ sign, p = .other (.scalar '-')) ∧
      pieces (Text.ofInt v ++ t) = sign ++ .word (Text.ofNat v.natAbs) :: pieces t := by
  have digits : pieces (Text.ofNat v.natAbs ++ t) = .word (Text.ofNat v.natAbs) :: pieces t :=
    Source.pieces_append (leads_digits v.natAbs stop)
  unfold Text.ofInt
  split
  · refine ⟨[.other (.scalar '-')], by simp, ?_⟩
    have minus : Leads (.other (.scalar '-')) (Text.ofNat v.natAbs ++ t) := .plain (by decide) (by decide)
    exact (Source.pieces_append minus).trans (by rw [digits]; rfl)
  · exact ⟨[], by simp, digits⟩

/-- A second map leaves the numerals of the first as they are. -/
theorem Substituted.of_ofInt (free : QuoteFree second) {v : Int} (stop : ∀ c ∈ t.head?, isNameChar c = false)
    (related : Substituted second (Text.ofInt v ++ t) u) : ∃ tail, u = Text.ofInt v ++ tail ∧ Substituted second t tail := by
  have digits : ∀ {u : Text}, Substituted second (Text.ofNat v.natAbs ++ t) u →
      ∃ tail, u = Text.ofNat v.natAbs ++ tail ∧ Substituted second t tail := fun related =>
    related.of_kept free (leads_digits v.natAbs stop) (by simp [canName_digits])
  unfold Text.ofInt at related ⊢
  split at related
  · next negative =>
    obtain ⟨tail, rfl, behind⟩ := related.of_other free (.plain (by decide) (by decide))
    obtain ⟨later, rfl, rest⟩ := digits behind
    exact ⟨later, by simp [negative], rest⟩
  · next positive =>
    obtain ⟨later, rfl, rest⟩ := digits related
    exact ⟨later, by simp [positive], rest⟩

/-! ## Two maps -/

/-- What the second map makes of what the first has made is made by both at once, the first coming before the second. -/
theorem Substituted.trans (free : QuoteFree second)
    (merged : ∀ name, both.get? name = (first.get? name).or (second.get? name))
    (earlier : Substituted first t s) (later : Substituted second s u) : Substituted both t u := by
  -- On what the first map has done: the second looks up a piece that was kept, and passes over a numeral.
  induction earlier generalizing u with
  | nil =>
    rw [later.eq_nil_iff.1 rfl]
    exact .nil
  | @kept p rest tail leads unbound earlier ih =>
    obtain ⟨last, behind, ⟨unboundToo, rfl⟩ | ⟨letters, v, rfl, named, found, short, rfl⟩⟩ :=
      later.of_append free (earlier.leads leads)
    · refine .kept leads ?_ (ih behind)
      intro named
      rw [merged, unbound named, unboundToo named]
      rfl
    · refine .replaced leads named ?_ short (ih behind)
      rw [merged, unbound named]
      exact found
  | @replaced letters rest tail v leads named found short earlier ih =>
    have stop : ∀ c ∈ tail.head?, isNameChar c = false := by
      cases earlier.leads leads with
      | word _ _ stop => exact stop
    obtain ⟨last, rfl, behind⟩ := later.of_ofInt free stop
    refine .replaced leads named ?_ short (ih behind)
    rw [merged, found]
    rfl

/-- No piece that is left can be looked up with success. -/
theorem Substituted.get?_of_mem_pieces (related : Substituted first t s) {p : Piece} (member : p ∈ pieces s)
    (named : canName p = true) : first.get? p.text = none := by
  induction related with
  | nil => simp [pieces] at member
  | @kept q rest tail leads unbound related ih =>
    rw [Source.pieces_append (related.leads leads)] at member
    rcases List.mem_cons.1 member with rfl | later
    · exact unbound named
    · exact ih later
  | @replaced letters rest tail v leads _ _ _ related ih =>
    cases related.leads leads with
    | word _ _ stop =>
      obtain ⟨sign, minus, cut⟩ := pieces_ofInt v stop
      rw [cut] at member
      rcases List.mem_append.1 member with signed | behind
      · rw [minus p signed] at named
        cases named
      · rcases List.mem_cons.1 behind with rfl | later
        · simp [canName_digits] at named
        · exact ih later

theorem Substituted.not_hasWord (named : Named first) (related : Substituted first t s) {name : Text}
    (bound : name ∈ first.names) : ¬Source.HasWord name s := by
  intro stands
  have word := named name bound
  simp only [isName, Bool.and_eq_true, List.all_eq_true] at word
  have some : name ≠ [] := by
    rintro rfl
    simp at word
  have missing := related.get?_of_mem_pieces (stands.mem_pieces some word.2) word.1
  exact Bindings.get?_eq_none.1 missing bound

theorem Named.merge (named : Named first) (namedToo : Named second)
    (merged : ∀ name, both.get? name = (first.get? name).or (second.get? name)) : Named both := by
  intro name bound
  by_contra noName
  -- What is no name is in neither map.
  have missing : first.get? name = none := Bindings.get?_eq_none.2 fun listed => noName (named name listed)
  have missingToo : second.get? name = none := Bindings.get?_eq_none.2 fun listed => noName (namedToo name listed)
  have unbound : both.get? name = none := by
    rw [merged, missing, missingToo]
    rfl
  exact Bindings.get?_eq_none.1 unbound bound

/-- Putting in the constants of one map and then those of another is putting in both at once, the first coming
before the second. So the same map changes nothing the second time, and none of its names is left as a word
outside quotes. -/
theorem substitution_composes {first second both : Bindings Int} (named : Named first) (namedToo : Named second)
    (writable : Writable first) (writableToo : Writable second)
    (merged : ∀ name, both.get? name = (first.get? name).or (second.get? name)) (t : Text) :
    ∃ s u, substitute first t = .ok s ∧ substitute second s = .ok u ∧ substitute both t = .ok u ∧
      substitute first s = .ok s ∧ ∀ name ∈ first.names, ¬Source.HasWord name s := by
  obtain ⟨s, done⟩ := exists_substitute writable t
  obtain ⟨u, doneToo⟩ := exists_substitute writableToo s
  obtain ⟨again, redone⟩ := exists_substitute writable s
  have earlier : Substituted first t s := (substitute_eq_ok named.quoteFree).1 done
  have later : Substituted second s u := (substitute_eq_ok namedToo.quoteFree).1 doneToo
  have repeated : Substituted first s again := (substitute_eq_ok named.quoteFree).1 redone
  have together : substitute both t = .ok u :=
    (substitute_eq_ok (named.merge namedToo merged).quoteFree).2 (earlier.trans namedToo.quoteFree merged later)
  -- Merged with itself a map is the same map, and it makes one text of another.
  have twice : substitute first t = .ok again :=
    (substitute_eq_ok named.quoteFree).2 (earlier.trans named.quoteFree (fun name => by simp) repeated)
  cases done.symm.trans twice
  exact ⟨s, u, done, doneToo, together, redone, fun name bound => earlier.not_hasWord named bound⟩

/-- The maps disagree on a name, a negative numeral lands behind a minus and between name-like neighbours, and a quote
is never closed. -/
theorem substitution_composes_shadowed_name :
    substitute [("A", -5), ("B", 2)] "B-A'A B'+C 1A .A \"C" = .ok "2--5'A B'+C 1A .A \"C" ∧
    substitute [("A", 100), ("C", 7)] "2--5'A B'+C 1A .A \"C" = .ok "2--5'A B'+7 1A .A \"7" ∧
    substitute [("A", -5), ("B", 2), ("C", 7)] "B-A'A B'+C 1A .A \"C" = .ok "2--5'A B'+7 1A .A \"7" ∧
    ¬Source.HasWord "A" "2--5'A B'+C 1A .A \"C" := by
  have named : Named [("A", -5), ("B", 2)] := by
    unfold Named
    decide
  have namedToo : Named [("A", 100), ("C", 7)] := by
    unfold Named
    decide
  have writable : Writable [("A", -5), ("B", 2)] := by
    unfold Writable
    decide
  have writableToo : Writable [("A", 100), ("C", 7)] := by
    unfold Writable
    decide
  have merged : ∀ name, Bindings.get? [("A", -5), ("B", 2), ("C", 7)] name =
      (Bindings.get? [("A", -5), ("B", 2)] name).or (Bindings.get? [("A", 100), ("C", 7)] name) := by
    intro name
    simp only [Bindings.get?, List.lookup_cons]
    split
    · rfl
    · split <;> rfl
  have done : substitute [("A", -5), ("B", 2)] "B-A'A B'+C 1A .A \"C" = .ok "2--5'A B'+C 1A .A \"C" := by decide +kernel
  obtain ⟨s, u, found, doneToo, together, -, left⟩ :=
    substitution_composes named namedToo writable writableToo merged "B-A'A B'+C 1A .A \"C"
  cases done.symm.trans found
  have result : substitute [("A", 100), ("C", 7)] "2--5'A B'+C 1A .A \"C" = .ok "2--5'A B'+7 1A .A \"7" := by
    decide +kernel
  cases result.symm.trans doneToo
  exact ⟨done, result, together, left "A" (by decide)⟩

end Program

end AsmCheck
