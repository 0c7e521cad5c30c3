import AsmCheck.Proofs.Program.Plainness
import AsmCheck.Proofs.Source.Evaluation
import AsmCheck.Proofs.Source.Names
import AsmCheck.Proofs.Source.Numbers

/-! Values of texts with constants in them. Putting the constants in and then evaluating gives what evaluating
the text as it stands gives, with every name standing for the constant or else the label of that name. The one
difference is that the numeral of a negative constant has a minus of its own: right behind a term it goes on with
the sum, as if a plus stood in front of the constant. -/

set_option autoImplicit false

namespace AsmCheck.Program

open Source (Piece Leads Token tokens inTerm isQuote isNameChar isName isNameStart termValue sumTokens evaluate)

variable {constants : Bindings Int} {labels : Text → Option Int} {t s : Text}

/-- What a name stands for: the constant, or else the label. What is no name stands for nothing, even if a
constant is called so. -/
def resolve (constants : Bindings Int) (labels : Text → Option Int) (name : Text) : Option Int :=
  if isName name then (constants.get? name).or (labels name) else none

theorem Substituted.stop (free : QuoteFree constants) (related : Substituted constants t s)
    (stop : ∀ c ∈ t.head?, inTerm c = false) : ∀ c ∈ s.head?, inTerm c = false := by
  cases t with
  | nil =>
    rw [related.eq_nil_iff.1 rfl]
    simp
  | cons c rest =>
    have outside : inTerm c = false := stop c rfl
    obtain ⟨tail, rfl, -⟩ := related.of_other free (Source.leads_of_inTerm outside rest)
    simpa using outside

theorem tokens_ofNat {n : Nat} {rest : Text} (stop : ∀ c ∈ rest.head?, inTerm c = false) :
    tokens (Text.ofNat n ++ rest) = .term (Text.ofNat n) :: tokens rest :=
  Source.tokens_word (ofNat_ne_nil _) (fun _ member => Source.isNameChar_of_isDigit (isDigit_of_mem_ofNat member)) stop

/-- A numeral counts as the number it was written for. -/
theorem sumTokens_ofInt {v : Int} (short : (Text.ofNat v.natAbs).length ≤ Numeral.limit) {rest : Text}
    (stop : ∀ c ∈ rest.head?, inTerm c = false) (total sign : Int) :
    sumTokens labels total (some sign) (tokens (Text.ofInt v ++ rest)) =
      sumTokens labels (total + sign * v) none (tokens rest) := by
  have digits : tokens (Text.ofNat v.natAbs ++ rest) = .term (Text.ofNat v.natAbs) :: tokens rest := tokens_ofNat stop
  have value : termValue labels (Text.ofNat v.natAbs) = .ok (some (v.natAbs : Int)) :=
    Source.termValue_of_number (Source.number?_ofNat short)
  unfold Text.ofInt
  split
  · next negative =>
    have same : total + -sign * (v.natAbs : Int) = total + sign * v := by
      rw [Int.ofNat_natAbs_of_nonpos (by omega), Int.neg_mul_neg]
    rw [List.cons_append, Source.tokens_minus, digits]
    simp only [sumTokens, Option.getD_some, value]
    exact congrArg (sumTokens labels · none (tokens rest)) same
  · next positive =>
    have same : total + sign * (v.natAbs : Int) = total + sign * v := by
      rw [Int.natAbs_of_nonneg (by omega)]
    rw [digits]
    simp only [sumTokens, value]
    exact congrArg (sumTokens labels · none (tokens rest)) same

/-- Right behind a term only a numeral with a minus goes on with the sum. -/
theorem sumTokens_ofInt_behind {v : Int} (short : (Text.ofNat v.natAbs).length ≤ Numeral.limit) {rest : Text}
    (stop : ∀ c ∈ rest.head?, inTerm c = false) (total : Int) :
    sumTokens labels total none (tokens (Text.ofInt v ++ rest)) =
      if v < 0 then sumTokens labels (total + v) none (tokens rest) else .ok none := by
  split
  · next negative =>
    -- The minus makes a term due, as it would behind a plus.
    have due : sumTokens labels total none (tokens (Text.ofInt v ++ rest)) =
        sumTokens labels total (some 1) (tokens (Text.ofInt v ++ rest)) := by
      rw [Text.ofInt, if_pos negative, List.cons_append, Source.tokens_minus]
      rfl
    rw [due, sumTokens_ofInt short stop, Int.one_mul]
  · next positive =>
    rw [Text.ofInt, if_neg positive, tokens_ofNat stop]
    rfl

/-! ## Terms that are no words -/

/-- A term that is not quoted and has a character that no word has stands for nothing. -/
theorem termValue_of_not_isNameChar {c d : CodePoint} {w : Text} (inside : ∀ e ∈ c :: w, inTerm e = true)
    (unclosed : isQuote c = true → c ∉ w) (member : d ∈ c :: w) (noName : isNameChar d = false) :
    termValue (resolve constants labels) (c :: w) = .ok none := by
  have number : Source.number? (c :: w) = .ok none := by
    rcases Source.number?_eq_none_or inside with none | ⟨-, name⟩
    · exact none
    · simp [name d member] at noName
  have char : Source.charCode? (c :: w) = none := by
    rw [Source.charCode?, Source.stringBody?_of_unclosed unclosed]
  rw [Source.termValue_of_neither number char, resolve, if_neg (by simp [Source.isName_eq_false member noName])]

/-- The sum ends at such a term, whatever the text goes on with. -/
theorem sumTokens_of_not_isNameChar {word tail : Text} {d : CodePoint} (name : ∀ c ∈ word, isNameChar c = true)
    (here : inTerm d = true) (noName : isNameChar d = false) (unclosed : word = [] → isQuote d = true → d ∉ tail)
    (total : Int) (due : Option Int) :
    sumTokens (resolve constants labels) total due (tokens (word ++ d :: tail)) = .ok none := by
  have whole : word ++ d :: tail = (word ++ d :: tail.takeWhile inTerm) ++ tail.dropWhile inTerm := by simp
  obtain ⟨c, w, split⟩ := List.exists_cons_of_ne_nil (show word ++ d :: tail.takeWhile inTerm ≠ [] by simp)
  have inside : ∀ e ∈ c :: w, inTerm e = true := by
    rw [← split]
    intro e member
    rcases List.mem_append.1 member with first | later
    · exact Source.inTerm_of_isNameChar (name e first)
    · rcases List.mem_cons.1 later with rfl | later
      · exact here
      · exact List.mem_takeWhile_imp later
  have unpaired : isQuote c = true → c ∉ w ++ tail.dropWhile inTerm := by
    intro quote
    cases word with
    | nil =>
      cases split
      simpa using unclosed rfl quote
    | cons e more =>
      cases split
      simp [Source.isQuote_of_isNameChar (name c (by simp))] at quote
  have value : termValue (resolve constants labels) (c :: w) = .ok none :=
    termValue_of_not_isNameChar inside (fun quote member => unpaired quote (List.mem_append_left _ member))
      (show d ∈ c :: w by simp [← split]) noName
  rw [whole, split, Source.tokens_term inside (Source.head?_dropWhile_stop inTerm tail) unpaired]
  cases due with
  | none => rfl
  | some sign => simp [sumTokens, value, bind, Except.bind]

/-- A term that is no word stops the sum after a substitution as well, for the character that no word has is kept. -/
theorem Substituted.sumTokens_eq_none (free : QuoteFree constants) {c : CodePoint} {w rest : Text}
    (inside : ∀ d ∈ c :: w, inTerm d = true) (unclosed : isQuote c = true → c ∉ w ++ rest)
    (noWord : ¬∀ d ∈ c :: w, isNameChar d = true) (related : Substituted constants (c :: w ++ rest) s) (total : Int)
    (due : Option Int) : sumTokens (resolve [] labels) total due (tokens s) = .ok none := by
  cases first : isNameChar c with
  | false =>
    have leads : Leads (.other c) (w ++ rest) := by
      cases quote : isQuote c with
      | true => exact .lone quote (unclosed quote)
      | false => exact .plain quote first
    obtain ⟨tail, rfl, later⟩ := related.of_other free leads
    rw [← List.nil_append (c :: tail)]
    exact sumTokens_of_not_isNameChar (by simp) (inside c (by simp)) first
      (fun _ quote => later.edited.not_mem_quote quote (unclosed quote)) total due
  | true =>
    obtain ⟨d, more, behind⟩ := List.exists_cons_of_ne_nil (show (c :: w).dropWhile isNameChar ≠ [] by
      rwa [Ne, List.dropWhile_eq_nil_iff])
    have noName : isNameChar d = false := Source.head?_dropWhile_stop isNameChar (c :: w) d (by simp [behind])
    have whole : c :: w = (c :: w).takeWhile isNameChar ++ d :: more := by
      rw [← behind, List.takeWhile_append_dropWhile]
    have here : inTerm d = true := inside d (by rw [whole]; simp)
    have name : ∀ e ∈ (c :: w).takeWhile isNameChar, isNameChar e = true := fun e member => List.mem_takeWhile_imp member
    have some : (c :: w).takeWhile isNameChar ≠ [] := by simp [first]
    generalize (c :: w).takeWhile isNameChar = letters at whole name some
    rw [whole, List.append_assoc, List.cons_append] at related
    have leads : Leads (.word letters) (d :: (more ++ rest)) := .word some name (by simpa using noName)
    obtain ⟨tail, later, ⟨-, rfl⟩ | ⟨-, v, -, -, -, -, rfl⟩⟩ := related.of_append free leads
    · obtain ⟨last, rfl, -⟩ := later.edited.of_cons noName
      exact sumTokens_of_not_isNameChar name here noName (fun none => absurd none some) total due
    · obtain ⟨last, rfl, -⟩ := later.edited.of_cons noName
      have digits : ∀ e ∈ Text.ofNat v.natAbs, isNameChar e = true :=
        fun e member => Source.isNameChar_of_isDigit (isDigit_of_mem_ofNat member)
      have stuck : ∀ due, sumTokens (resolve [] labels) total due (tokens (Text.ofNat v.natAbs ++ d :: last)) = .ok none :=
        sumTokens_of_not_isNameChar digits here noName (fun none => absurd none (ofNat_ne_nil _)) total
      unfold Text.ofInt
      split
      · rw [List.cons_append, Source.tokens_minus]
        exact stuck _
      · exact stuck due

/-! ## Constants with a minus of their own -/

/-- The word gives way to a numeral with a minus. -/
def isNegative (constants : Bindings Int) (w : Text) : Bool := isName w && (constants.get? w).any (· < 0)

/-- The tokens with a plus in front of every negative constant that stands right behind a term. -/
def signed (constants : Bindings Int) : Bool → List Token → List Token
  | _, [] => []
  | _, .plus :: rest => .plus :: signed constants false rest
  | _, .minus :: rest => .minus :: signed constants false rest
  | behind, .term w :: rest =>
    if behind && isNegative constants w then .plus :: .term w :: signed constants true rest
    else .term w :: signed constants true rest

theorem signed_term {w : Text} (kept : isNegative constants w = false) (behind : Bool) (ts : List Token) :
    signed constants behind (.term w :: ts) = .term w :: signed constants true ts := by
  simp [signed, kept]

/-- A word that can name something reads as no literal. -/
theorem termValue_name {letters rest : Text} (leads : Leads (.word letters) rest)
    (named : canName (.word letters) = true) {v : Int} (found : constants.get? letters = some v) :
    isName letters = true ∧ termValue (resolve constants labels) letters = .ok (some v) := by
  cases leads with
  | word some inside stop =>
    have name : isName letters = true := by
      simp only [isName, Bool.and_eq_true, List.all_eq_true]
      exact ⟨named, inside⟩
    refine ⟨name, ?_⟩
    rw [Source.termValue_of_neither (Source.number?_of_isName name) (Source.charCode?_of_isName name)]
    simp [resolve, name, found]

/-- A constant counts as its numeral does, also where the numeral brings the sign in front of it. -/
theorem sumTokens_constant {w tail : Text} {v : Int} (name : isName w = true) (found : constants.get? w = some v)
    (valued : termValue (resolve constants labels) w = .ok (some v))
    (short : (Text.ofNat v.natAbs).length ≤ Numeral.limit) (stop : ∀ c ∈ tail.head?, inTerm c = false)
    {ts : List Token}
    (later : ∀ total, sumTokens (resolve [] labels) total none (tokens tail) =
      sumTokens (resolve constants labels) total none (signed constants true ts)) (total : Int) (due : Option Int) :
    sumTokens (resolve [] labels) total due (tokens (Text.ofInt v ++ tail)) =
      sumTokens (resolve constants labels) total due (signed constants due.isNone (.term w :: ts)) := by
  cases due with
  | some sign =>
    rw [sumTokens_ofInt short stop, later]
    simp [signed, sumTokens, valued, bind, Except.bind]
  | none =>
    rw [sumTokens_ofInt_behind short stop, later]
    by_cases negative : v < 0
    · simp [signed, isNegative, name, found, negative, sumTokens, valued, bind, Except.bind]
    · simp [signed, isNegative, name, found, negative, sumTokens]

/-! ## Whole texts -/

/-- The sum over a text with the constants put in is the sum over the text as it stands, with a plus in front of
every negative constant that stands right behind a term. -/
theorem sumTokens_substituted (free : QuoteFree constants) (related : Substituted constants t s) (total : Int)
    (due : Option Int) :
    sumTokens (resolve [] labels) total due (tokens s) =
      sumTokens (resolve constants labels) total due (signed constants due.isNone (tokens t)) := by
  induction t using Source.tokens_induction generalizing s total due with
  | nil =>
    rw [related.eq_nil_iff.1 rfl, Source.tokens_nil]
    rfl
  | @space c rest space ih =>
    have outside : inTerm c = false := by simp [inTerm, space]
    obtain ⟨tail, rfl, later⟩ := related.of_other free (Source.leads_of_inTerm outside rest)
    rw [Source.tokens_space space, Source.tokens_space space]
    exact ih later total due
  | @plus rest ih =>
    obtain ⟨tail, rfl, later⟩ := related.of_other free (Source.leads_of_inTerm (by decide) rest)
    rw [Source.tokens_plus, Source.tokens_plus]
    exact ih later total _
  | @minus rest ih =>
    obtain ⟨tail, rfl, later⟩ := related.of_other free (Source.leads_of_inTerm (by decide) rest)
    rw [Source.tokens_minus, Source.tokens_minus]
    exact ih later total _
  | @quoted q inside rest quote absent ih =>
    -- A quoted term is the same in both texts and names nothing.
    have leads : Leads (.quoted q inside) rest := .quoted quote absent
    have whole : ∀ more : Text, (Piece.quoted q inside).text ++ more = q :: (inside ++ q :: more) := by
      simp [Piece.text]
    rw [← whole] at related
    obtain ⟨tail, rfl, later⟩ := related.of_kept free leads fun _ => get?_quoted free quote inside
    have nameless : isName (q :: (inside ++ [q])) = false := by
      simp [isName, isNameStart, Source.isNameChar_of_isQuote quote]
    rw [Source.tokens_quoted quote absent, whole, Source.tokens_quoted quote absent,
      signed_term (by simp [isNegative, nameless])]
    exact Source.sumTokens_term_eq (by simp [resolve, nameless]) (fun total => ih later total none) total due
  | @term c w rest inside stop unclosed ih =>
    rw [Source.tokens_term inside stop unclosed]
    by_cases word : ∀ d ∈ c :: w, isNameChar d = true
    · have leads : Leads (.word (c :: w)) rest :=
        .word (by simp) word fun d first => Source.isNameChar_of_inTerm (stop d first)
      obtain ⟨tail, later, ⟨unbound, rfl⟩ | ⟨letters, v, same, named, found, short, rfl⟩⟩ := related.of_append free leads
      · -- The word stays, and only a label can stand behind it.
        have missing : isName (c :: w) = true → constants.get? (c :: w) = none := by
          intro name
          simp only [isName, Bool.and_eq_true] at name
          exact unbound name.1
        have kept : isNegative constants (c :: w) = false := by
          cases name : isName (c :: w) with
          | false => simp [isNegative, name]
          | true => simp [isNegative, missing name]
        have alike : resolve [] labels (c :: w) = resolve constants labels (c :: w) := by
          cases name : isName (c :: w) with
          | false => simp [resolve, name]
          | true => simp [resolve, missing name]
        rw [Piece.text, Source.tokens_word (by simp) word (later.stop free stop), signed_term kept]
        exact Source.sumTokens_term_eq alike (fun total => ih later total none) total due
      · -- The numeral counts as the constant does.
        cases same
        obtain ⟨name, value⟩ : _ ∧ termValue (resolve constants labels) (c :: w) = .ok (some v) :=
          termValue_name leads named found
        exact sumTokens_constant name found value short (later.stop free stop) (fun total => ih later total none) total due
    · have stuck : sumTokens (resolve [] labels) total due (tokens s) = .ok none :=
        related.sumTokens_eq_none free inside unclosed word total due
      simp only [not_forall, Bool.not_eq_true] at word
      obtain ⟨d, member, noName⟩ := word
      have value : termValue (resolve constants labels) (c :: w) = .ok none :=
        termValue_of_not_isNameChar inside (fun quote member => unclosed quote (List.mem_append_left _ member)) member
          noName
      have kept : isNegative constants (c :: w) = false := by
        simp [isNegative, Source.isName_eq_false member noName]
      rw [stuck, signed_term kept]
      cases due with
      | none => rfl
      | some sign => simp [sumTokens, value, bind, Except.bind]

/-- A sum that comes to an end has a sign between any two terms, so there is no plus to put in. -/
theorem sumTokens_signed {known : Text → Option Int} {ts : List Token} {total : Int} {due : Option Int}
    (valued : sumTokens known total due ts ≠ .ok none) :
    sumTokens known total due (signed constants due.isNone ts) = sumTokens known total due ts := by
  induction ts generalizing total due with
  | nil => rfl
  | cons token rest ih =>
    cases token with
    | plus => exact ih valued
    | minus => exact ih valued
    | term w =>
      cases due with
      | none => exact absurd rfl valued
      | some sign =>
        simp only [signed, Option.isNone_some, Bool.false_and, Bool.false_eq_true, if_false, sumTokens] at valued ⊢
        cases here : termValue known w with
        | error e => rfl
        | ok found =>
          cases found with
          | none => rfl
          | some x =>
            rw [here] at valued
            exact ih valued

theorem evaluate_substituted_eq (free : QuoteFree constants) (related : Substituted constants t s) :
    evaluate (resolve [] labels) s =
      if (tokens t).all Token.isPlain then
        sumTokens (resolve constants labels) 0 (some 1) (signed constants false (tokens t))
      else .ok none := by
  unfold evaluate
  rw [related.plain_eq, sumTokens_substituted free related]
  rfl

/-- Where the names of a text can be resolved, putting the constants in first makes no difference. -/
theorem evaluate_substituted (free : QuoteFree constants) (related : Substituted constants t s)
    (valued : evaluate (resolve constants labels) t ≠ .ok none) :
    evaluate labels s = evaluate (resolve constants labels) t := by
  have names : ∀ name v, resolve [] labels name = some v → labels name = some v := by
    intro name v found
    simp only [resolve] at found
    split at found
    · simpa using found
    · cases found
  have same : evaluate (resolve [] labels) s = evaluate (resolve constants labels) t := by
    rw [evaluate_substituted_eq free related]
    unfold evaluate at valued ⊢
    split at valued
    · next plain =>
      rw [if_pos plain, if_pos plain]
      exact sumTokens_signed valued
    · exact absurd rfl valued
  rw [← same] at valued ⊢
  exact Source.evaluate_congr names valued

/-! ## Constants and labels -/

/-- Every key of the map can name something. Identifiers can, and so can labels. -/
def Named (bindings : Bindings Int) : Prop := ∀ name ∈ bindings.names, isName name = true

theorem Named.quoteFree (named : Named constants) : QuoteFree constants := by
  intro name member c inName
  have word := named name member
  simp only [isName, Bool.and_eq_true, List.all_eq_true] at word
  exact Source.isQuote_of_isNameChar (word.2 c inName)

theorem Named.isName_of_get? {bindings : Bindings Int} (named : Named bindings) {name : Text} {v : Int}
    (found : bindings.get? name = some v) : isName name = true :=
  named name (List.mem_map_of_mem (Bindings.mem_of_get? found))

/-- Where all keys are names, what a name stands for is looked up among the constants and then among the labels. -/
theorem resolve_eq_lookup {others : Bindings Int} (named : Named constants) (labelled : Named others) :
    resolve constants others.get? = fun name => (constants.get? name).or (others.get? name) := by
  funext name
  unfold resolve
  split
  · rfl
  · next noName =>
    cases constant : constants.get? name with
    | some v => exact absurd (named.isName_of_get? constant) noName
    | none =>
      cases label : others.get? name with
      | some v => exact absurd (labelled.isName_of_get? label) noName
      | none => rfl

/-- An expression whose names are looked up among constants and labels has the value that it has with the constants
put in as numerals, whatever their signs, and with only the labels looked up. -/
theorem substitution_keeps_value {constants labels : Bindings Int} (named : Named constants)
    (writable : Writable constants) (labelled : Named labels) {t : Text} {v : Int}
    (valued : evaluate (fun name => (constants.get? name).or (labels.get? name)) t = .ok (some v)) :
    ∃ s, substitute constants t = .ok s ∧ evaluate labels.get? s = .ok (some v) := by
  obtain ⟨s, replaced⟩ := exists_substitute writable t
  have related : Substituted constants t s := (substitute_eq_ok named.quoteFree).1 replaced
  rw [← resolve_eq_lookup named labelled] at valued
  refine ⟨s, replaced, ?_⟩
  rw [evaluate_substituted named.quoteFree related (by simp [valued]), valued]

/-- A negative constant stands behind signs, beside a literal with its letter and a quoted one, and hides a label. -/
theorem substitution_keeps_value_negative_constant :
    substitute [("A", -5), ("B", 2)] "- -A--'A'+0xA - B-.x" = .ok "- --5--'A'+0xA - 2-.x" ∧
    evaluate (Bindings.get? [("A", 100), (".x", 7)]) "- --5--'A'+0xA - 2-.x" = .ok (some 61) := by
  have named : Named [("A", -5), ("B", 2)] := by
    unfold Named
    decide
  have writable : Writable [("A", -5), ("B", 2)] := by
    unfold Writable
    decide
  have labelled : Named [("A", 100), (".x", 7)] := by
    unfold Named
    decide
  have replaced : substitute [("A", -5), ("B", 2)] "- -A--'A'+0xA - B-.x" = .ok "- --5--'A'+0xA - 2-.x" := by
    decide +kernel
  obtain ⟨s, found, valued⟩ := substitution_keeps_value named writable labelled
    (show evaluate _ "- -A--'A'+0xA - B-.x" = .ok (some 61) by decide +kernel)
  cases replaced.symm.trans found
  exact ⟨replaced, valued⟩

/-! ## Strings -/

theorem Substituted.of_string (free : QuoteFree constants) (related : Substituted constants t s)
    (string : Source.isString t = true) : s = t := by
  obtain ⟨inside, body⟩ := Option.isSome_iff_exists.1 string
  obtain ⟨q, quote, absent, rfl⟩ := Source.stringBody?_eq_some.1 body
  have leads : Leads (.quoted q inside) [] := .quoted quote absent
  rw [← List.append_nil (q :: (inside ++ [q]))] at related
  obtain ⟨tail, rfl, later⟩ := related.of_kept free leads fun _ => get?_quoted free quote inside
  rw [later.eq_nil_iff.1 rfl, List.append_nil, Piece.text]

theorem Substituted.to_string (free : QuoteFree constants) (related : Substituted constants t s)
    (string : Source.isString s = true) : s = t := by
  obtain ⟨inside, body⟩ := Option.isSome_iff_exists.1 string
  obtain ⟨q, quote, absent, rfl⟩ := Source.stringBody?_eq_some.1 body
  have some : t ≠ [] := fun empty => by simp [related.eq_nil_iff] at empty
  obtain ⟨p, rest, leads, rfl⟩ := Source.exists_leads some
  -- Whatever the new text starts with, its opening quote stands in there.
  have opens : ∀ {front tail : Text}, front ≠ [] → q :: (inside ++ [q]) = front ++ tail → q ∈ front := by
    intro front tail some same
    obtain ⟨c, more, rfl⟩ := List.exists_cons_of_ne_nil some
    rw [(List.cons.inj same).1]
    simp
  obtain ⟨tail, later, ⟨-, same⟩ | ⟨letters, v, -, -, -, -, same⟩⟩ := related.of_append free leads
  · have first := opens leads.text_ne_nil same
    cases leads with
    | @quoted other within _ _ missing =>
      simp only [Piece.text, List.cons_append, List.append_assoc, List.cons.injEq] at same
      obtain ⟨rfl, behind⟩ := same
      have closed := Source.closeQuote?_append absent []
      rw [behind] at closed
      change Source.closeQuote? q (within ++ q :: tail) = _ at closed
      rw [Source.closeQuote?_append missing] at closed
      cases closed
      rw [later.eq_nil_iff.2 rfl, List.append_nil, Piece.text]
    | word _ name _ => simp [Source.isQuote_of_isNameChar (name q first)] at quote
    | @lone other _ _ missing =>
      cases same
      exact absurd (by simp) (later.edited.not_mem_quote quote missing)
    | plain noQuote _ =>
      cases same
      simp [quote] at noQuote
  · have numeral := isNumeralChar_of_mem_ofInt (opens (ofInt_ne_nil v) same)
    simp [isQuote_of_isNumeralChar numeral] at quote

end AsmCheck.Program
