import AsmCheck.Editor.Highlight
import AsmCheck.Proofs.Source.Comments
import AsmCheck.Proofs.Source.Names

/-! Lexemes of a line. They stand in order and apart from each other, and cutting the comment off a line takes away the
lexemes of the comment and leaves all others as they were: where a comment starts no quote is open, so nothing that is
read before it reaches into it. -/

set_option autoImplicit false

namespace AsmCheck.Editor

open Source (isQuote isNameStart isNameChar specials stripComment)

/-! ## Readers -/

/-- What a reader takes off a text it takes off every beginning of the text that has room for it, and no comment starts
within what it takes. -/
structure Takes (read? : Text → Option Text) : Prop where
  part : ∀ {t found : Text}, read? t = some found → found ≠ [] ∧ found <+: t
  stays : ∀ {found rest shorter : Text}, read? (found ++ rest) = some found → shorter <+: rest →
    read? (found ++ shorter) = some found
  nothing : ∀ {t shorter : Text}, read? t = none → shorter <+: t → read? shorter = none
  uncut : ∀ {t found : Text}, read? t = some found → ∀ rest : Text,
    stripComment (found ++ rest) = found ++ stripComment rest

theorem Takes.or {first second : Text → Option Text} (one : Takes first) (other : Takes second) :
    Takes fun t => (first t).or (second t) where
  part := by
    intro t found read
    rcases Option.or_eq_some_iff.1 read with here | ⟨-, there⟩
    · exact one.part here
    · exact other.part there
  stays := by
    intro found rest shorter read start
    rcases Option.or_eq_some_iff.1 read with here | ⟨missed, there⟩
    · exact Option.or_eq_some_iff.2 (.inl (one.stays here start))
    · have still := one.nothing missed ((List.prefix_append_right_inj found).2 start)
      exact Option.or_eq_some_iff.2 (.inr ⟨still, other.stays there start⟩)
  nothing := by
    intro t shorter read start
    obtain ⟨here, there⟩ := Option.or_eq_none_iff.1 read
    exact Option.or_eq_none_iff.2 ⟨one.nothing here start, other.nothing there start⟩
  uncut := by
    intro t found read
    rcases Option.or_eq_some_iff.1 read with here | ⟨-, there⟩
    · exact one.uncut here
    · exact other.uncut there

/-- One character of a kind in front of what another reader takes. -/
def behind (kind : CodePoint → Bool) (read? : Text → Option Text) : Text → Option Text
  | c :: rest => if kind c then (read? rest).map (c :: ·) else none
  | [] => none

theorem behind_eq_some {kind : CodePoint → Bool} {read? : Text → Option Text} {t found : Text} :
    behind kind read? t = some found ↔
      ∃ c rest more, t = c :: rest ∧ kind c = true ∧ read? rest = some more ∧ found = c :: more := by
  cases t with
  | nil => simp [behind]
  | cons c rest =>
    rw [behind, Option.ite_none_right_eq_some, Option.map_eq_some_iff]
    constructor
    · rintro ⟨own, more, later, rfl⟩
      exact ⟨c, rest, more, rfl, own, later, rfl⟩
    · rintro ⟨_, _, more, ⟨⟩, own, later, rfl⟩
      exact ⟨own, more, later, rfl⟩

theorem Takes.behind {kind : CodePoint → Bool} {read? : Text → Option Text} (takes : Takes read?)
    (ordinary : ∀ special ∈ specials, kind special = false) : Takes (behind kind read?) where
  part := by
    intro t found read
    obtain ⟨c, rest, more, rfl, -, later, rfl⟩ := behind_eq_some.1 read
    exact ⟨by simp, List.cons_prefix_cons.2 ⟨rfl, (takes.part later).2⟩⟩
  stays := by
    intro found rest shorter read start
    obtain ⟨c, after, more, whole, own, later, rfl⟩ := behind_eq_some.1 read
    obtain ⟨-, rfl⟩ := List.cons.inj whole
    exact behind_eq_some.2 ⟨c, more ++ shorter, more, rfl, own, takes.stays later start, rfl⟩
  nothing := by
    intro t shorter read start
    cases found : Editor.behind kind read? shorter with
    | none => rfl
    | some part =>
      obtain ⟨c, rest, more, rfl, own, later, rfl⟩ := behind_eq_some.1 found
      obtain ⟨after, rfl⟩ := start
      have missed : read? (rest ++ after) = none := by simpa [Editor.behind, own] using read
      simp [takes.nothing missed (List.prefix_append rest after)] at later
  uncut := by
    intro t found read rest
    obtain ⟨c, after, more, rfl, own, later, rfl⟩ := behind_eq_some.1 read
    rw [List.cons_append, Source.stripComment_of_kind own ordinary, takes.uncut later, List.cons_append]

/-- As many characters of a kind as there are, if the first one can start them. -/
def runAt? (start kind : CodePoint → Bool) (t : Text) : Option Text :=
  if t.head?.any start then some (t.takeWhile kind) else none

theorem runAt?_eq_some {start kind : CodePoint → Bool} (own : ∀ {c}, start c = true → kind c = true)
    {t found : Text} : runAt? start kind t = some found ↔
      found.head?.any start = true ∧ (∀ c ∈ found, kind c = true) ∧
        ∃ rest, t = found ++ rest ∧ ∀ c ∈ rest.head?, kind c = false := by
  rw [runAt?, Option.ite_none_right_eq_some]
  constructor
  · rintro ⟨first, ⟨⟩⟩
    refine ⟨?_, fun c member => List.mem_takeWhile_imp member, t.dropWhile kind, List.takeWhile_append_dropWhile.symm,
      Source.head?_dropWhile_stop kind t⟩
    cases t with
    | nil => cases first
    | cons c rest => simpa [own (by simpa using first)] using first
  · rintro ⟨first, inside, rest, rfl, stop⟩
    refine ⟨?_, by rw [Source.takeWhile_append_stop inside stop]⟩
    cases found with
    | nil => cases first
    | cons c more => exact first

theorem head?_of_isPrefix {shorter t : Text} (start : shorter <+: t) : ∀ c ∈ shorter.head?, c ∈ t.head? := by
  obtain ⟨more, rfl⟩ := start
  cases shorter with
  | nil => simp
  | cons d rest => exact fun c first => first

theorem takes_runAt? {start kind : CodePoint → Bool} (own : ∀ {c}, start c = true → kind c = true)
    (ordinary : ∀ special ∈ specials, kind special = false) : Takes (runAt? start kind) where
  part := by
    intro t found read
    obtain ⟨first, -, rest, rfl, -⟩ := (runAt?_eq_some own).1 read
    refine ⟨?_, List.prefix_append found rest⟩
    rintro rfl
    cases first
  stays := by
    intro found rest shorter read begins
    obtain ⟨first, inside, after, whole, stop⟩ := (runAt?_eq_some own).1 read
    obtain rfl : rest = after := List.append_cancel_left whole
    refine (runAt?_eq_some own).2 ⟨first, inside, shorter, rfl, ?_⟩
    exact fun c next => stop c (head?_of_isPrefix begins c next)
  nothing := by
    intro t shorter read begins
    cases shorter with
    | nil => rfl
    | cons c rest =>
      obtain ⟨more, rfl⟩ := begins
      have silent : start c = false := by
        cases first : start c with
        | false => rfl
        | true => simp [runAt?, first] at read
      simp [runAt?, silent]
  uncut := by
    intro t found read rest
    obtain ⟨-, inside, -⟩ := (runAt?_eq_some own).1 read
    clear read
    induction found with
    | nil => rfl
    | cons c more ih =>
      have first : kind c = true := inside c (by simp)
      rw [List.cons_append, Source.stripComment_of_kind first ordinary, ih fun d member => inside d (by simp [member]),
        List.cons_append]

theorem quotedAt?_eq_some {t found : Text} : quotedAt? t = some found ↔
    ∃ q inside rest, isQuote q = true ∧ q ∉ inside ∧ found = q :: (inside ++ [q]) ∧ t = found ++ rest := by
  cases t with
  | nil =>
    constructor
    · rintro ⟨⟩
    · rintro ⟨q, inside, rest, -, -, rfl, ⟨⟩⟩
  | cons q rest =>
    rw [quotedAt?, Option.ite_none_right_eq_some, Option.map_eq_some_iff]
    constructor
    · rintro ⟨quote, ⟨inside, after⟩, closed, rfl⟩
      refine ⟨q, inside, after, quote, Source.not_mem_of_closeQuote? closed, rfl, ?_⟩
      simp [Source.closeQuote?_eq_append closed]
    · rintro ⟨q', inside, after, quote, absent, rfl, whole⟩
      obtain ⟨rfl, rfl⟩ : q = q' ∧ rest = inside ++ q' :: after := by simpa using whole
      exact ⟨quote, (inside, after), Source.closeQuote?_append absent after, rfl⟩

theorem takes_quotedAt? : Takes quotedAt? where
  part := by
    intro t found read
    obtain ⟨q, inside, rest, -, -, rfl, rfl⟩ := quotedAt?_eq_some.1 read
    exact ⟨by simp, List.prefix_append _ rest⟩
  stays := by
    intro found rest shorter read start
    obtain ⟨q, inside, -, quote, absent, own, -⟩ := quotedAt?_eq_some.1 read
    exact quotedAt?_eq_some.2 ⟨q, inside, shorter, quote, absent, own, rfl⟩
  nothing := by
    intro t shorter read start
    cases found : quotedAt? shorter with
    | none => rfl
    | some part =>
      obtain ⟨q, inside, rest, quote, absent, own, rfl⟩ := quotedAt?_eq_some.1 found
      obtain ⟨more, rfl⟩ := start
      have whole := quotedAt?_eq_some.2 ⟨q, inside, rest ++ more, quote, absent, own, List.append_assoc ..⟩
      cases read.symm.trans whole
  uncut := by
    intro t found read rest
    obtain ⟨q, inside, -, quote, absent, rfl, -⟩ := quotedAt?_eq_some.1 read
    simp [Source.stripComment_quote quote, Source.stripCommentFrom_close absent]

/-! ## The readers of lexemes -/

theorem runAt?_self (kind : CodePoint → Bool) (t : Text) :
    runAt? kind kind t = if (t.takeWhile kind).isEmpty then none else some (t.takeWhile kind) := by
  cases t with
  | nil => rfl
  | cons c rest => cases own : kind c <;> simp [runAt?, own]

theorem decimalAt?_eq : decimalAt? = runAt? Text.isDigit Text.isDigit := by
  funext t
  rw [runAt?_self, decimalAt?]

theorem markedAt?_eq (digit? : CodePoint → Option Nat) (marks : List CodePoint) :
    markedAt? digit? marks =
      behind (· == '0') (behind (· ∈ marks) (runAt? (fun c => (digit? c).isSome) fun c => (digit? c).isSome)) := by
  funext t
  fun_cases markedAt? digit? marks t with
  | case1 mark rest run marked =>
    obtain ⟨listed, digits⟩ : mark ∈ marks ∧ run.isEmpty = false := by simpa using marked
    simp [behind, runAt?_self, listed, run, digits]
  | case2 mark rest run unmarked =>
    by_cases listed : mark ∈ marks
    · have nothing : run.isEmpty = true := by simpa [listed] using unmarked
      simp [behind, runAt?_self, listed, run, nothing]
    · simp [behind, listed]
  | case3 t other =>
    match t with
    | [] => rfl
    | [c] => simp [behind]
    | c :: mark :: rest =>
      have different : c ≠ '0' := fun zero => other mark rest (by rw [zero])
      simp [behind, different]

theorem numberAt?_eq : numberAt? = fun t => (behind (· == '-') unsignedAt? t).or (unsignedAt? t) := by
  funext t
  fun_cases numberAt? t with
  | case1 rest =>
    have unsigned : unsignedAt? (.scalar '-' :: rest) = none := by
      rw [unsignedAt?, decimalAt?_eq, markedAt?_eq, markedAt?_eq]
      simp [behind, runAt?, show Text.isDigit '-' = false by decide]
    simp [behind, unsigned]
  | case2 t other =>
    cases t with
    | nil => rfl
    | cons c rest =>
      have different : c ≠ '-' := fun minus => other rest (by rw [minus])
      simp [behind, different]

theorem takes_markedAt? {digit? : CodePoint → Option Nat} {marks : List CodePoint}
    (digits : ∀ special ∈ specials, (digit? special).isSome = false)
    (marked : ∀ special ∈ specials, decide (special ∈ marks) = false) : Takes (markedAt? digit? marks) := by
  rw [markedAt?_eq]
  exact ((takes_runAt? id digits).behind marked).behind (by decide)

theorem takes_unsignedAt? : Takes unsignedAt? := by
  have hex : Takes (markedAt? Numeral.hexDigit? ['x', 'X']) := takes_markedAt? (by decide) (by decide)
  have binary : Takes (markedAt? Numeral.binaryDigit? ['b', 'B']) := takes_markedAt? (by decide) (by decide)
  have decimal : Takes decimalAt? := by
    rw [decimalAt?_eq]
    exact takes_runAt? id (by decide)
  exact hex.or (binary.or decimal)

theorem takes_lexemeAt? : Takes lexemeAt? := by
  have name : Takes nameAt? := takes_runAt? Source.isNameChar_of_isNameStart (by decide)
  have number : Takes numberAt? := by
    rw [numberAt?_eq]
    exact (takes_unsignedAt?.behind (by decide)).or takes_unsignedAt?
  exact takes_quotedAt?.or (name.or number)

/-! ## Lexemes from left to right -/

theorem lexemesFrom_found {found rest : Text} (read : lexemeAt? (found ++ rest) = some found) (place : Nat) :
    lexemesFrom place (found ++ rest) = ⟨place, found⟩ :: lexemesFrom (place + found.length) rest := by
  obtain ⟨c, more, rfl⟩ := List.exists_cons_of_ne_nil (takes_lexemeAt?.part read).1
  rw [List.cons_append] at read ⊢
  rw [lexemesFrom, read]
  simp

theorem lexemesFrom_nothing {c : CodePoint} {rest : Text} (read : lexemeAt? (c :: rest) = none) (place : Nat) :
    lexemesFrom place (c :: rest) = lexemesFrom (place + 1) rest := by
  rw [lexemesFrom, read]

@[elab_as_elim] theorem lexemes_induction {motive : Text → Prop} (nil : motive [])
    (found : ∀ {found rest : Text}, lexemeAt? (found ++ rest) = some found → motive rest → motive (found ++ rest))
    (nothing : ∀ {c : CodePoint} {rest : Text}, lexemeAt? (c :: rest) = none → motive rest → motive (c :: rest))
    (t : Text) : motive t := by
  cases t with
  | nil => exact nil
  | cons c rest =>
    cases read : lexemeAt? (c :: rest) with
    | none => exact nothing read (lexemes_induction nil found nothing rest)
    | some part =>
      obtain ⟨some, after, whole⟩ := takes_lexemeAt?.part read
      have shorter : after.length < (c :: rest).length := by
        have := List.length_pos_iff.2 some
        rw [← whole, List.length_append]
        omega
      rw [← whole] at read ⊢
      exact found read (lexemes_induction nil found nothing after)
termination_by t.length
decreasing_by
  · exact Nat.lt_succ_self _
  · exact shorter

theorem lexemesFrom_bounds (place : Nat) (t : Text) : ∀ l ∈ lexemesFrom place t,
    place ≤ l.start ∧ l.start < l.stop ∧ l.stop ≤ place + t.length := by
  induction t using lexemes_induction generalizing place with
  | nil => simp [lexemesFrom]
  | @found found rest read ih =>
    intro l member
    have size := List.length_pos_iff.2 (takes_lexemeAt?.part read).1
    rw [List.length_append]
    rw [lexemesFrom_found read, List.mem_cons] at member
    rcases member with rfl | later
    · simp only [Lexeme.stop]
      omega
    · have := ih _ l later
      omega
  | @nothing c rest read ih =>
    intro l member
    rw [lexemesFrom_nothing read] at member
    have := ih _ l member
    rw [List.length_cons]
    omega

theorem lexemesFrom_pairwise (place : Nat) (t : Text) :
    (lexemesFrom place t).Pairwise fun first second => first.stop ≤ second.start := by
  induction t using lexemes_induction generalizing place with
  | nil => simp [lexemesFrom]
  | @found found rest read ih =>
    rw [lexemesFrom_found read, List.pairwise_cons]
    exact ⟨fun l later => (lexemesFrom_bounds _ rest l later).1, ih _⟩
  | @nothing c rest read ih =>
    rw [lexemesFrom_nothing read]
    exact ih _

/-! ## Lexemes and the comment -/

theorem not_mem_of_lexemeAt? {q : CodePoint} {rest : Text} (read : lexemeAt? (q :: rest) = none)
    (quote : isQuote q = true) : q ∉ rest := by
  have unquoted := (Option.or_eq_none_iff.1 read).1
  rw [quotedAt?, if_pos quote, Option.map_eq_none_iff] at unquoted
  exact Source.closeQuote?_eq_none.1 unquoted

/-- The lexemes of a line without its comment are those of the line that start before the comment. -/
theorem lexemesFrom_stripComment (place : Nat) (t : Text) : lexemesFrom place (stripComment t) =
    (lexemesFrom place t).filter (·.start < place + (stripComment t).length) := by
  induction t using lexemes_induction generalizing place with
  | nil => simp [stripComment, Source.stripCommentFrom, lexemesFrom]
  | @found found rest read ih =>
    have cut : stripComment (found ++ rest) = found ++ stripComment rest := takes_lexemeAt?.uncut read rest
    have still : lexemeAt? (found ++ stripComment rest) = some found :=
      takes_lexemeAt?.stays read (Source.isPrefix_stripCommentFrom none rest)
    have size := List.length_pos_iff.2 (takes_lexemeAt?.part read).1
    have kept : place < place + (found.length + (stripComment rest).length) := by omega
    rw [cut, lexemesFrom_found still, lexemesFrom_found read, List.length_append, List.filter_cons_of_pos, ih,
      Nat.add_assoc]
    exact decide_eq_true kept
  | @nothing c rest read ih =>
    cases quote : isQuote c with
    | true =>
      -- The quote stays open to the end of the line, so there is no comment.
      have whole : stripComment (c :: rest) = c :: rest := by
        rw [Source.stripComment_quote quote, Source.stripCommentFrom_unclosed (not_mem_of_lexemeAt? read quote)]
      rw [whole, List.filter_eq_self.2]
      intro l member
      have := lexemesFrom_bounds _ _ l member
      exact decide_eq_true (by omega)
    | false =>
      by_cases semicolon : c = ';'
      · have nothing : stripComment (c :: rest) = [] := by simp [stripComment, Source.stripCommentFrom, semicolon]
        rw [nothing, lexemesFrom_nothing read, lexemesFrom, eq_comm, List.filter_eq_nil_iff]
        intro l member
        have := lexemesFrom_bounds _ _ l member
        simp only [List.length_nil, decide_eq_true_eq]
        omega
      · have cut : stripComment (c :: rest) = c :: stripComment rest := Source.stripComment_plain quote semicolon rest
        have still : lexemeAt? (c :: stripComment rest) = none :=
          takes_lexemeAt?.nothing read (List.cons_prefix_cons.2 ⟨rfl, Source.isPrefix_stripCommentFrom none rest⟩)
        have shift : place + (c :: stripComment rest).length = place + 1 + (stripComment rest).length := by
          rw [List.length_cons]
          omega
        rw [cut, lexemesFrom_nothing still, lexemesFrom_nothing read, shift, ih]

end AsmCheck.Editor
