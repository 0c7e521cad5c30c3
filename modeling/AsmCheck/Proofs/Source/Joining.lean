import AsmCheck.Proofs.Source.Operands

/-! Operands that are joined again. A field ends only where no quote and no bracket is open, so all fields but the last
are balanced, and joining operands by commas and dividing the text again gives the same operands. -/

set_option autoImplicit false

namespace AsmCheck

namespace Source

/-- Quotes are closed, brackets outside quotes are closed, and no comma stands outside both. A closing bracket may be one
too many. -/
inductive Balanced : Bool → Text → Prop where
  | nil {nested : Bool} : Balanced nested []
  | plain {nested : Bool} {c : CodePoint} {rest : Text} : isNeutral c = true → Balanced nested rest →
      Balanced nested (c :: rest)
  | comma {rest : Text} : Balanced true rest → Balanced true (.scalar ',' :: rest)
  | quoted {nested : Bool} {q : CodePoint} {inside rest : Text} : isQuote q = true → q ∉ inside →
      Balanced nested rest → Balanced nested (q :: (inside ++ q :: rest))
  | bracketed {nested : Bool} {opening closing : CodePoint} {inside rest : Text} :
      (opening = '[' ∨ opening = '(') → (closing = ']' ∨ closing = ')') → Balanced true inside →
      Balanced nested rest → Balanced nested (opening :: (inside ++ closing :: rest))
  | surplus {closing : CodePoint} {rest : Text} : (closing = ']' ∨ closing = ')') → Balanced false rest →
      Balanced false (closing :: rest)

/-- The fields hold the operands in their order, with white space around them, and further fields are blank. -/
inductive Padded : List Text → List Text → Prop where
  | nil : Padded [] []
  | empty {operands fields : List Text} {blank : Text} : (∀ c ∈ blank, Text.isSpace c = true) →
      Padded operands fields → Padded operands (blank :: fields)
  | operand {operands fields : List Text} {operand before after : Text} : (∀ c ∈ before, Text.isSpace c = true) →
      (∀ c ∈ after, Text.isSpace c = true) → Padded operands fields →
      Padded (operand :: operands) ((before ++ operand ++ after) :: fields)

/-! ## White space -/

variable {n m k : Nesting} {t rest : Text} {c : CodePoint}

theorem Passes.split (both : Passes n (t ++ rest) k) : ∃ m, Passes n t m ∧ Passes m rest k := by
  induction t generalizing n with
  | nil => exact ⟨n, .nil, both⟩
  | cons c more ih =>
    cases both with
    | cons joined later =>
      obtain ⟨m, first, second⟩ := ih later
      exact ⟨m, .cons joined first, second⟩

theorem Passes.unique (first : Passes n t m) (second : Passes n t k) : m = k := by
  induction first with
  | nil =>
    cases second
    rfl
  | cons _ _ ih =>
    cases second with
    | cons _ later => exact ih later

/-- A quote that is open is a quote. -/
def Nesting.Sound (n : Nesting) : Prop := ∀ q ∈ n.quote, isQuote q = true

theorem Nesting.Sound.after (sound : n.Sound) (c : CodePoint) : (n.after c).Sound := by
  intro q found
  rw [Nesting.after, Option.mem_def] at found
  unfold openAfter at found
  split at found
  · next own _ open? =>
    obtain ⟨-, same⟩ := Option.ite_none_left_eq_some.1 found
    exact sound q (by rw [Option.mem_def, open?, same])
  · obtain ⟨quote, same⟩ := Option.ite_none_right_eq_some.1 found
    cases same
    exact quote

theorem Passes.sound (passes : Passes n t m) (sound : n.Sound) : m.Sound := by
  induction passes with
  | nil => exact sound
  | cons _ _ ih => exact ih (sound.after _)

theorem Nesting.Sound.after_space (sound : n.Sound) (space : Text.isSpace c = true) : n.after c = n := by
  cases open? : n.quote with
  | none => exact Nesting.after_neutral open? (isNeutral_of_isSpace space)
  | some q =>
    have different : c ≠ q := by
      rintro rfl
      simp [isSpace_of_isQuote (sound c open?)] at space
    exact Nesting.after_inside open? different

theorem Nesting.Sound.passes_spaces (sound : n.Sound) (spaces : ∀ c ∈ t, Text.isSpace c = true) : Passes n t n := by
  induction t with
  | nil => exact .nil
  | cons c rest ih =>
    have space : Text.isSpace c = true := spaces c List.mem_cons_self
    refine .cons (Nesting.separates_neutral (isNeutral_of_isSpace space)) ?_
    rw [sound.after_space space]
    exact ih fun d member => spaces d (List.mem_cons_of_mem _ member)

/-- White space around a text opens and closes nothing. -/
theorem Passes.trim (passes : Passes n t m) (sound : n.Sound) : Passes n (Text.trim t) m := by
  obtain ⟨before, after, whole, front, back⟩ := Text.exists_spaces_around t
  rw [whole] at passes
  obtain ⟨last, visible, behind⟩ := passes.split
  obtain ⟨first, ahead, inside⟩ := visible.split
  obtain rfl : n = first := (sound.passes_spaces front).unique ahead
  obtain rfl : last = m := ((inside.sound sound).passes_spaces back).unique behind
  exact inside

/-! ## Fields and what they are joined to -/

/-- Each text but the last leaves nothing open, and none of them has a comma that separates. -/
inductive Separable : Nesting → List Text → Prop where
  | nil {n : Nesting} : Separable n []
  | last {n m : Nesting} {t : Text} : Passes n t m → Separable n [t]
  | more {n : Nesting} {t : Text} {fields : List Text} : Passes n t {} → Separable {} fields →
      Separable n (t :: fields)

variable {fields : List Text}

theorem Nesting.eq_of_separates (separates : n.separates c = true) : n = {} ∧ c = ',' := by
  obtain ⟨quote, depth⟩ := n
  simp only [Nesting.separates, Bool.and_eq_true, Option.isNone_iff_eq_none, beq_iff_eq] at separates
  obtain ⟨⟨rfl, rfl⟩, rfl⟩ := separates
  exact ⟨rfl, rfl⟩

theorem Separable.consHead (joined : n.separates c = false) (separable : Separable (n.after c) fields)
    (some : fields ≠ []) : Separable n (Text.consHead c fields) := by
  cases separable with
  | nil => exact absurd rfl some
  | last passes => exact .last (.cons joined passes)
  | more passes rest => exact .more (.cons joined passes) rest

theorem fieldsFrom_ne_nil (n : Nesting) (t : Text) : fieldsFrom n t ≠ [] := by
  obtain ⟨field, fields, split, -⟩ := exists_first_field n t
  simp [split]

theorem separable_fieldsFrom (n : Nesting) (t : Text) : Separable n (fieldsFrom n t) := by
  induction t generalizing n with
  | nil => exact .last .nil
  | cons c rest ih =>
    rw [fieldsFrom]
    split
    · next separates =>
      obtain ⟨rfl, rfl⟩ := Nesting.eq_of_separates separates
      exact .more .nil (ih {})
    · next joined => exact .consHead (by simpa using joined) (ih _) (fieldsFrom_ne_nil _ _)

theorem fieldsFrom_comma (t : Text) : fieldsFrom {} (.scalar ',' :: t) = [] :: fieldsFrom {} t := rfl

theorem join_singleton (t : Text) : Text.join "," [t] = t := by
  simp [Text.join]

theorem join_cons_cons (t field : Text) (others : List Text) :
    Text.join "," (t :: field :: others) = t ++ .scalar ',' :: Text.join "," (field :: others) := by
  rw [Text.join, List.intercalate_cons_cons, List.append_assoc]
  rfl

theorem Separable.fieldsFrom_join (separable : Separable n fields) (some : fields ≠ []) :
    fieldsFrom n (Text.join "," fields) = fields := by
  induction separable with
  | nil => exact absurd rfl some
  | last passes => rw [join_singleton, passes.fieldsFrom_eq]
  | @more n t fields passes rest ih =>
    cases fields with
    | nil => rw [join_singleton, passes.fieldsFrom_eq]
    | cons field others =>
      have later : fieldsFrom {} (Text.join "," (field :: others)) = field :: others := ih (by simp)
      have cut : fieldsFrom {} (.scalar ',' :: Text.join "," (field :: others)) = [] :: field :: others := by
        rw [fieldsFrom_comma, later]
      rw [join_cons_cons, passes.fieldsFrom_append cut, List.append_nil]

/-! ## Operands from fields -/

/-- The fields that hold something, without white space around them. -/
def visibleFields (fields : List Text) : List Text := (fields.map Text.trim).filter (!·.isEmpty)

theorem operands_eq (t : Text) : operands t = visibleFields (fieldsFrom {} t) := rfl

theorem tight_of_mem_visibleFields {item : Text} (listed : item ∈ visibleFields fields) : Text.Tight item := by
  obtain ⟨mapped, some⟩ := List.mem_filter.1 listed
  obtain ⟨field, -, rfl⟩ := List.mem_map.1 mapped
  apply Text.tight_trim
  rw [Bool.eq_false_iff]
  intro blank
  simp [Text.trim_eq_nil.2 blank] at some

theorem visibleFields_of_tight (tight : ∀ item ∈ fields, Text.Tight item) : visibleFields fields = fields := by
  have same : fields.map Text.trim = fields := by
    rw [List.map_congr_left fun item listed => (tight item listed).trim_eq, List.map_id']
  rw [visibleFields, same, List.filter_eq_self]
  intro item listed
  obtain ⟨c, rest, rfl, -⟩ := (tight item listed).first
  rfl

theorem visibleFields_blank (blank : ∀ c ∈ t, Text.isSpace c = true) :
    visibleFields (t :: fields) = visibleFields fields := by
  have nothing : Text.trim t = [] := Text.trim_eq_nil.2 (Text.isBlank_eq_true.2 blank)
  simp [visibleFields, nothing]

theorem visibleFields_cons (t : Text) (fields : List Text) :
    visibleFields (t :: fields) =
      if Text.trim t = [] then visibleFields fields else Text.trim t :: visibleFields fields := by
  by_cases nothing : Text.trim t = [] <;> simp [visibleFields, nothing]

theorem sound_outside : Nesting.Sound {} := by
  rintro q ⟨⟩

theorem Separable.visibleFields (separable : Separable {} fields) : Separable {} (visibleFields fields) := by
  generalize start : ({} : Nesting) = n at separable
  induction separable with
  | nil => exact .nil
  | last passes =>
    subst start
    rw [visibleFields_cons]
    split
    · exact .nil
    · exact .last (passes.trim sound_outside)
  | more passes rest ih =>
    subst start
    rw [visibleFields_cons]
    split
    · exact ih rfl
    · exact .more (passes.trim sound_outside) (ih rfl)

theorem Separable.operands_join (separable : Separable {} fields) :
    operands (Text.join "," fields) = Source.visibleFields fields := by
  by_cases nothing : fields = []
  · subst nothing
    rfl
  · rw [operands_eq, separable.fieldsFrom_join nothing]

/-! ## Balanced texts -/

theorem Nesting.after_opening (outside : n.quote = none) (opening : c = '[' ∨ c = '(') :
    n.after c = { n with depth := n.depth + 1 } := by
  rcases opening with rfl | rfl <;> simp [Nesting.after, openAfter, outside, isQuote]

theorem Nesting.after_closing (outside : n.quote = none) (closing : c = ']' ∨ c = ')') :
    n.after c = { n with depth := n.depth - 1 } := by
  rcases closing with rfl | rfl <;> simp [Nesting.after, openAfter, outside, isQuote]

theorem Nesting.after_comma (outside : n.quote = none) : n.after ',' = n := by
  cases n
  simp_all [Nesting.after, openAfter, isQuote]

theorem Nesting.separates_of_ne (different : c ≠ ',') : n.separates c = false := by
  simp [Nesting.separates, different]

/-- A balanced text ends as deep as it starts. -/
theorem Balanced.passes {nested : Bool} (balanced : Balanced nested t) (outside : n.quote = none)
    (deep : nested = true ↔ 0 < n.depth) : Passes n t n := by
  induction balanced generalizing n with
  | nil => exact .nil
  | plain neutral _ ih =>
    refine .cons (Nesting.separates_neutral neutral) ?_
    rw [Nesting.after_neutral outside neutral]
    exact ih outside deep
  | comma _ ih =>
    have inside : 0 < n.depth := deep.1 rfl
    refine .cons (by simp [Nesting.separates, inside.ne']) ?_
    rw [Nesting.after_comma outside]
    exact ih outside deep
  | quoted quote absent _ ih =>
    have passed := (Passes.quoted outside quote absent).append (ih outside deep)
    simpa [Piece.text] using passed
  | @bracketed nested opening closing inside rest start stop _ _ inner later =>
    have opened : n.after opening = { n with depth := n.depth + 1 } := Nesting.after_opening outside start
    have closed : Nesting.after { n with depth := n.depth + 1 } closing = n := Nesting.after_closing outside stop
    refine .cons (Nesting.separates_of_ne (by rintro rfl; simp at start)) ?_
    rw [opened]
    have passed : Passes { n with depth := n.depth + 1 } inside { n with depth := n.depth + 1 } :=
      inner outside ⟨fun _ => Nat.succ_pos _, fun _ => rfl⟩
    have behind : Passes { n with depth := n.depth + 1 } (closing :: rest) n := by
      refine .cons (Nesting.separates_of_ne (by rintro rfl; simp at stop)) ?_
      rw [closed]
      exact later outside deep
    exact passed.append behind
  | @surplus closing rest stop _ ih =>
    have shallow : n.depth = 0 := by simpa using deep
    have same : n.after closing = n := by
      rw [Nesting.after_closing outside stop, shallow]
      cases n
      simp_all
    refine .cons (Nesting.separates_of_ne (by rintro rfl; simp at stop)) ?_
    rw [same]
    exact ih outside deep

/-- From some depth on: at the outermost level the text is balanced, and further in it is balanced up to a bracket that
leads out, from which it goes on one level less deep. -/
def Closes : Nat → Text → Prop
  | 0, t => Balanced false t
  | depth + 1, t => ∃ (inside rest : Text) (closing : CodePoint), t = inside ++ closing :: rest ∧
      (closing = ']' ∨ closing = ')') ∧ Balanced true inside ∧ Closes depth rest

theorem Closes.append {depth : Nat} {front : Text} (closes : Closes depth rest)
    (keeps : ∀ {nested : Bool} {rest : Text}, Balanced nested rest → Balanced nested (front ++ rest)) :
    Closes depth (front ++ rest) := by
  cases depth with
  | zero => exact keeps closes
  | succ depth =>
    obtain ⟨inside, after, closing, rfl, stop, balanced, later⟩ := closes
    exact ⟨front ++ inside, after, closing, by simp, stop, keeps balanced, later⟩

theorem special_cases (c : CodePoint) : isNeutral c = true ∨ isQuote c = true ∨ (c = '[' ∨ c = '(') ∨
    (c = ']' ∨ c = ')') ∨ c = ',' := by
  cases quote : isQuote c with
  | true => exact .inr (.inl rfl)
  | false =>
    simp only [isNeutral, quote, Bool.not_false, Bool.true_and, Bool.and_eq_true, bne_iff_ne]
    grind

/-- A scan that ends with nothing open has gone over a balanced text. -/
theorem Passes.closes (passes : Passes n t m) (last : m = {}) :
    (n.quote = none → Closes n.depth t) ∧
      ∀ q, n.quote = some q → ∃ inside rest, t = inside ++ q :: rest ∧ q ∉ inside ∧ Closes n.depth rest := by
  induction passes with
  | nil =>
    subst last
    exact ⟨fun _ => .nil, by simp⟩
  | @cons n m c rest joined later ih =>
    obtain ⟨outside, within⟩ := ih last
    constructor
    · intro open?
      rcases special_cases c with neutral | quote | opening | closing | rfl
      · rw [Nesting.after_neutral open? neutral] at outside
        have keeps {nested : Bool} {rest : Text} (balanced : Balanced nested rest) : Balanced nested ([c] ++ rest) :=
          .plain neutral balanced
        exact (outside open?).append keeps
      · rw [Nesting.after_quote open? quote] at within
        obtain ⟨inside, after, rfl, absent, closes⟩ := within c rfl
        have keeps {nested : Bool} {rest : Text} (balanced : Balanced nested rest) :
            Balanced nested (c :: (inside ++ [c]) ++ rest) := by
          simpa using Balanced.quoted quote absent balanced
        simpa using closes.append keeps
      · rw [Nesting.after_opening open? opening] at outside
        obtain ⟨inside, after, closing, rfl, stop, inner, closes⟩ := outside open?
        have keeps {nested : Bool} {rest : Text} (balanced : Balanced nested rest) :
            Balanced nested (c :: (inside ++ [closing]) ++ rest) := by
          simpa using Balanced.bracketed opening stop inner balanced
        simpa using closes.append keeps
      · rw [Nesting.after_closing open? closing] at outside
        have closes := outside open?
        cases depth : n.depth with
        | zero =>
          rw [depth] at closes
          exact .surplus closing closes
        | succ depth' =>
          rw [depth] at closes
          exact ⟨[], rest, c, rfl, closing, .nil, closes⟩
      · rw [Nesting.after_comma open?] at outside
        have closes := outside open?
        cases depth : n.depth with
        | zero => simp [Nesting.separates, open?, depth] at joined
        | succ depth' =>
          rw [depth] at closes
          obtain ⟨inside, after, closing, rfl, stop, inner, behind⟩ := closes
          exact ⟨.scalar ',' :: inside, after, closing, rfl, stop, .comma inner, behind⟩
    · intro q open?
      by_cases same : c = q
      · subst same
        rw [Nesting.after_close open?] at outside
        exact ⟨[], rest, rfl, by simp, outside rfl⟩
      · rw [Nesting.after_inside open? same] at within
        obtain ⟨inside, after, rfl, absent, closes⟩ := within q open?
        exact ⟨c :: inside, after, rfl, by simp [Ne.symm same, absent], closes⟩

theorem balanced_iff_passes : Balanced false t ↔ Passes {} t {} := by
  constructor
  · intro balanced
    exact balanced.passes rfl (by simp)
  · intro passes
    exact (passes.closes rfl).1 rfl

theorem Separable.balanced (separable : Separable {} fields) : ∀ item ∈ fields.dropLast, Balanced false item := by
  generalize start : ({} : Nesting) = n at separable
  induction separable with
  | nil => simp
  | last _ => simp
  | @more n t fields passes rest ih =>
    subst start
    cases fields with
    | nil => simp
    | cons field others =>
      rw [List.dropLast_cons_cons, List.forall_mem_cons]
      exact ⟨balanced_iff_passes.2 passes, ih rfl⟩

variable {listed : List Text}

theorem Padded.separable (padded : Padded listed fields) (balanced : ∀ item ∈ listed, Balanced false item) :
    Separable {} fields := by
  induction padded with
  | nil => exact .nil
  | empty blank _ ih => exact .more (sound_outside.passes_spaces blank) (ih balanced)
  | operand front back _ ih =>
    have own := balanced_iff_passes.1 (balanced _ List.mem_cons_self)
    have before := sound_outside.passes_spaces front
    have after := sound_outside.passes_spaces back
    exact .more ((before.append own).append after) (ih fun item member => balanced item (List.mem_cons_of_mem _ member))

theorem Padded.visibleFields (padded : Padded listed fields) (tight : ∀ item ∈ listed, Text.Tight item) :
    visibleFields fields = listed := by
  induction padded with
  | nil => rfl
  | empty blank _ ih => rw [visibleFields_blank blank, ih tight]
  | @operand listed fields operand before after front back _ ih =>
    have own : Text.Tight operand := tight operand List.mem_cons_self
    have later : Source.visibleFields fields = listed := ih fun item member => tight item (List.mem_cons_of_mem _ member)
    have trimmed : Text.trim (before ++ operand ++ after) = operand := own.trim_around front back
    obtain ⟨c, rest, rfl, -⟩ := own.first
    rw [visibleFields_cons, trimmed, later, if_neg (by simp)]

/-- Operands joined by commas are found again, with white space around them and blank fields between them, and so are the
operands of any text, of which only the last one may leave something open. -/
theorem operands_of_joined_operands :
    (∀ t : Text, operands (Text.join "," (operands t)) = operands t ∧
      (∀ item ∈ operands t, item ≠ [] ∧ Text.trim item = item) ∧
      ∀ item ∈ (operands t).dropLast, Balanced false item) ∧
    ∀ listed fields : List Text, (∀ item ∈ listed, item ≠ [] ∧ Text.trim item = item ∧ Balanced false item) →
      Padded listed fields → operands (Text.join "," fields) = listed := by
  constructor
  · intro t
    have separable : Separable {} (operands t) := (separable_fieldsFrom {} t).visibleFields
    have tight : ∀ item ∈ operands t, Text.Tight item := fun item found => tight_of_mem_visibleFields found
    refine ⟨?_, fun item found => Text.tight_iff.1 (tight item found), separable.balanced⟩
    rw [separable.operands_join, visibleFields_of_tight tight]
  · intro listed fields wellFormed padded
    have separable : Separable {} fields := padded.separable fun item member => (wellFormed item member).2.2
    rw [separable.operands_join]
    refine padded.visibleFields fun item member => Text.tight_iff.2 ?_
    exact ⟨(wellFormed item member).1, (wellFormed item member).2.1⟩

/-- Commas in brackets and in quotes, a bracket that closes nothing and blank fields; and a text that leaves a bracket and
a quote open. -/
theorem operands_of_joined_operands_quoted_comma :
    operands (Text.join "," ["", " [E,(N])\t", "  ", "','", "a)b "]) = (["[E,(N])", "','", "a)b"] : List Text) ∧
      operands (Text.join "," (operands " ,), a,(b, 'c,")) = ([")", "a", "(b, 'c,"] : List Text) := by
  obtain ⟨again, joined⟩ := operands_of_joined_operands
  refine ⟨joined _ _ ?_ ?_, (again " ,), a,(b, 'c,").1.trans (by decide +kernel)⟩
  · have brackets : Balanced false "[E,(N])" :=
      @Balanced.bracketed false '[' ')' "E,(N]" "" (.inl rfl) (.inr rfl)
        (.plain rfl (.comma (@Balanced.bracketed true '(' ']' "N" "" (.inr rfl) (.inl rfl) (.plain rfl .nil) .nil))) .nil
    have quotes : Balanced false "','" := @Balanced.quoted false '\'' "," "" rfl (by decide) .nil
    have surplus : Balanced false "a)b" := .plain rfl (.surplus (.inr rfl) (.plain rfl .nil))
    simp only [List.forall_mem_cons, List.not_mem_nil, IsEmpty.forall_iff, implies_true, and_true]
    exact ⟨⟨by decide, by decide, brackets⟩, ⟨by decide, by decide, quotes⟩, ⟨by decide, by decide, surplus⟩⟩
  · refine .empty (by decide) (@Padded.operand _ _ "[E,(N])" " " "\t" (by decide) (by decide) (.empty (by decide) ?_))
    refine @Padded.operand _ _ "','" "" "" (by decide) (by decide) ?_
    exact @Padded.operand _ _ "a)b" "" " " (by decide) (by decide) .nil

end Source

end AsmCheck
