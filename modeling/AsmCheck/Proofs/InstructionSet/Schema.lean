import AsmCheck.InstructionSet.Schema
import AsmCheck.Proofs.Sequence
import AsmCheck.Proofs.Text.Upper
import Mathlib.Data.List.Nodup

/-! What a table that is accepted promises. Its names are in one form and none comes twice, so whoever looks for a
register or an operation finds it in any case of its letters, and its numbers are such that every count of operands
and every branch makes sense. -/

set_option autoImplicit false

namespace AsmCheck

/-- A name as instruction sets have it: something visible with nothing around it, in capitals. -/
structure IsEntryName (name : Text) : Prop where
  nonempty : name ≠ []
  trimmed : Text.trim name = name
  capital : Text.upper name = name

theorem isEntryName_of_visible {t : Text} (visible : Text.isBlank t = false) :
    IsEntryName (Text.upper (Text.trim t)) where
  nonempty := by
    obtain ⟨c, rest, first, -⟩ := (Text.tight_trim visible).upper.first
    simp [first]
  trimmed := (Text.tight_trim visible).upper.trim_eq
  capital := Text.upper_upper _

structure AreEntryNames (names : List Text) : Prop where
  distinct : names.Nodup
  named : ∀ name ∈ names, IsEntryName name

/-- The operation can be used as its numbers say. -/
structure Operation.IsSound (o : Operation) : Prop where
  name : IsEntryName o.mnemonic
  bounds : 0 ≤ o.arity.minimum.value ∧ o.arity.minimum.value ≤ o.arity.maximum.value
  target : o.branch = true → o.arity.minimum.value ≤ 1 ∧ 1 ≤ o.arity.maximum.value
  cycles : 1 ≤ o.cycles

/-- The operation has the mnemonic that an entry of a table gives. -/
def HasMnemonic (entry : Json) (o : Operation) : Prop :=
  ∃ given, entry.member? "mnemonic" = some (.str given) ∧ o.mnemonic = Text.upper (Text.trim given)

namespace InstructionSet

/-! ## Members of a table -/

section
variable {v : Option Json} {mnemonic key : Text}

theorem visibleText?_eq_some {t : Text} (found : visibleText? v = some t) :
    v = some (.str t) ∧ Text.isBlank t = false := by
  unfold visibleText? at found
  split at found
  · split at found
    · cases found
    · next visible =>
      cases found
      exact ⟨rfl, Bool.eq_false_iff.2 visible⟩
  · cases found

theorem describedOf_eq_ok {entry : Json} {d : Described} (read : describedOf key entry = .ok d) :
    IsEntryName d.name := by
  unfold describedOf at read
  split at read
  · split at read
    · next name found =>
      obtain ⟨description, -, result⟩ := bind_eq_ok.1 read
      cases result
      exact isEntryName_of_visible (visibleText?_eq_some found).2
    · cases read
  · cases read

theorem arityOf_eq_ok {operands : Json} {arity : Arity} (read : arityOf mnemonic operands = .ok arity) :
    0 ≤ arity.minimum.value ∧ arity.minimum.value ≤ arity.maximum.value := by
  unfold arityOf at read
  split at read
  · split at read
    · next few =>
      cases read
      simp only [Whole.value]
      omega
    · cases read
  · split at read
    · split at read
      · cases read
      · next valid =>
        cases read
        simp only
        omega
    · cases read
  · cases read

theorem branchOf_eq_ok {arity : Arity} (read : branchOf mnemonic arity v = .ok true) :
    arity.minimum.value ≤ 1 ∧ 1 ≤ arity.maximum.value := by
  unfold branchOf at read
  split at read
  · cases read
  · cases read
  · split at read
    · next accepts => simpa [Arity.accepts] using accepts
    · cases read
  · cases read

theorem cyclesOf_eq_ok {cycles : Int} (read : cyclesOf mnemonic v = .ok cycles) : 1 ≤ cycles := by
  unfold cyclesOf at read
  split at read
  · cases read
    exact Int.le_refl 1
  · split at read
    · cases read
    · next positive =>
      cases read
      exact Int.not_lt.1 positive
  · cases read

theorem operationOf_eq_ok {place : Text} {number : Nat} {entry : Json} {o : Operation}
    (read : operationOf place number entry = .ok o) :
    HasMnemonic entry o ∧ o.IsSound := by
  unfold operationOf at read
  split at read
  · split at read
    · next given found =>
      obtain ⟨member, visible⟩ := visibleText?_eq_some found
      split at read
      · obtain ⟨usage, -, read⟩ := bind_eq_ok.1 read
        split at read
        · obtain ⟨arity, bounded, read⟩ := bind_eq_ok.1 read
          obtain ⟨branch, branched, read⟩ := bind_eq_ok.1 read
          obtain ⟨flags, -, read⟩ := bind_eq_ok.1 read
          obtain ⟨sample, -, read⟩ := bind_eq_ok.1 read
          obtain ⟨cycles, counted, read⟩ := bind_eq_ok.1 read
          cases read
          refine ⟨⟨given, member, rfl⟩, isEntryName_of_visible visible, arityOf_eq_ok bounded, ?_,
            cyclesOf_eq_ok counted⟩
          rintro rfl
          exact branchOf_eq_ok branched
        · cases read
      · cases read
    · cases read
  · cases read

end

/-! ## Lists of entries -/

theorem entryList_eq_ok {α : Type} {entryOf : Nat → Json → Except SchemaError α} {name : α → Text}
    {repeated : Text → SchemaError} {number : Nat} {taken : List Text} {entries : List Json} {results : List α}
    (read : entryList entryOf name repeated number taken entries = .ok results) :
    List.Forall₂ (fun entry a => ∃ n, entryOf n entry = .ok a) entries results ∧ (results.map name).Nodup ∧
      ∀ a ∈ results, name a ∉ taken := by
  induction entries generalizing number taken results with
  | nil =>
    cases read
    simp
  | cons entry rest ih =>
    obtain ⟨first, found, read⟩ := bind_eq_ok.1 read
    split at read
    · cases read
    · next free =>
      obtain ⟨more, later, result⟩ := bind_eq_ok.1 read
      cases result
      obtain ⟨related, distinct, untaken⟩ := ih later
      refine ⟨.cons ⟨number, found⟩ related, ?_, ?_⟩
      · rw [List.map_cons, List.nodup_cons, List.mem_map]
        refine ⟨?_, distinct⟩
        rintro ⟨a, member, same⟩
        exact untaken a member (by simp [same])
      · intro a member
        rcases List.mem_cons.1 member with rfl | member
        · exact free
        · exact fun used => untaken a member (List.mem_cons_of_mem _ used)

theorem describedList_eq_ok {key : Text} {entries : List Json} {described : List Described}
    (read : describedList key entries = .ok described) :
    described.length = entries.length ∧ AreEntryNames (described.map Described.name) := by
  obtain ⟨related, distinct, -⟩ := entryList_eq_ok read
  refine ⟨related.length_eq.symm, distinct, ?_⟩
  rw [List.forall_mem_map]
  intro d member
  obtain ⟨entry, -, number, found⟩ := exists_of_forall₂_of_mem_right related member
  exact describedOf_eq_ok found

theorem operationList_eq_ok {place : Text} {entries : List Json} {operations : List Operation}
    (read : operationList place entries = .ok operations) :
    List.Forall₂ HasMnemonic entries operations ∧ (∀ o ∈ operations, o.IsSound) ∧
      (operations.map Operation.mnemonic).Nodup := by
  obtain ⟨related, distinct, -⟩ := entryList_eq_ok read
  refine ⟨related.imp fun _ _ ⟨_, found⟩ => (operationOf_eq_ok found).1, ?_, distinct⟩
  intro o member
  obtain ⟨entry, -, number, found⟩ := exists_of_forall₂_of_mem_right related member
  exact (operationOf_eq_ok found).2

section
variable {data : Json}

theorem registersOf_eq_ok {registers : List Described} (read : registersOf data = .ok registers) :
    registers ≠ [] ∧ AreEntryNames (registers.map Described.name) := by
  unfold registersOf at read
  split at read
  · obtain ⟨as_many, names⟩ := describedList_eq_ok read
    refine ⟨?_, names⟩
    rintro rfl
    cases as_many
  · cases read

theorem flagsOf_eq_ok {flags : List Described} (read : flagsOf data = .ok flags) :
    AreEntryNames (flags.map Described.name) := by
  unfold flagsOf at read
  split at read
  · cases read
    exact ⟨List.nodup_nil, by simp⟩
  · split at read
    · exact (describedList_eq_ok read).2
    · cases read

theorem operationsOf_eq_ok {place : Text} {operations : List Operation}
    (read : operationsOf place data = .ok operations) :
    (∃ entries, data.member? "instructions" = some (.arr entries) ∧ List.Forall₂ HasMnemonic entries operations) ∧
      (∀ o ∈ operations, o.IsSound) ∧ (operations.map Operation.mnemonic).Nodup := by
  unfold operationsOf at read
  split at read
  · next entry rest listed =>
    obtain ⟨related, sound, distinct⟩ := operationList_eq_ok read
    exact ⟨⟨entry :: rest, listed, related⟩, sound, distinct⟩
  · cases read

end

/-! ## The whole table -/

theorem get?_of_distinct {set : InstructionSet} {o : Operation} {spelling : Text}
    (distinct : set.mnemonics.Nodup) (member : o ∈ set.operations) (spelled : Text.upper spelling = o.mnemonic) :
    set.get? spelling = some o := by
  unfold get?
  rw [spelled]
  cases found : set.operations.find? (·.mnemonic = o.mnemonic) with
  | none => simpa using List.find?_eq_none.1 found o member
  | some other =>
    -- two operations of one name are the same operation
    have named : other.mnemonic = o.mnemonic := by simpa using List.find?_some found
    rw [List.inj_on_of_nodup_map distinct (List.mem_of_find?_eq_some found) member named]

theorem isRegister_of_mem {set : InstructionSet} {d : Described} {spelling : Text}
    (member : d ∈ set.registers) (spelled : Text.upper spelling = d.name) : set.isRegister spelling = true := by
  rw [isRegister, decide_eq_true_iff, spelled]
  exact List.mem_map_of_mem member

/-- A table that is accepted has registers, names in one form and without repetition, an operation for each entry in
the order of the entries, numbers that make sense, and every spelling of a name leads to what it names. -/
theorem accepted_table_sound {place : Text} {data : Json} {set : InstructionSet}
    (accepted : ofJson place data = .ok set) :
    set.registers ≠ [] ∧
      AreEntryNames set.registerNames ∧
      AreEntryNames (set.flags.map Described.name) ∧
      AreEntryNames set.mnemonics ∧
      (∃ entries, data.member? "instructions" = some (.arr entries) ∧
        List.Forall₂ HasMnemonic entries set.operations) ∧
      (∀ o ∈ set.operations, o.IsSound) ∧
      (∀ o ∈ set.operations, ∀ spelling, Text.upper spelling = o.mnemonic → set.get? spelling = some o) ∧
      ∀ d ∈ set.registers, ∀ spelling, Text.upper spelling = d.name → set.isRegister spelling = true := by
  unfold ofJson at accepted
  split at accepted
  · split at accepted
    · split at accepted
      · cases accepted
      · split at accepted
        · obtain ⟨description, -, accepted⟩ := bind_eq_ok.1 accepted
          obtain ⟨registers, registered, accepted⟩ := bind_eq_ok.1 accepted
          obtain ⟨flags, flagged, accepted⟩ := bind_eq_ok.1 accepted
          obtain ⟨operations, operated, accepted⟩ := bind_eq_ok.1 accepted
          cases accepted
          obtain ⟨some_register, register_names⟩ := registersOf_eq_ok registered
          obtain ⟨listed, sound, distinct⟩ := operationsOf_eq_ok operated
          refine ⟨some_register, register_names, flagsOf_eq_ok flagged, ⟨distinct, ?_⟩, listed, sound, ?_, ?_⟩
          · simp only [mnemonics, List.forall_mem_map]
            exact fun o member => (sound o member).name
          · exact fun o member spelling => get?_of_distinct distinct member
          · exact fun d member spelling => isRegister_of_mem member
        · cases accepted
    · cases accepted
  · cases accepted

/-- Names in small letters with space around them, and truth values where numbers are asked for. -/
def looseTable : Json :=
  .obj [("schema_version", .bool true), ("name", .str " Loose "),
    ("registers", .arr [.obj [("name", .str " ax ")]]),
    ("instructions", .arr [
      .obj [("mnemonic", .str "jmp "), ("summary", .str "Jump"), ("branch", .bool true),
        ("operands", .obj [("min", .bool false), ("max", .bool true)])],
      .obj [("mnemonic", .str "Nop"), ("summary", .str "Wait"), ("operands", .int 0), ("cycles", .int 3)]])]

def looseJump : Operation := ⟨"JMP", "Jump", "JMP", ⟨.bool false, .bool true⟩, true, [], [], 1⟩

def looseSet : InstructionSet :=
  ⟨.bool true, "Loose", [], [⟨"AX", []⟩], [], [looseJump, ⟨"NOP", "Wait", "NOP", .exactly 0, false, [], [], 3⟩]⟩

theorem accepted_table_loose_names :
    ofJson "loose.json" looseTable = .ok looseSet ∧ looseSet.get? "jMp" = some looseJump ∧
      looseSet.isRegister "aX" = true := by
  have accepted : ofJson "loose.json" looseTable = .ok looseSet := by decide +kernel
  obtain ⟨-, -, -, -, -, -, finds, recognises⟩ := accepted_table_sound accepted
  exact ⟨accepted, finds looseJump (by simp [looseSet]) _ (by decide +kernel),
    recognises ⟨"AX", []⟩ (by simp [looseSet]) _ (by decide +kernel)⟩

end InstructionSet

end AsmCheck
