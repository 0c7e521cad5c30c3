import AsmCheck.Program.Memory
import Mathlib.Data.List.Induction
import Mathlib.Tactic.LinearCombination

/-! The memory image of data items. An address holds a byte exactly if an item lies over it, and the byte belongs to
the value that the last such item puts there, in two's complement with the least significant byte first. So an item
that no later one overlaps is read back value by value. -/

set_option autoImplicit false

namespace AsmCheck

open Source (Width)

/-! ## The bytes of a value -/

/-- The number that bytes stand for, the least significant byte first. -/
def littleEndian : List UInt8 → Nat
  | [] => 0
  | byte :: rest => byte.toNat + 256 * littleEndian rest

/-- A byte of the word that holds a value in two's complement, counted from the least significant. -/
def wordByte (width : Width) (value : Int) (k : Nat) : UInt8 :=
  ⟨(BitVec.ofInt (8 * width.size) value).extractLsb' (8 * k) 8⟩

@[simp] theorem length_bytesOf (size : Nat) (value : Int) : (bytesOf size value).length = size := by
  induction size generalizing value with
  | zero => rfl
  | succ size ih => simp [bytesOf, ih]

theorem emod_byte_mul (value : Int) {m : Int} (positive : 0 < m) :
    value % (256 * m) = value % 256 + 256 * (value / 256 % m) := by
  have low := Int.emod_add_mul_ediv value 256
  have high := Int.emod_add_mul_ediv (value / 256) m
  have highLow := Int.emod_nonneg (value / 256) positive.ne'
  have highLess := Int.emod_lt_of_pos (value / 256) positive
  have quotient := Int.ediv_emod_unique (a := value) (r := value % 256 + 256 * (value / 256 % m))
    (q := value / 256 / m) (show 0 < 256 * m by omega)
  refine (quotient.2 ⟨?_, by omega, by omega⟩).2
  linear_combination low + 256 * high

/-- Bytes read back give the value up to what the width cannot hold. -/
theorem littleEndian_bytesOf (size : Nat) (value : Int) :
    (littleEndian (bytesOf size value) : Int) = value % 2 ^ (8 * size) := by
  induction size generalizing value with
  | zero => simp [bytesOf, littleEndian]
  | succ size ih =>
    have byte : (UInt8.ofNat (value % 256).toNat).toNat = (value % 256).toNat := by
      rw [UInt8.toNat_ofNat']
      omega
    have power : (2 : Int) ^ (8 * (size + 1)) = 256 * 2 ^ (8 * size) := by
      rw [Nat.mul_add, pow_add, mul_comm]
      rfl
    have positive : (0 : Int) < 2 ^ (8 * size) := Int.pow_pos (by decide)
    rw [power, emod_byte_mul value positive, ← ih (value / 256), bytesOf, littleEndian, byte]
    push_cast
    omega

/-- Bytes are the digits of their number to the base of 256. -/
theorem digit_littleEndian {bytes : List UInt8} {k : Nat} {byte : UInt8} (found : bytes[k]? = some byte) :
    littleEndian bytes / 2 ^ (8 * k) % 2 ^ 8 = byte.toNat := by
  induction bytes generalizing k with
  | nil => simp at found
  | cons first rest ih =>
    have bound := first.toNat_lt
    cases k with
    | zero =>
      cases found
      simp only [littleEndian, Nat.mul_zero, Nat.pow_zero, Nat.div_one]
      omega
    | succ k =>
      have shifted : (first.toNat + 256 * littleEndian rest) / 2 ^ 8 = littleEndian rest := by omega
      have power : 2 ^ (8 * (k + 1)) = 2 ^ 8 * 2 ^ (8 * k) := by
        rw [Nat.mul_add, Nat.add_comm, Nat.pow_add]
      rw [← ih found, littleEndian, power, ← Nat.div_div_eq_div_mul, shifted]

theorem getElem?_bytesOf {width : Width} {k : Nat} (within : k < width.size) (value : Int) :
    (bytesOf width.size value)[k]? = some (wordByte width value k) := by
  obtain ⟨byte, found⟩ : ∃ byte, (bytesOf width.size value)[k]? = some byte :=
    ⟨_, List.getElem?_eq_getElem (by simpa using within)⟩
  have word : (BitVec.ofInt (8 * width.size) value).toNat = littleEndian (bytesOf width.size value) := by
    rw [BitVec.toNat_ofInt]
    push_cast
    rw [← littleEndian_bytesOf, Int.toNat_natCast]
  -- Both bytes are the same digit of the number that the word holds.
  have same : (wordByte width value k).toNat = byte.toNat := by
    rw [← digit_littleEndian found, ← word, ← Nat.shiftRight_eq_div_pow]
    exact BitVec.extractLsb'_toNat ..
  rw [found, UInt8.toNat_inj.1 same]

/-! ## The cells of an item -/

namespace DataItem

variable (item : DataItem)

/-- The item lies over the address. -/
def Covers (a : Int) : Prop := item.address ≤ a ∧ a < item.endAddress

instance (a : Int) : Decidable (item.Covers a) := inferInstanceAs (Decidable (_ ∧ _))

/-- How many bytes an item takes. -/
def byteCount : Nat := item.width.size * item.values.length

/-- The address of a byte of a value, both counted from zero. -/
def addressOf (j k : Nat) : Int := item.address + (item.width.size * j + k : Nat)

theorem endAddress_eq : item.endAddress = item.address + item.byteCount := by
  simp [endAddress, byteCount]

theorem length_bytes : item.bytes.length = item.byteCount := by
  simp [bytes, byteCount, List.length_flatMap, List.map_const', Nat.mul_comm]

end DataItem

/-- In pieces of one length an element is found by the piece and its place in there. -/
theorem getElem?_flatMap_uniform {α β : Type} {f : α → List β} {n : Nat} (uniform : ∀ a, (f a).length = n)
    {k : Nat} (within : k < n) (l : List α) (j : Nat) : (l.flatMap f)[n * j + k]? = l[j]?.bind fun a => (f a)[k]? := by
  induction l generalizing j with
  | nil => simp
  | cons a rest ih =>
    rw [List.flatMap_cons, List.getElem?_append, uniform]
    cases j with
    | zero => simp [within]
    | succ j =>
      have beyond : ¬n * (j + 1) + k < n := by
        rw [Nat.mul_add]
        omega
      have before : n * (j + 1) + k - n = n * j + k := by
        rw [Nat.mul_add]
        omega
      rw [if_neg beyond, before, ih, List.getElem?_cons_succ]

theorem DataItem.getElem?_bytes {item : DataItem} {k : Nat} (within : k < item.width.size) (j : Nat) :
    item.bytes[item.width.size * j + k]? = item.values[j]?.map fun value => wordByte item.width value k := by
  rw [bytes, getElem?_flatMap_uniform (length_bytesOf _) within]
  cases item.values[j]? with
  | none => rfl
  | some value => exact getElem?_bytesOf within value

/-! ## Writing -/

namespace Memory

/-- The byte at an address, if there is one. -/
def get? (m : Memory) (a : Int) : Option UInt8 := m.lookup a

/-- As many bytes as asked for, from an address on. -/
def bytesFrom? (m : Memory) (address : Int) : Nat → Option (List UInt8)
  | 0 => some []
  | n + 1 => do
    let byte ← m.get? address
    let rest ← m.bytesFrom? (address + 1) n
    some (byte :: rest)

/-- The number in the cells from an address on, the least significant byte first. -/
def read? (m : Memory) (address : Int) (size : Nat) : Option Nat := (m.bytesFrom? address size).map littleEndian

/-- Every address stands once, in increasing order. -/
def Sorted (m : Memory) : Prop := m.Pairwise (·.1 < ·.1)

/-- Write all cells of an item. -/
def store (m : Memory) (item : DataItem) : Memory := item.cells.foldl (fun m cell => write cell.1 cell.2 m) m

theorem get?_write (address : Int) (byte : UInt8) (m : Memory) (a : Int) :
    (m.write address byte).get? a = if a = address then some byte else m.get? a := by
  induction m with
  | nil => grind [write, get?]
  | cons cell rest ih => grind [write, get?]

theorem mem_write {address : Int} {byte : UInt8} {m : Memory} {cell : Int × UInt8}
    (member : cell ∈ m.write address byte) : cell.1 = address ∨ cell ∈ m := by
  induction m with
  | nil => simp_all [write]
  | cons first rest ih =>
    obtain ⟨b, old⟩ := first
    simp only [write] at member
    split at member
    · grind
    · split at member <;> grind

theorem Sorted.write {m : Memory} (sorted : m.Sorted) (address : Int) (byte : UInt8) :
    (m.write address byte).Sorted := by
  induction m with
  | nil => simp [Sorted, Memory.write]
  | cons first rest ih =>
    obtain ⟨b, old⟩ := first
    obtain ⟨less, restSorted⟩ := List.pairwise_cons.1 sorted
    simp only [Memory.write]
    split
    · next before =>
      refine List.pairwise_cons.2 ⟨?_, sorted⟩
      intro cell member
      rcases List.mem_cons.1 member with rfl | later
      · exact before
      · exact before.trans (less cell later)
    · split
      · exact List.pairwise_cons.2 ⟨less, restSorted⟩
      · next notBefore different =>
        refine List.pairwise_cons.2 ⟨?_, ih restSorted⟩
        intro cell member
        rcases mem_write member with here | old
        · change b < cell.1
          omega
        · exact less cell old

theorem Sorted.store {m : Memory} (sorted : m.Sorted) (item : DataItem) : (m.store item).Sorted := by
  unfold Memory.store
  induction item.cells generalizing m with
  | nil => exact sorted
  | cons cell rest ih => exact ih (sorted.write cell.1 cell.2)

theorem get?_cellsFrom (address : Int) (bytes : List UInt8) (m : Memory) (a : Int) :
    Memory.get? ((cellsFrom address bytes).foldl (fun m cell => write cell.1 cell.2 m) m) a =
      if address ≤ a ∧ a < address + bytes.length then bytes[(a - address).toNat]? else m.get? a := by
  induction bytes generalizing address m with
  | nil =>
    rw [if_neg]
    · rfl
    · simp
  | cons byte rest ih =>
    rw [cellsFrom, List.foldl_cons, ih, get?_write, List.length_cons]
    push_cast
    by_cases here : a = address
    · subst here
      simp
    · by_cases later : address + 1 ≤ a ∧ a < address + 1 + rest.length
      · have behind : (a - address).toNat = (a - (address + 1)).toNat + 1 := by omega
        rw [if_pos later, if_pos (by omega), behind, List.getElem?_cons_succ]
      · rw [if_neg later, if_neg here, if_neg (by omega)]

/-- An item is seen where it lies, and everything else stays. -/
theorem get?_store (m : Memory) (item : DataItem) (a : Int) :
    (m.store item).get? a = if item.Covers a then item.bytes[(a - item.address).toNat]? else m.get? a := by
  rw [store, DataItem.cells, get?_cellsFrom, item.length_bytes]
  simp only [DataItem.Covers, item.endAddress_eq]

theorem bytesFrom?_eq_some {m : Memory} {address : Int} {bytes : List UInt8}
    (each : ∀ (k : Nat) byte, bytes[k]? = some byte → m.get? (address + k) = some byte) :
    m.bytesFrom? address bytes.length = some bytes := by
  induction bytes generalizing address with
  | nil => rfl
  | cons byte rest ih =>
    have first : m.get? address = some byte := by simpa using each 0 byte rfl
    have later : m.bytesFrom? (address + 1) rest.length = some rest := by
      apply ih
      intro k byte found
      rw [← each (k + 1) byte found]
      congr 1
      omega
    simp [bytesFrom?, first, later]

end Memory

/-! ## The image -/

open Memory (get?_store)

theorem memoryImage_concat (items : List DataItem) (item : DataItem) :
    memoryImage (items ++ [item]) = (memoryImage items).store item := by
  simp [memoryImage, Memory.store, List.flatMap_append, List.foldl_append]

theorem sorted_memoryImage (items : List DataItem) : (memoryImage items).Sorted := by
  induction items using List.reverseRecOn with
  | nil => exact List.Pairwise.nil
  | append_singleton before item ih =>
    rw [memoryImage_concat]
    exact ih.store item

theorem DataItem.Covers.exists_place {item : DataItem} {a : Int} (covers : item.Covers a) :
    ∃ j k value, a = item.addressOf j k ∧ k < item.width.size ∧
      item.values[j]? = some value := by
  obtain ⟨low, high⟩ := covers
  rw [item.endAddress_eq] at high
  have within : (a - item.address).toNat < item.width.size * item.values.length := by
    unfold byteCount at high
    omega
  have positive : 0 < item.width.size := Nat.pos_of_mul_pos_right (Nat.zero_lt_of_lt within)
  have listed : (a - item.address).toNat / item.width.size < item.values.length :=
    Nat.div_lt_of_lt_mul within
  refine ⟨(a - item.address).toNat / item.width.size, (a - item.address).toNat % item.width.size, _, ?_,
    Nat.mod_lt _ positive, List.getElem?_eq_getElem listed⟩
  rw [addressOf, Nat.div_add_mod]
  omega

theorem DataItem.covers_of_place {item : DataItem} {j k : Nat} {value : Int} (within : k < item.width.size)
    (listed : item.values[j]? = some value) : item.Covers (item.addressOf j k) := by
  have bound : j < item.values.length := (List.getElem?_eq_some_iff.1 listed).1
  have next : item.width.size * (j + 1) ≤ item.byteCount := Nat.mul_le_mul_left _ bound
  rw [Nat.mul_add] at next
  rw [Covers, addressOf, item.endAddress_eq]
  omega

theorem get?_store_of_place (m : Memory) {item : DataItem} {j k : Nat} {value : Int} (within : k < item.width.size)
    (listed : item.values[j]? = some value) :
    (m.store item).get? (item.addressOf j k) = some (wordByte item.width value k) := by
  have place : (item.addressOf j k - item.address).toNat = item.width.size * j + k := by
    unfold DataItem.addressOf
    omega
  rw [get?_store, if_pos (DataItem.covers_of_place within listed), place, DataItem.getElem?_bytes within, listed]
  rfl

/-- Later items that do not lie over an address leave it alone. -/
theorem get?_memoryImage_append {after : List DataItem} {a : Int} (untouched : ∀ later ∈ after, ¬later.Covers a)
    (before : List DataItem) : (memoryImage (before ++ after)).get? a = (memoryImage before).get? a := by
  induction after using List.reverseRecOn with
  | nil => rw [List.append_nil]
  | append_singleton after later ih =>
    rw [← List.append_assoc, memoryImage_concat, get?_store, if_neg (untouched later (by simp))]
    exact ih fun other member => untouched other (by simp [member])

theorem isSome_get?_memoryImage (items : List DataItem) (a : Int) :
    ((memoryImage items).get? a).isSome ↔ ∃ item ∈ items, item.Covers a := by
  induction items using List.reverseRecOn with
  | nil => simp [memoryImage, Memory.get?]
  | append_singleton before item ih =>
    rw [memoryImage_concat]
    by_cases covers : item.Covers a
    · obtain ⟨j, k, value, rfl, within, listed⟩ := covers.exists_place
      rw [get?_store_of_place _ within listed]
      simpa using .inr covers
    · rw [get?_store, if_neg covers, ih]
      simp [or_and_right, exists_or, covers]

theorem get?_memoryImage_of_place {before after : List DataItem} {item : DataItem} {j k : Nat} {value : Int}
    (within : k < item.width.size) (listed : item.values[j]? = some value)
    (untouched : ∀ later ∈ after, ¬later.Covers (item.addressOf j k)) :
    (memoryImage (before ++ item :: after)).get? (item.addressOf j k) =
      some (wordByte item.width value k) := by
  have split : before ++ item :: after = before ++ [item] ++ after := by simp
  rw [split, get?_memoryImage_append untouched, memoryImage_concat, get?_store_of_place _ within listed]

theorem read?_memoryImage {before after : List DataItem} {item : DataItem} {j : Nat} {value : Int}
    (listed : item.values[j]? = some value) (apart : ∀ later ∈ after, ∀ a, item.Covers a → ¬later.Covers a) :
    (memoryImage (before ++ item :: after)).read? (item.addressOf j 0) item.width.size =
      some (littleEndian (bytesOf item.width.size value)) := by
  have bytes : (memoryImage (before ++ item :: after)).bytesFrom? (item.addressOf j 0)
      (bytesOf item.width.size value).length = some (bytesOf item.width.size value) := by
    apply Memory.bytesFrom?_eq_some
    intro k byte found
    have within : k < item.width.size := by simpa using (List.getElem?_eq_some_iff.1 found).1
    have place : item.addressOf j 0 + k = item.addressOf j k := by
      unfold DataItem.addressOf
      omega
    rw [place, ← found, getElem?_bytesOf within]
    apply get?_memoryImage_of_place within listed
    intro later member
    exact apart later member _ (DataItem.covers_of_place within listed)
  rw [length_bytesOf] at bytes
  rw [Memory.read?, bytes]
  rfl

/-- The image holds each address once. There is a byte at an address exactly if an item lies over it: the byte at its
place in the word that the last such item holds there. An item that no later one overlaps is read back, each value up
to what its width cannot hold. -/
theorem memory_shows_last_cover (items : List DataItem) :
    (memoryImage items).Sorted ∧
    (∀ a, ((memoryImage items).get? a).isSome ↔ ∃ item ∈ items, item.Covers a) ∧
    (∀ before item after (a : Int), items = before ++ item :: after → item.Covers a → (∀ later ∈ after, ¬later.Covers a) →
      ∃ j k value, a = item.addressOf j k ∧ k < item.width.size ∧
        item.values[j]? = some value ∧ (memoryImage items).get? a = some (wordByte item.width value k)) ∧
    ∀ before item after, items = before ++ item :: after →
      (∀ later ∈ after, ∀ a, item.Covers a → ¬later.Covers a) →
      ∀ j value, item.values[j]? = some value →
        ((memoryImage items).read? (item.addressOf j 0) item.width.size).map Int.ofNat =
          some (value % 2 ^ (8 * item.width.size)) := by
  refine ⟨sorted_memoryImage items, isSome_get?_memoryImage items, ?_, ?_⟩
  · rintro before item after a rfl covers untouched
    obtain ⟨j, k, value, rfl, within, listed⟩ := covers.exists_place
    exact ⟨j, k, value, rfl, within, listed, get?_memoryImage_of_place within listed untouched⟩
  · rintro before item after rfl apart j value listed
    rw [read?_memoryImage listed apart, ← littleEndian_bytesOf]
    rfl

/-- A negative value hides an earlier item that lies inside of it, and the value behind it is too wide. -/
theorem memory_shows_wide_values :
    (memoryImage [⟨0x12, .byte, [7], none⟩, ⟨0x10, .double, [-2, 0x123456789], none⟩]).get? 0x12 = some 0xFF ∧
    ((memoryImage [⟨0x12, .byte, [7], none⟩, ⟨0x10, .double, [-2, 0x123456789], none⟩]).read? 0x14 4).map Int.ofNat =
      some 0x23456789 := by
  obtain ⟨-, -, shown, readBack⟩ :=
    memory_shows_last_cover [⟨0x12, .byte, [7], none⟩, ⟨0x10, .double, [-2, 0x123456789], none⟩]
  constructor
  · obtain ⟨j, k, value, place, within, listed, byte⟩ :=
      shown [_] ⟨0x10, .double, [-2, 0x123456789], none⟩ [] 0x12 rfl (by decide) (by simp)
    change (0x12 : Int) = 0x10 + (4 * j + k : Nat) at place
    change k < 4 at within
    obtain ⟨rfl, rfl⟩ : j = 0 ∧ k = 2 := by omega
    cases listed
    exact byte
  · exact readBack [_] ⟨0x10, .double, [-2, 0x123456789], none⟩ [] rfl (by simp) 1 0x123456789 rfl

end AsmCheck
