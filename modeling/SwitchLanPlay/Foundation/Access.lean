import SwitchLanPlay.Foundation.Memory

/-! Accesses that are checked against the octets that may be accessed. A read or write outside has
no result, so a computation with checked accesses has one exactly if it stays inside.
-/

namespace SwitchLanPlay.Foundation

open List

variable {offset count : Nat} {data : Bytes}

variable {α : Type*}

variable {region : Bytes}

/-- None of the octets of a range lies outside of the first `size`. -/
def InRange (size offset count : Nat) : Prop := count = 0 ∨ offset + count ≤ size

instance (size offset count : Nat) : Decidable (InRange size offset count) :=
  inferInstanceAs (Decidable (_ ∨ _))

/-- What a reader of `count` octets finds at `offset` of a region. -/
def readAt? (reader : Bytes → Nat → α) (count : Nat) (region : Bytes) (offset : Nat)
    : Option α := if InRange region.length offset count then some (reader region offset) else none

def writeAt? {size : Nat} (array : Fin size → UInt8) (offset : Nat) (data : Bytes)
    : Option (Fin size → UInt8) :=
  if InRange size offset data.length then some (memcpy array offset data) else none

theorem InRange.of_le {size : Nat} (inside : offset + count ≤ size)
    : InRange size offset count := Or.inr inside

theorem inRange_iff {size : Nat} (positive : 0 < count)
    : InRange size offset count ↔ offset + count ≤ size := or_iff_right (Nat.ne_of_gt positive)

/-- A read inside of the region has the result of the reader. -/
theorem readAt?_of_le {reader : Bytes → Nat → α} (inside : offset + count ≤ region.length)
    : readAt? reader count region offset = some (reader region offset) := if_pos (.of_le inside)

theorem writeAt?_of_le {size : Nat} {array : Fin size → UInt8}
    (inside : offset + data.length ≤ size)
    : writeAt? array offset data = some (memcpy array offset data) := if_pos (.of_le inside)

theorem writeAt?_eq_none {size : Nat} {array : Fin size → UInt8} (positive : 0 < data.length)
    (outside : size < offset + data.length)
    : writeAt? array offset data = none :=
  if_neg (fun inside => absurd ((inRange_iff positive).mp inside) (Nat.not_le.mpr outside))

theorem readAt?_eq_none {reader : Bytes → Nat → α} (positive : 0 < count)
    (outside : region.length < offset + count)
    : readAt? reader count region offset = none :=
  if_neg (fun inside => absurd ((inRange_iff positive).mp inside) (Nat.not_le.mpr outside))

-- Readers

/-- The reader looks at no other octets than the `count` at its offset. -/
def ReadsOnly (reader : Bytes → Nat → α) (count : Nat) : Prop :=
  ∀ {left right : Bytes} {leftOffset rightOffset : Nat},
    (∀ position < count,
      left.getD (leftOffset + position) 0 = right.getD (rightOffset + position) 0)
    → reader left leftOffset = reader right rightOffset

theorem readU8_readsOnly : ReadsOnly readU8 1 := by
  intro left right leftOffset rightOffset same
  rw [readU8, readU8]
  exact congrArg UInt8.toNat (same 0 Nat.zero_lt_one)

theorem readBe16_readsOnly : ReadsOnly readBe16 2 := by
  intro left right leftOffset rightOffset same
  rw [readBe16, readBe16, readU8, readU8, readU8, readU8]
  have first := same 0 (by omega)
  rw [Nat.add_zero, Nat.add_zero] at first
  rw [first, same 1 (by omega)]

def readSlice? (count : Nat) (region : Bytes) (offset : Nat) : Option Bytes :=
  readAt? (fun region offset => slice region offset count) count region offset

theorem readSlice?_of_le (inside : offset + count ≤ region.length)
    : readSlice? count region offset = some (slice region offset count) := readAt?_of_le inside

theorem readSlice?_whole (region : Bytes) : readSlice? region.length region 0 = some region := by
  rw [readSlice?_of_le (Nat.zero_add _).le, slice, drop_zero, take_length]

theorem readSlice?_eq (memory : Memory) {offset count len : Nat} (inside : offset + count ≤ len)
    : readSlice? count (memory.read len) offset = some ((memory.shift offset).read count) := by
  have octets : slice (memory.read len) offset count = (memory.shift offset).read count := by
    apply ext_getElem
    · rw [slice_length, memory.read_length, Memory.read_length]
      omega
    · intro position _ _
      simp [slice, Memory.read, Memory.shift]
  rw [readSlice?_of_le (by rwa [memory.read_length]), octets]

/-- What is read inside of a region is what is read at that address of the memory. -/
theorem ReadsOnly.readAt?_shift {reader : Bytes → Nat → α} {count : Nat}
    (only : ReadsOnly reader count) (memory : Memory) {start size offset len : Nat}
    (within : offset + count ≤ size) (inside : start + offset + count ≤ len)
    : readAt? reader count (memory.read len) (start + offset)
      = some (reader ((memory.shift start).read size) offset) := by
  rw [readAt?_of_le (by rwa [memory.read_length])]
  congr 1
  apply only
  intro position below
  rw [Memory.getD_read _ (by omega), Memory.getD_read _ (by omega), Memory.shift, Nat.add_assoc]

-- Arrays that are filled

def Memory.toArray (memory : Memory) (size : Nat) : Fin size → UInt8 := fun index => memory index

def writeFields? {size : Nat} (array : Fin size → UInt8)
    : List (Nat × Bytes) → Option (Fin size → UInt8)
  | [] => some array
  | (offset, data) :: rest => (writeAt? array offset data).bind (writeFields? · rest)

def layOut (offset : Nat) : List Bytes → List (Nat × Bytes)
  | [] => []
  | part :: rest => (offset, part) :: layOut (offset + part.length) rest

/-- A copy into an array is a copy into the octets of it. -/
theorem ofFn_memcpy {size : Nat} (array : Fin size → UInt8) (inside : offset + data.length ≤ size)
    : ofFn (memcpy array offset data) = patch (ofFn array) offset data := by
  have fits : offset + data.length ≤ (ofFn array).length := by rwa [length_ofFn]
  have length : (patch (ofFn array) offset data).length = size := by
    rw [patch_length fits, length_ofFn]
  apply ext_getElem
  · rw [length_ofFn, length]
  · intro position low high
    rw [length_ofFn] at low
    have octet := getD_patch fits position
    rw [getD_eq_getElem _ _ high] at octet
    rw [octet, List.getElem_ofFn, memcpy]
    split
    · rfl
    · rw [getD_eq_getElem _ _ (by rwa [length_ofFn]), List.getElem_ofFn]

/-- The octets up to the end of a copy are those in front of it and those copied. -/
theorem take_ofFn_memcpy {size : Nat} (array : Fin size → UInt8)
    (inside : offset + data.length ≤ size)
    : (ofFn (memcpy array offset data)).take (offset + data.length)
      = (ofFn array).take offset ++ data := by
  have front : ((ofFn array).take offset ++ data).length = offset + data.length := by
    rw [length_append, length_take, length_ofFn]
    omega
  rw [ofFn_memcpy array inside, patch, ← front]
  exact take_left

theorem memcpy_memcpy {size : Nat} (array : Fin size → UInt8) (offset : Nat) (first second : Bytes)
    : memcpy (memcpy array offset first) (offset + first.length) second
      = memcpy array offset (first ++ second) := by
  funext index
  simp only [memcpy, length_append]
  by_cases before : index.val < offset
  · rw [if_neg (by omega), if_neg (by omega), if_neg (by omega)]
  by_cases inFirst : index.val < offset + first.length
  · rw [if_neg (by omega), if_pos (by omega), if_pos (by omega),
      getD_append _ _ _ _ (by omega)]
  by_cases inSecond : index.val < offset + first.length + second.length
  · rw [if_pos (by omega), if_pos (by omega), getD_append_right _ _ _ _ (by omega)]
    congr 1
    omega
  · rw [if_neg (by omega), if_neg (by omega), if_neg (by omega)]

/-- Fields one behind the other that end inside of the array are all written. -/
theorem writeFields?_layOut {size : Nat} (array : Fin size → UInt8) {parts : List Bytes}
    (inside : offset + parts.flatten.length ≤ size)
    : writeFields? array (layOut offset parts) = some (memcpy array offset parts.flatten) := by
  induction parts generalizing array offset with
  | nil =>
    have unchanged : memcpy array offset [] = array := by
      funext index
      exact memcpy_outside array (by rw [length_nil]; omega)
    rw [flatten_nil, unchanged]
    rfl
  | cons part rest ih =>
    rw [flatten_cons, length_append] at inside
    rw [layOut, writeFields?, writeAt?_of_le (by omega), Option.bind_some, ih _ (by omega),
      memcpy_memcpy, flatten_cons]

/-- Fields that fill the whole array are what it then holds. -/
theorem writeFields?_whole {size : Nat} (array : Fin size → UInt8) {parts : List Bytes}
    (whole : parts.flatten.length = size)
    : ∃ filled,
        writeFields? array (layOut 0 parts) = some filled ∧ ofFn filled = parts.flatten := by
  have inside : 0 + parts.flatten.length ≤ size := by omega
  refine ⟨_, writeFields?_layOut array inside, ?_⟩
  have octets := take_ofFn_memcpy array inside
  rwa [take_of_length_le (by rw [length_ofFn]; omega), take_zero,
    nil_append] at octets

end SwitchLanPlay.Foundation
