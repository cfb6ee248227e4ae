import Mathlib

/-! Byte strings as C code sees them: indexed reads, fixed-width integers in both byte
orders, and copies into fixed-size arrays.
-/

namespace SwitchLanPlay.Foundation

open List

variable {offset : Nat} {data front : Bytes}

/-- A string of octets, such as the contents of a datagram. -/
abbrev Bytes := List UInt8

/-- Octet strings of a fixed length, as a C array holds them. -/
abbrev Block (size : Nat) := { bytes : Bytes // bytes.length = size }

@[simp] theorem Block.length_val {size : Nat} (block : Block size) : block.val.length = size :=
  block.property

/-- The octet at `offset`; a position past the end reads as zero, so callers that care
about the end of a string check lengths first.
-/
def readU8 (bytes : Bytes) (offset : Nat) : Nat := (bytes.getD offset 0).toNat

def readBe16 (bytes : Bytes) (offset : Nat) : Nat :=
  readU8 bytes offset * 256 + readU8 bytes (offset + 1)

def readBe32 (bytes : Bytes) (offset : Nat) : Nat :=
  readBe16 bytes offset * 65536 + readBe16 bytes (offset + 2)

def readLe16 (bytes : Bytes) (offset : Nat) : Nat :=
  readU8 bytes offset + readU8 bytes (offset + 1) * 256

def readLe32 (bytes : Bytes) (offset : Nat) : Nat :=
  readLe16 bytes offset + readLe16 bytes (offset + 2) * 65536

@[simp] theorem readU8_cons_zero (byte : UInt8) (rest : Bytes)
    : readU8 (byte :: rest) 0 = byte.toNat := rfl

@[simp] theorem readU8_cons_succ (byte : UInt8) (rest : Bytes) (offset : Nat)
    : readU8 (byte :: rest) (offset + 1) = readU8 rest offset := rfl

/-- Reads from the end of the first part on are reads of the second. -/
theorem readU8_append_right (front rest : Bytes) (offset : Nat)
    : readU8 (front ++ rest) (front.length + offset) = readU8 rest offset := by
  simp [readU8, getElem?_append_right]

theorem readBe16_append_right (front rest : Bytes) (offset : Nat)
    : readBe16 (front ++ rest) (front.length + offset) = readBe16 rest offset := by
  simp only [readBe16, Nat.add_assoc, readU8_append_right]

theorem readBe32_append_right (front rest : Bytes) (offset : Nat)
    : readBe32 (front ++ rest) (front.length + offset) = readBe32 rest offset := by
  simp only [readBe32, Nat.add_assoc, readBe16_append_right]

theorem readLe32_append_right (front rest : Bytes) (offset : Nat)
    : readLe32 (front ++ rest) (front.length + offset) = readLe32 rest offset := by
  simp only [readLe32, readLe16, Nat.add_assoc, readU8_append_right]

theorem readU8_drop (bytes : Bytes) (start offset : Nat)
    : readU8 (bytes.drop start) offset = readU8 bytes (start + offset) := by
  simp [readU8, getD_eq_getElem?_getD]

theorem readBe16_drop (bytes : Bytes) (start offset : Nat)
    : readBe16 (bytes.drop start) offset = readBe16 bytes (start + offset) := by
  rw [readBe16, readBe16, readU8_drop, readU8_drop, Nat.add_assoc]

/-- Reads inside the first part do not see the second. -/
theorem readU8_append_left (inside : offset < front.length) (rest : Bytes)
    : readU8 (front ++ rest) offset = readU8 front offset := by
  simp [readU8, getElem?_append_left inside]

theorem readLe32_append_left (inside : offset + 4 ≤ front.length) (rest : Bytes)
    : readLe32 (front ++ rest) offset = readLe32 front offset := by
  simp only [readLe32, readLe16, readU8_append_left (show offset < front.length by omega),
    readU8_append_left (show offset + 1 < front.length by omega),
    readU8_append_left (show offset + 2 < front.length by omega),
    readU8_append_left (show offset + 2 + 1 < front.length by omega)]

def be16 (value : Nat) : Bytes := [UInt8.ofNat (value / 256), UInt8.ofNat value]

def be32 (value : Nat) : Bytes := be16 (value / 65536) ++ be16 value

def le16 (value : Nat) : Bytes := [UInt8.ofNat value, UInt8.ofNat (value / 256)]

def le32 (value : Nat) : Bytes := le16 value ++ le16 (value / 65536)

@[simp] theorem be16_length (value : Nat) : (be16 value).length = 2 := rfl

@[simp] theorem be32_length (value : Nat) : (be32 value).length = 4 := rfl

@[simp] theorem le16_length (value : Nat) : (le16 value).length = 2 := rfl

@[simp] theorem le32_length (value : Nat) : (le32 value).length = 4 := rfl

/-- Two octets written most significant first read back modulo 2^16. -/
theorem readBe16_be16_append (value : Nat) (rest : Bytes)
    : readBe16 (be16 value ++ rest) 0 = value % 65536 := by
  simp only [readBe16, be16, cons_append, readU8_cons_zero, Nat.zero_add,
    readU8_cons_succ, UInt8.toNat_ofNat']
  omega

theorem readBe32_be32_append (value : Nat) (rest : Bytes)
    : readBe32 (be32 value ++ rest) 0 = value % 4294967296 := by
  simp only [readBe32, readBe16, be32, be16, cons_append, nil_append,
    readU8_cons_zero, Nat.zero_add, readU8_cons_succ, Nat.reduceAdd, UInt8.toNat_ofNat']
  omega

/-- A field behind `offset` octets reads back. -/
theorem readBe16_field (length : front.length = offset) (value : Nat) (rest : Bytes)
    : readBe16 (front ++ (be16 value ++ rest)) offset = value % 65536 := by
  rw [← length, ← Nat.add_zero front.length, readBe16_append_right, readBe16_be16_append]

theorem readBe16_lt (bytes : Bytes) (offset : Nat) : readBe16 bytes offset < 65536 := by
  have high := (bytes.getD offset 0).toNat_lt
  have low := (bytes.getD (offset + 1) 0).toNat_lt
  unfold readBe16 readU8
  omega

/-- Two octets are written as they were read. -/
theorem drop_eq_be16_append {bytes : Bytes} (inside : offset + 2 ≤ bytes.length)
    : bytes.drop offset = be16 (readBe16 bytes offset) ++ bytes.drop (offset + 2) := by
  have octet {place : Nat} (below : place < bytes.length)
      : readU8 bytes place = bytes[place].toNat := by
    rw [readU8, getD_eq_getElem bytes 0 below]
  have pair (high low : UInt8) : be16 (high.toNat * 256 + low.toNat) = [high, low] := by
    have highBound := high.toNat_lt
    have lowBound := low.toNat_lt
    refine congrArg₂ _ (UInt8.toNat_inj.mp ?_) (congrArg₂ _ (UInt8.toNat_inj.mp ?_) rfl)
    · rw [UInt8.toNat_ofNat']
      omega
    · rw [UInt8.toNat_ofNat']
      omega
  rw [drop_eq_getElem_cons (show offset < bytes.length by omega),
    drop_eq_getElem_cons (show offset + 1 < bytes.length by omega), readBe16,
    octet (by omega), octet (by omega), pair]
  rfl

theorem readBe32_field (length : front.length = offset) (value : Nat) (rest : Bytes)
    : readBe32 (front ++ (be32 value ++ rest)) offset = value % 4294967296 := by
  rw [← length, ← Nat.add_zero front.length, readBe32_append_right, readBe32_be32_append]

theorem readLe32_le32_append (value : Nat) (rest : Bytes)
    : readLe32 (le32 value ++ rest) 0 = value % 4294967296 := by
  simp only [readLe32, readLe16, le32, le16, cons_append, nil_append,
    readU8_cons_zero, Nat.zero_add, readU8_cons_succ, Nat.reduceAdd, UInt8.toNat_ofNat']
  omega

def slice (bytes : Bytes) (offset count : Nat) : Bytes := (bytes.drop offset).take count

@[simp] theorem slice_length (bytes : Bytes) (offset count : Nat)
    : (slice bytes offset count).length = min count (bytes.length - offset) := by
  simp [slice]

def patch (bytes : Bytes) (offset : Nat) (data : Bytes) : Bytes :=
  bytes.take offset ++ data ++ bytes.drop (offset + data.length)

/-- Octets are replaced by as many others in their place. -/
theorem patch_append (front : Bytes) {old new : Bytes} (same : new.length = old.length)
    (rest : Bytes)
    : patch (front ++ (old ++ rest)) front.length new = front ++ (new ++ rest) := by
  rw [patch, take_left, same, append_assoc, ← append_assoc front, drop_append]
  simp

/-- Inside the string, the octets of the range are the new ones and all others stay. -/
theorem getD_patch {bytes : Bytes} (inside : offset + data.length ≤ bytes.length) (position : Nat)
    : (patch bytes offset data).getD position 0
      = if offset ≤ position ∧ position < offset + data.length then
          data.getD (position - offset) 0
        else bytes.getD position 0 := by
  have front : (bytes.take offset).length = offset := by
    rw [length_take]
    omega
  simp only [patch, getD_eq_getElem?_getD, append_assoc]
  by_cases before : position < offset
  · rw [if_neg (by omega), getElem?_append_left (by omega),
      getElem?_take_of_lt before]
  · rw [getElem?_append_right (by omega), front]
    by_cases within : position < offset + data.length
    · rw [if_pos (by omega), getElem?_append_left (by omega)]
    · rw [if_neg (by omega), getElem?_append_right (by omega), getElem?_drop]
      congr 2
      omega

theorem patch_length {bytes : Bytes} (inside : offset + data.length ≤ bytes.length)
    : (patch bytes offset data).length = bytes.length := by
  simp only [patch, length_append, length_take, length_drop]
  omega

/-- Reads apart from the patched range do not see it. -/
theorem readLe32_patch_apart {bytes : Bytes} {other : Nat}
    (inside : offset + data.length ≤ bytes.length)
    (apart : other + 4 ≤ offset ∨ offset + data.length ≤ other)
    : readLe32 (patch bytes offset data) other = readLe32 bytes other := by
  have octet {position : Nat} (low : other ≤ position) (high : position < other + 4)
      : readU8 (patch bytes offset data) position = readU8 bytes position := by
    rw [readU8, getD_patch inside, if_neg (by omega), readU8]
  simp only [readLe32, readLe16, octet (Nat.le_refl _) (by omega),
    octet (show other ≤ other + 1 by omega) (by omega),
    octet (show other ≤ other + 2 by omega) (by omega),
    octet (show other ≤ other + 2 + 1 by omega) (by omega)]

theorem readLe32_patch_le32 {bytes : Bytes} (inside : offset + 4 ≤ bytes.length) (value : Nat)
    : readLe32 (patch bytes offset (le32 value)) offset = value % 4294967296 := by
  have front : (bytes.take offset).length = offset := by
    rw [length_take]
    omega
  have behind := readLe32_append_right (bytes.take offset)
    (le32 value ++ bytes.drop (offset + (le32 value).length)) 0
  rw [front, Nat.add_zero, readLe32_le32_append] at behind
  rwa [patch, append_assoc]

/-- Four octets are written as they were read. -/
theorem le32_readLe32 (first second third fourth : UInt8) (rest : Bytes)
    : le32 (readLe32 (first :: second :: third :: fourth :: rest) 0)
      = [first, second, third, fourth] := by
  have byte {value : Nat} {octet : UInt8} (low : value % 256 = octet.toNat)
      : UInt8.ofNat value = octet := by
    apply UInt8.toNat_inj.mp
    rw [UInt8.toNat_ofNat', low]
  have firstBound := first.toNat_lt
  have secondBound := second.toNat_lt
  have thirdBound := third.toNat_lt
  have fourthBound := fourth.toNat_lt
  simp only [le32, le16, readLe32, readLe16, Nat.zero_add, Nat.reduceAdd, readU8_cons_zero,
    readU8_cons_succ, cons_append, nil_append, List.cons.injEq, and_true]
  exact ⟨byte (by omega), byte (by omega), byte (by omega), byte (by omega)⟩

/-- Writing back what is there changes nothing. -/
theorem patch_readLe32 {bytes : Bytes} (inside : offset + 4 ≤ bytes.length)
    : patch bytes offset (le32 (readLe32 bytes offset)) = bytes := by
  obtain ⟨front, tail, rfl, rfl⟩ : ∃ front tail, bytes = front ++ tail ∧ offset = front.length :=
    ⟨bytes.take offset, bytes.drop offset, (take_append_drop _ _).symm, by
      rw [length_take]
      omega⟩
  have behind := readLe32_append_right front tail 0
  rw [Nat.add_zero] at behind
  match tail, inside, behind with
  | first :: second :: third :: fourth :: rest, _, behind =>
    rw [behind, le32_readLe32]
    exact patch_append front (show [first, second, third, fourth].length
      = [first, second, third, fourth].length from rfl) rest
  | [], inside, _ | [_], inside, _ | [_, _], inside, _ | [_, _, _], inside, _ =>
    simp only [length_append, length_cons, length_nil] at inside
    omega

/-- `memcpy(&array[offset], data, |data|)`; octets that would fall outside are not stored. -/
def memcpy {size : Nat} (array : Fin size → UInt8) (offset : Nat) (data : Bytes)
    : Fin size → UInt8 :=
  fun index =>
    if offset ≤ index.val ∧ index.val < offset + data.length then
      data.getD (index.val - offset) 0
    else array index

/-- A copied octet is the corresponding octet of the source string. -/
theorem memcpy_inside {size : Nat} (array : Fin size → UInt8) {index : Fin size}
    (low : offset ≤ index.val) (high : index.val < offset + data.length)
    : memcpy array offset data index = data.getD (index.val - offset) 0 := if_pos ⟨low, high⟩

/-- A copy leaves every octet outside its range alone. -/
theorem memcpy_outside {size : Nat} (array : Fin size → UInt8) {index : Fin size}
    (outside : index.val < offset ∨ offset + data.length ≤ index.val)
    : memcpy array offset data index = array index := by
  unfold memcpy
  rw [if_neg]
  rintro ⟨low, high⟩
  rcases outside with before | after <;> omega

end SwitchLanPlay.Foundation
