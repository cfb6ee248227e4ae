import SwitchLanPlay.Foundation.Bytes

/-! Memory behind a C pointer. A buffer that is only partly overwritten keeps its old octets,
and a read past its end finds whatever lies there, so both are part of the memory.
-/

namespace SwitchLanPlay.Foundation

open List

variable {offset len position : Nat}

/-- The octets at every offset from a pointer. -/
abbrev Memory := Nat → UInt8

namespace Memory

def read (memory : Memory) (len : Nat) : Bytes := (range len).map memory

def shift (memory : Memory) (offset : Nat) : Memory := fun position => memory (offset + position)

def write (memory : Memory) (offset : Nat) (bytes : Bytes) : Memory :=
  fun position =>
    if offset ≤ position then bytes.getD (position - offset) (memory position)
    else memory position

def followedBy (buffer : Memory) (size : Nat) (beyond : Memory) : Memory :=
  fun position => if position < size then buffer position else beyond (position - size)

def ofArray {size : Nat} (array : Fin size → UInt8) : Memory :=
  fun position => if inside : position < size then array ⟨position, inside⟩ else 0

def loadLe32 (memory : Memory) (offset : Nat) : Nat :=
  (memory offset).toNat + (memory (offset + 1)).toNat * 256
    + ((memory (offset + 2)).toNat + (memory (offset + 2 + 1)).toNat * 256) * 65536

variable (memory : Memory)

@[simp] theorem read_length (len : Nat) : (memory.read len).length = len := by
  simp [Memory.read]

theorem getD_read (inside : position < len)
    : (memory.read len).getD position 0 = memory position := by
  simp [Memory.read, inside]

/-- What is read is some bytes when there are as many and each octet is theirs. -/
theorem read_eq_iff (len : Nat) (bytes : Bytes)
    : memory.read len = bytes
      ↔ bytes.length = len ∧ ∀ position < len, memory position = bytes.getD position 0 := by
  constructor
  · rintro rfl
    refine ⟨memory.read_length len, ?_⟩
    intro position inside
    exact (memory.getD_read inside).symm
  · rintro ⟨rfl, octets⟩
    apply ext_getElem (memory.read_length _)
    intro position _ inside
    simp [Memory.read, octets position inside, inside]

theorem read_ofArray {size : Nat} (array : Fin size → UInt8)
    : (Memory.ofArray array).read size = ofFn array := by
  rw [read_eq_iff]
  refine ⟨length_ofFn, fun position inside => ?_⟩
  simp [ofArray, inside]

theorem shift_zero (memory : Memory) : memory.shift 0 = memory := by
  funext position
  rw [shift, Nat.zero_add]

theorem shift_shift (first second : Nat)
    : (memory.shift first).shift second = memory.shift (first + second) := by
  funext position
  simp only [shift, Nat.add_assoc]

/-- What was copied to the start is read back from any position in it. -/
theorem read_write_drop (bytes : Bytes) (skipped : Nat)
    : ((memory.write 0 bytes).shift skipped).read (bytes.length - skipped)
      = bytes.drop skipped := by
  apply ext_getElem
  · simp
  · intro position inside _
    rw [read_length] at inside
    have within : skipped + position < bytes.length := by omega
    simp [Memory.read, shift, Memory.write, within]

/-- What was copied to the start does not reach the octets behind it. -/
theorem shift_write (bytes : Bytes)
    : (memory.write 0 bytes).shift bytes.length = memory.shift bytes.length := by
  funext position
  simp [shift, Memory.write]

/-- Copied octets stand where they were copied to. -/
theorem write_inside {bytes : Bytes} (low : offset ≤ position)
    (high : position < offset + bytes.length)
    : memory.write offset bytes position = bytes.getD (position - offset) 0 := by
  have inside : position - offset < bytes.length := by omega
  simp [Memory.write, low, inside]

/-- A copy leaves every octet outside its range alone. -/
theorem write_outside {bytes : Bytes}
    (outside : position < offset ∨ offset + bytes.length ≤ position)
    : memory.write offset bytes position = memory position := by
  unfold Memory.write
  split
  · rw [getD_eq_default]
    omega
  · rfl

/-- Writing back what is there changes nothing. -/
theorem write_read (len : Nat) : memory.write 0 (memory.read len) = memory := by
  funext position
  by_cases inside : position < len
  · rw [memory.write_inside (Nat.zero_le position) (by simpa using inside), Nat.sub_zero,
      memory.getD_read inside]
  · exact memory.write_outside (.inr (by simpa using inside))

/-- A copy inside octets that were copied before. -/
theorem write_write {bytes data : Bytes} (inside : offset + data.length ≤ bytes.length)
    : (memory.write 0 bytes).write offset data = memory.write 0 (patch bytes offset data) := by
  have length := patch_length inside
  funext position
  by_cases beyond : bytes.length ≤ position
  · rw [write_outside _ (.inr (by omega)), write_outside _ (.inr (by omega)),
      write_outside _ (.inr (by omega))]
  · rw [memory.write_inside (Nat.zero_le position) (by omega), Nat.sub_zero, getD_patch inside]
    split
    · rename_i within
      exact write_inside _ within.1 within.2
    · rename_i apart
      rw [write_outside _ (by omega), memory.write_inside (Nat.zero_le position) (by omega),
        Nat.sub_zero]

/-- Reads of copied octets. -/
theorem read_write {bytes : Bytes} (inside : len ≤ bytes.length)
    : (memory.write 0 bytes).read len = bytes.take len := by
  rw [read_eq_iff]
  refine ⟨length_take_of_le inside, fun position below => ?_⟩
  rw [memory.write_inside (Nat.zero_le position) (by omega), Nat.sub_zero]
  simp [below]

theorem read_write_append (front rest : Bytes)
    : (memory.write 0 (front ++ rest)).read front.length = front := by
  rw [memory.read_write (by simp), take_left]

theorem shift_write_append (front rest : Bytes)
    : (memory.write 0 (front ++ rest)).shift front.length
      = (memory.shift front.length).write 0 rest := by
  funext position
  simp [shift, Memory.write, getElem?_append_right]

theorem loadLe32_write (memory : Memory) {bytes : Bytes} {offset : Nat}
    (inside : offset + 4 ≤ bytes.length)
    : (memory.write 0 bytes).loadLe32 offset = readLe32 bytes offset := by
  have octet {position : Nat} (below : position < offset + 4)
      : ((memory.write 0 bytes) position).toNat = readU8 bytes position := by
    rw [memory.write_inside (Nat.zero_le position) (by omega), Nat.sub_zero, readU8]
  rw [loadLe32, octet (by omega), octet (by omega), octet (by omega), octet (by omega)]
  rfl

theorem loadLe32_eq (inside : offset + 4 ≤ len)
    : memory.loadLe32 offset = readLe32 (memory.read len) offset := by
  have written := @loadLe32_write memory (memory.read len) offset (by simpa using inside)
  rwa [memory.write_read] at written

/-- Reads that end inside the buffer do not see what follows it. -/
theorem read_followedBy (buffer beyond : Memory) {size : Nat} (inside : offset + len ≤ size)
    : ((buffer.followedBy size beyond).shift offset).read len
      = (buffer.shift offset).read len := by
  apply map_congr_left
  intro position member
  have below := mem_range.mp member
  exact if_pos (by omega)

end Memory

end SwitchLanPlay.Foundation
