import SwitchLanPlay.Foundation.Bytes

/-! Layouts of C records without padding: types whose values are exactly the octet strings of
one size, put together field by field.
-/

namespace SwitchLanPlay.Foundation

variable {α β : Type}

/-- The values of `α` are the octet strings of length `size`. -/
abbrev Layout (α : Type) (size : Nat) := α ≃ Block size

namespace Layout

def pair {first second : Nat} (left : Layout α first) (right : Layout β second)
    : Layout (α × β) (first + second) where
  toFun value := ⟨left value.1 ++ right value.2, by simp⟩
  invFun block :=
    (left.symm ⟨block.val.take first, by simp⟩, right.symm ⟨block.val.drop first, by simp⟩)
  left_inv value := by simp
  right_inv block := by simp

@[simp] theorem pair_val {first second : Nat} (left : Layout α first)
    (right : Layout β second) (value : α × β)
    : (left.pair right value).val = (left value.1).val ++ (right value.2).val := rfl

def record {size total : Nat} (fields : α ≃ β) (layout : Layout β size)
    (same : size = total)
    : Layout α total where
  toFun value :=
    ⟨(layout (fields value)).val, by rw [← same]; exact (layout (fields value)).property⟩
  invFun block := fields.symm (layout.symm ⟨block.val, by rw [same]; exact block.property⟩)
  left_inv value := by simp
  right_inv block := by simp

@[simp] theorem record_val {size total : Nat} (fields : α ≃ β) (layout : Layout β size)
    (same : size = total) (value : α)
    : (Layout.record fields layout same value).val = (layout (fields value)).val := rfl

def octets (size : Nat) : Layout (Block size) size := Equiv.refl _

@[simp] theorem octets_val {size : Nat} (block : Block size)
    : (Layout.octets size block).val = block.val := rfl

def u8 : Layout UInt8 1 where
  toFun value := ⟨[value], rfl⟩
  invFun block := block.val.headD 0
  left_inv _ := rfl
  right_inv block := by
    obtain ⟨octet, single⟩ := List.length_eq_one_iff.mp block.property
    exact Subtype.ext (by simp [single])

@[simp] theorem u8_val (value : UInt8) : (Layout.u8 value).val = [value] := rfl

end Layout

theorem ofNat_readLe16_le16 (value : UInt16)
    : UInt16.ofNat (readLe16 (le16 value.toNat) 0) = value := by
  have small := value.toNat_lt
  apply UInt16.toNat_inj.mp
  simp only [readLe16, le16, readU8_cons_zero, readU8_cons_succ, UInt8.toNat_ofNat',
    UInt16.toNat_ofNat']
  omega

theorem le16_ofNat_readLe16 (block : Block 2)
    : le16 (UInt16.ofNat (readLe16 block.val 0)).toNat = block.val := by
  obtain ⟨low, high, pair⟩ := List.length_eq_two.mp block.property
  have lowBound := low.toNat_lt
  have highBound := high.toNat_lt
  simp only [pair, readLe16, le16, readU8_cons_zero, readU8_cons_succ, UInt16.toNat_ofNat',
    List.cons.injEq, and_true]
  constructor
  all_goals
    apply UInt8.toNat_inj.mp
    rw [UInt8.toNat_ofNat']
    omega

def Layout.u16 : Layout UInt16 2 where
  toFun value := ⟨le16 value.toNat, le16_length _⟩
  invFun block := UInt16.ofNat (readLe16 block.val 0)
  left_inv := ofNat_readLe16_le16
  right_inv block := Subtype.ext (le16_ofNat_readLe16 block)

@[simp] theorem Layout.u16_val (value : UInt16) : (Layout.u16 value).val = le16 value.toNat := rfl

theorem ofNat_readLe32_le32 (value : UInt32)
    : UInt32.ofNat (readLe32 (le32 value.toNat) 0) = value := by
  have small := value.toNat_lt
  have read := readLe32_le32_append value.toNat []
  rw [List.append_nil] at read
  apply UInt32.toNat_inj.mp
  simp only [read, UInt32.toNat_ofNat']
  omega

theorem le32_ofNat_readLe32 (block : Block 4)
    : le32 (UInt32.ofNat (readLe32 block.val 0)).toNat = block.val := by
  obtain ⟨first, second, third, fourth, octets⟩ := List.length_eq_four.mp block.property
  have firstBound := first.toNat_lt
  have secondBound := second.toNat_lt
  have thirdBound := third.toNat_lt
  have fourthBound := fourth.toNat_lt
  simp only [octets, readLe32, readLe16, le32, le16, readU8_cons_zero, readU8_cons_succ,
    UInt32.toNat_ofNat', List.cons_append, List.nil_append, List.cons.injEq, and_true]
  refine ⟨?_, ?_, ?_, ?_⟩
  all_goals
    apply UInt8.toNat_inj.mp
    rw [UInt8.toNat_ofNat']
    omega

def Layout.u32 : Layout UInt32 4 where
  toFun value := ⟨le32 value.toNat, le32_length _⟩
  invFun block := UInt32.ofNat (readLe32 block.val 0)
  left_inv := ofNat_readLe32_le32
  right_inv block := Subtype.ext (le32_ofNat_readLe32 block)

@[simp] theorem Layout.u32_val (value : UInt32) : (Layout.u32 value).val = le32 value.toNat := rfl

def repeated (size : Nat) : Nat → Nat
  | 0 => 0
  | count + 1 => size + repeated size count

def consEquiv (α : Type) (count : Nat)
    : { items : List α // items.length = count + 1 }
      ≃ α × { items : List α // items.length = count } where
  toFun
    | ⟨item :: items, length⟩ => (item, ⟨items, Nat.succ.inj length⟩)
  invFun pair := ⟨pair.1 :: pair.2.val, by rw [List.length_cons, pair.2.property]⟩
  left_inv
    | ⟨_ :: _, _⟩ => rfl
  right_inv _ := rfl

def Layout.array {size : Nat} (element : Layout α size)
    : (count : Nat) → Layout { items : List α // items.length = count } (repeated size count)
  | 0 =>
    {
      toFun := fun _ => ⟨[], rfl⟩
      invFun := fun _ => ⟨[], rfl⟩
      left_inv := fun items => Subtype.ext (List.length_eq_zero_iff.mp items.property).symm
      right_inv := fun block => Subtype.ext (List.length_eq_zero_iff.mp block.property).symm
    }
  | count + 1 => (consEquiv α count).trans (element.pair (element.array count))

/-- The octets of an array are those of its elements in order. -/
theorem Layout.array_val {size : Nat} (element : Layout α size) {count : Nat}
    (items : { items : List α // items.length = count })
    : (element.array count items).val = items.val.flatMap (fun item => (element item).val) := by
  induction count with
  | zero =>
    obtain ⟨items, length⟩ := items
    rw [List.length_eq_zero_iff] at length
    subst length
    rfl
  | succ count ih =>
    obtain ⟨_ | ⟨item, items⟩, length⟩ := items
    · cases length
    · exact congrArg ((element item).val ++ ·) (ih ⟨items, Nat.succ.inj length⟩)

def Layout.read? {size : Nat} (layout : Layout α size) (octets : Bytes) : Option α :=
  if exact : octets.length = size then some (layout.symm ⟨octets, exact⟩) else none

/-- Exactly the octets of a value are read as it. -/
theorem Layout.read?_eq_some {size : Nat} (layout : Layout α size) {octets : Bytes} {value : α}
    : layout.read? octets = some value ↔ (layout value).val = octets := by
  unfold read?
  split
  · rename_i exact
    rw [Option.some_inj, Equiv.symm_apply_eq, Subtype.ext_iff, eq_comm]
  · rename_i wrong
    refine iff_of_false (Option.some_ne_none value).symm ?_
    rintro rfl
    exact wrong (layout value).property

end SwitchLanPlay.Foundation
