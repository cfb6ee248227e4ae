import SwitchLanPlay.Foundation.Bytes

/-! The one's-complement sum of octets, as Internet protocols use it: the words of sixteen bits are
added with the carry brought back in. Such a sum is a residue modulo 65535, with two zeros.
-/

namespace SwitchLanPlay.Foundation

open List

/-- The big-endian words of some octets; an odd number of octets is padded with a zero. -/
def words : Bytes → List Nat
  | high :: low :: rest => (high.toNat * 256 + low.toNat) :: words rest
  | [last] => [last.toNat * 256]
  | [] => []

def wordSum (octets : Bytes) : Nat := (words octets).sum

def onesAdd (left right : Nat) : Nat := (left + right) % 65536 + (left + right) / 65536

def onesSum (octets : Bytes) : Nat := (words octets).foldl onesAdd 0

def internetChecksum (octets : Bytes) : Nat := 0xffff - onesSum octets

/-- A sum with all of its carries brought back in; only zero becomes zero. -/
def carried (sum : Nat) : Nat := if sum = 0 then 0 else (sum - 1) % 65535 + 1

theorem carried_le (sum : Nat) : carried sum ≤ 0xffff := by
  unfold carried
  split <;> omega

theorem carried_eq_zero_iff {sum : Nat} : carried sum = 0 ↔ sum = 0 := by
  unfold carried
  split <;> omega

/-- Bringing carries back in keeps the residue. -/
theorem carried_mod (sum : Nat) : carried sum % 65535 = sum % 65535 := by
  unfold carried
  split <;> omega

theorem carried_eq_ones_iff {sum : Nat} : carried sum = 0xffff ↔ 0 < sum ∧ sum % 65535 = 0 := by
  unfold carried
  split <;> omega

theorem onesAdd_carried {sum word : Nat} (small : word ≤ 0xffff)
    : onesAdd (carried sum) word = carried (sum + word) := by
  unfold onesAdd carried
  split <;> split <;> omega

@[simp] theorem wordSum_nil : wordSum [] = 0 := rfl

theorem wordSum_cons_cons (high low : UInt8) (rest : Bytes)
    : wordSum (high :: low :: rest) = high.toNat * 256 + low.toNat + wordSum rest := sum_cons

theorem wordSum_singleton (last : UInt8) : wordSum [last] = last.toNat * 256 := by
  simp [wordSum, words]

/-- The one's-complement sum is the sum with its carries brought back in. Witness: along the words,
from any sum before them.
-/
theorem foldl_onesAdd (sum : Nat) (octets : Bytes)
    : (words octets).foldl onesAdd (carried sum) = carried (sum + wordSum octets) := by
  fun_induction words octets generalizing sum with
  | case1 high low rest ih =>
    have first := high.toNat_lt
    have second := low.toNat_lt
    rw [foldl_cons, onesAdd_carried (by omega), ih, wordSum_cons_cons, Nat.add_assoc]
  | case2 last =>
    have bound := last.toNat_lt
    rw [foldl_cons, onesAdd_carried (by omega), wordSum_singleton]
    rfl
  | case3 => rfl

theorem onesSum_eq (octets : Bytes) : onesSum octets = carried (wordSum octets) := by
  have whole := foldl_onesAdd 0 octets
  rwa [Nat.zero_add] at whole

/-- Words do not reach over the end of an even number of octets. -/
theorem wordSum_append {front : Bytes} (even : front.length % 2 = 0) (rest : Bytes)
    : wordSum (front ++ rest) = wordSum front + wordSum rest := by
  fun_induction words front with
  | case1 high low front ih =>
    rw [length_cons, length_cons] at even
    rw [cons_append, cons_append, wordSum_cons_cons, wordSum_cons_cons, ih (by omega)]
    omega
  | case2 last => simp at even
  | case3 => simp

theorem wordSum_be16_append {value : Nat} (small : value < 65536) (rest : Bytes)
    : wordSum (be16 value ++ rest) = value + wordSum rest := by
  rw [be16, cons_append, cons_append, wordSum_cons_cons, nil_append,
    UInt8.toNat_ofNat', UInt8.toNat_ofNat']
  omega

theorem wordSum_le (octets : Bytes) : wordSum octets ≤ 0xffff * ((octets.length + 1) / 2) := by
  fun_induction words octets with
  | case1 high low rest ih =>
    have first := high.toNat_lt
    have second := low.toNat_lt
    rw [wordSum_cons_cons, length_cons, length_cons]
    omega
  | case2 last =>
    have bound := last.toNat_lt
    rw [wordSum_singleton]
    simp only [length_singleton]
    omega
  | case3 => simp

/-- A field of two octets that holds the complement of a number with its carries brought back in:
the sum is all ones exactly if the number is what the other octets add up to.
-/
theorem onesSum_field_iff {front : Bytes} (even : front.length % 2 = 0) (rest : Bytes)
    {number : Nat} (positive : number = 0 ∨ 0 < wordSum front + wordSum rest)
    : onesSum (front ++ (be16 (0xffff - carried number) ++ rest)) = 0xffff
      ↔ (wordSum front + wordSum rest) % 65535 = number % 65535 := by
  have bound := carried_le number
  have residue := carried_mod number
  have zero := @carried_eq_zero_iff number
  rw [onesSum_eq, wordSum_append even, wordSum_be16_append (by omega), carried_eq_ones_iff]
  omega

/-- The checksum of octets with a cleared field, entered in the field, makes the sum all ones. -/
theorem onesSum_internetChecksum {front : Bytes} (even : front.length % 2 = 0) (rest : Bytes)
    : onesSum (front ++ (be16 (internetChecksum (front ++ ([0, 0] ++ rest))) ++ rest))
      = 0xffff := by
  have cleared : wordSum (front ++ ([0, 0] ++ rest)) = wordSum front + wordSum rest := by
    rw [wordSum_append even]
    exact congrArg _ (Nat.zero_add _)
  rw [internetChecksum, onesSum_eq (front ++ ([0, 0] ++ rest)), cleared, onesSum_field_iff even]
  omega

end SwitchLanPlay.Foundation
