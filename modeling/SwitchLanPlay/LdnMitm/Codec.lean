import SwitchLanPlay.Foundation.Bytes

/-! The zero-run codec of `LanSocket`: both loops as they run on a bounded output buffer,
and the expansion of zero runs that they agree on.
-/

namespace SwitchLanPlay.LdnMitm

open List Option
open Foundation

variable {capacity : Nat} {out : Bytes}

/-- The inner loop of `compress`: count the zeros in front, at most `0xFF` of them. -/
def countZeros : Nat → Bytes → Nat × Bytes
  | count, 0 :: rest => if count < 0xFF then countZeros (count + 1) rest else (count, 0 :: rest)
  | count, input => (count, input)

/-- The outer loop of `compress` into a buffer of `capacity` octets. It ends without
success when input is left over for a full buffer.
-/
def compressLoop (capacity : Nat) : Nat → Bytes → Bytes → Option Bytes
  | _, [], out => some out
  | 0, _ :: _, _ => none
  | fuel + 1, c :: rest, out =>
    if capacity ≤ out.length then none
    else if c = 0 then
      if (out ++ [0]).length = capacity then none
      else
        compressLoop capacity fuel (countZeros 0 rest).2
          (out ++ [0, UInt8.ofNat (countZeros 0 rest).1])
    else compressLoop capacity fuel rest (out ++ [c])

def compress (input : Bytes) (outputSize : Nat) : Option Bytes :=
  compressLoop outputSize input.length input []

/-- The loop of `decompress` into a buffer of `capacity` octets. The copy of a run stops at
the end of the buffer.
-/
def decompressLoop (capacity : Nat) : Bytes → Bytes → Option Bytes
  | [], out => some out
  | c :: rest, out =>
    if capacity ≤ out.length then none
    else if c = 0 then
      match rest with
      | [] => none
      | count :: rest =>
        decompressLoop capacity rest
          (out ++ [0]
            ++ replicate (min count.toNat (capacity - (out.length + 1))) 0)
    else decompressLoop capacity rest (out ++ [c])

def decompress (input : Bytes) (outputSize : Nat) : Option Bytes :=
  decompressLoop outputSize input []

/-- What an encoding stands for: a zero and a count are a run of count and one zeros, any
other octet is itself.
-/
def expand : Bytes → Option Bytes
  | [] => some []
  | c :: rest =>
    if c = 0 then
      match rest with
      | [] => none
      | count :: rest => (expand rest).map (replicate (count.toNat + 1) 0 ++ ·)
    else (expand rest).map (c :: ·)

theorem expand_run (count : UInt8) (rest : Bytes)
    : expand (0 :: count :: rest)
      = (expand rest).map (replicate (count.toNat + 1) 0 ++ ·) := by
  rw [expand.eq_def]
  rfl

theorem expand_other {c : UInt8} (other : c ≠ 0) (rest : Bytes)
    : expand (c :: rest) = (expand rest).map (c :: ·) := by
  rw [expand.eq_def]
  exact if_neg other

theorem decompressLoop_run (count : UInt8) (rest : Bytes) (space : out.length < capacity)
    : decompressLoop capacity (0 :: count :: rest) out
      = decompressLoop capacity rest
          (out ++ [0] ++ replicate (min count.toNat (capacity - (out.length + 1))) 0) := by
  rw [decompressLoop.eq_def]
  exact (if_neg (Nat.not_le_of_lt space)).trans rfl

theorem decompressLoop_other {c : UInt8} (other : c ≠ 0) (rest : Bytes)
    (space : out.length < capacity)
    : decompressLoop capacity (c :: rest) out
      = decompressLoop capacity rest (out ++ [c]) := by
  rw [decompressLoop.eq_def]
  exact (if_neg (Nat.not_le_of_lt space)).trans (if_neg other)

/-- The counted zeros are those in front of what is left, and they fit an octet. -/
theorem countZeros_spec (count : Nat) (input : Bytes) (bounded : count ≤ 0xFF)
    : ∃ more,
        (countZeros count input).1 = count + more
        ∧ count + more ≤ 0xFF
        ∧ input = replicate more 0 ++ (countZeros count input).2 := by
  induction input generalizing count with
  | nil => exact ⟨0, rfl, bounded, rfl⟩
  | cons c rest ih =>
    by_cases zero : c = 0
    · subst zero
      by_cases below : count < 0xFF
      · obtain ⟨more, counted, fits, split⟩ := ih (count + 1) below
        refine ⟨more + 1, ?_, by omega, ?_⟩
        · simp only [countZeros, if_pos below, counted]
          omega
        · simp only [countZeros, if_pos below, replicate_succ, cons_append]
          exact congrArg (0 :: ·) split
      · exact ⟨0, by simp [countZeros, below], bounded, by simp [countZeros, below]⟩
    · exact ⟨0, by simp [countZeros, zero], bounded, by simp [countZeros, zero]⟩

/-- What `compress` adds to the output expands to the input, within the buffer.
Witness: by induction on the rounds of the outer loop.
-/
theorem compressLoop_spec {fuel : Nat} {input result : Bytes} (inside : out.length ≤ capacity)
    (done : compressLoop capacity fuel input out = some result)
    : result.length ≤ capacity
      ∧ ∃ encoded, result = out ++ encoded ∧ expand encoded = some input := by
  induction fuel generalizing input out with
  | zero =>
    cases input with
    | nil =>
      cases done
      exact ⟨inside, [], by simp, rfl⟩
    | cons c rest => cases done
  | succ fuel ih =>
    cases input with
    | nil =>
      cases done
      exact ⟨inside, [], by simp, rfl⟩
    | cons c rest =>
      simp only [compressLoop] at done
      split at done
      · cases done
      · rename_i space
        split at done
        · rename_i zero
          subst zero
          split at done
          · cases done
          · rename_i room
            obtain ⟨more, counted, fits, split⟩ := countZeros_spec 0 rest (by decide)
            have longer : (out ++ [0, UInt8.ofNat (countZeros 0 rest).1]).length
                ≤ capacity := by
              simp only [length_append, length_cons, length_nil] at room ⊢
              omega
            obtain ⟨bound, encoded, extends_, expands⟩ := ih longer done
            refine ⟨bound, 0 :: UInt8.ofNat (countZeros 0 rest).1 :: encoded,
              by simp [extends_], ?_⟩
            have octet : (UInt8.ofNat (countZeros 0 rest).1).toNat = more := by
              rw [counted, Nat.zero_add]
              have small : more < 256 := by omega
              exact UInt8.toNat_ofNat_of_lt small
            rw [expand_run, octet, expands, map_some, replicate_succ,
              cons_append, ← split]
        · rename_i other
          have longer : (out ++ [c]).length ≤ capacity := by
            simp only [length_append, length_singleton]
            omega
          obtain ⟨bound, encoded, extends_, expands⟩ := ih longer done
          refine ⟨bound, c :: encoded, by simp [extends_], ?_⟩
          rw [expand_other other, expands, map_some]

/-- A successful `compress` fits its buffer and expands to its input. -/
theorem compress_spec {input output : Bytes} {outputSize : Nat}
    (done : compress input outputSize = some output)
    : output.length ≤ outputSize ∧ expand output = some input := by
  obtain ⟨bound, encoded, same, expands⟩ := compressLoop_spec (Nat.zero_le _) done
  rw [nil_append] at same
  exact ⟨bound, same ▸ expands⟩

/-- `decompress` goes through an encoding whose expansion fits its buffer. -/
theorem decompressLoop_append (front rest : Bytes) {data : Bytes}
    (expands : expand front = some data) (fits : out.length + data.length ≤ capacity)
    : decompressLoop capacity (front ++ rest) out = decompressLoop capacity rest (out ++ data) := by
  fun_induction expand front generalizing data out with
  | case1 =>
    cases expands
    simp
  | case2 => cases expands
  | case3 count front ih =>
    obtain ⟨tail, inner, rfl⟩ := map_eq_some_iff.mp expands
    simp only [length_append, length_replicate] at fits
    have whole : min count.toNat (capacity - (out.length + 1)) = count.toNat := by omega
    rw [cons_append, cons_append, decompressLoop_run count _ (by omega), whole,
      ih inner (by simp; omega)]
    simp [replicate_succ]
  | case4 c front other ih =>
    obtain ⟨tail, inner, rfl⟩ := map_eq_some_iff.mp expands
    simp only [length_cons] at fits
    rw [cons_append, decompressLoop_other other _ (by omega), ih inner (by simp; omega)]
    simp

/-- What `compress` makes of data that fits the receiver's buffer, `decompress` undoes. -/
theorem decompress_compress {data output : Bytes} {outputSize : Nat}
    (done : compress data outputSize = some output) (fits : data.length ≤ capacity)
    : decompress output capacity = some data := by
  have room : ([] : Bytes).length + data.length ≤ capacity := by simpa using fits
  have whole := decompressLoop_append output [] (compress_spec done).2 room
  rw [append_nil] at whole
  exact whole.trans (by simp [decompressLoop])

end SwitchLanPlay.LdnMitm
