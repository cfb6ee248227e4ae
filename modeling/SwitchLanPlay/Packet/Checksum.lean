import SwitchLanPlay.Foundation.Access
import SwitchLanPlay.Foundation.OnesComplement
import SwitchLanPlay.Packet.Ipv4

/-! The checksums of `ipv4.c` beside the Internet checksum: `calc_checksum` over one buffer, and
`calc_payload_checksum` over parts, which reads behind a part of odd length from the wrong octet
on.
-/

namespace SwitchLanPlay.Packet

open List Option
open Foundation

def oddOctet : Bytes → Nat
  | _ :: _ :: rest => oddOctet rest
  | [last] => last.toNat
  | [] => 0

theorem oddOctet_lt (octets : Bytes) : oddOctet octets < 256 := by
  fun_induction oddOctet octets with
  | case1 _ _ rest ih => exact ih
  | case2 last => exact last.toNat_lt
  | case3 => decide

theorem oddOctet_eq_zero_iff (octets : Bytes)
    : oddOctet octets = 0 ↔ octets.length % 2 = 0 ∨ octets.getLast? = some 0 := by
  fun_induction oddOctet octets with
  | case1 high low rest ih =>
    have even : (high :: low :: rest).length % 2 = rest.length % 2 := by
      rw [length_cons, length_cons]
      omega
    rw [ih, even]
    cases rest with
    | nil => simp
    | cons octet rest => rw [getLast?_cons_cons, getLast?_cons_cons]
  | case2 last =>
    have zero : last.toNat = 0 ↔ last = 0 := UInt8.toNat_inj (b := 0)
    simp [zero]
  | case3 => simp

/-- `calc_checksum` adds an odd last octet as the low half of a word, not as the high half. -/
theorem sumWords_add (octets : Bytes)
    : sumWords octets + 255 * oddOctet octets = wordSum octets := by
  fun_induction oddOctet octets with
  | case1 high low rest ih =>
    rw [sumWords, wordSum_cons_cons]
    omega
  | case2 last =>
    rw [wordSum_singleton, sumWords]
    omega
  | case3 => rfl

theorem sumWords_append {front : Bytes} (even : front.length % 2 = 0) (rest : Bytes)
    : sumWords (front ++ rest) = sumWords front + sumWords rest := by
  fun_induction oddOctet front with
  | case1 high low front ih =>
    rw [length_cons, length_cons] at even
    rw [cons_append, cons_append, sumWords, sumWords, ih (by omega)]
    omega
  | case2 last => simp at even
  | case3 => simp [sumWords]

theorem oddOctet_of_even {octets : Bytes} (even : octets.length % 2 = 0) : oddOctet octets = 0 :=
  (oddOctet_eq_zero_iff octets).mpr (.inl even)

/-- The loop that folds the carries brings them all back in. -/
theorem foldCarries_eq (sum : Nat) : foldCarries (sum / 0xffff) sum = carried sum := by
  have loop (fuel sum : Nat) (enough : sum / 0xffff ≤ fuel)
      : foldCarries fuel sum = carried sum := by
    induction fuel generalizing sum with
    | zero =>
      unfold foldCarries carried
      split <;> omega
    | succ fuel ih =>
      unfold foldCarries
      by_cases large : 0xffff < sum
      · have residue : carried (sum - 0xffff) = carried sum := by
          unfold carried
          split <;> split <;> omega
        rw [if_pos large, ih _ (by omega), residue]
      · rw [if_neg large]
        unfold carried
        split <;> omega
  exact loop _ sum le_rfl

theorem calcChecksum_eq (buffer : Bytes)
    : calcChecksum buffer = 0xffff - carried (sumWords buffer) := by
  rw [← foldCarries_eq]
  rfl

/-- What `calc_checksum` returns, entered in a cleared field, verifies exactly when there is no odd
last octet other than zero.
-/
theorem onesSum_calcChecksum_iff {front : Bytes} (even : front.length % 2 = 0) (rest : Bytes)
    : onesSum (front ++ (be16 (calcChecksum (front ++ ([0, 0] ++ rest))) ++ rest)) = 0xffff
      ↔ oddOctet rest = 0 := by
  have frontSum := sumWords_add front
  rw [oddOctet_of_even even] at frontSum
  have restSum := sumWords_add rest
  have bound := oddOctet_lt rest
  have cleared : sumWords (front ++ ([0, 0] ++ rest)) = sumWords front + sumWords rest := by
    rw [sumWords_append even]
    exact congrArg _ (Nat.zero_add _)
  rw [calcChecksum_eq, cleared, onesSum_field_iff even _ (by omega)]
  omega

-- Chains of parts

def sumWordsAt? (part : Bytes) (position : Nat) : Nat → Option Nat
  | 0 => some 0
  | count + 1 =>
    (readAt? readBe16 2 part position).bind
      (fun word => (sumWordsAt? part (position + 2) count).map (word + ·))

/-- The loop of `calc_payload_checksum`. The offset is added to a pointer to words, so it skips
two octets. `len` is an `int` and goes below zero for an empty part; behind the words it is zero or
the part has an octet of its own to be paired.
-/
def sumParts? : Nat → List Bytes → Option Nat
  | _, [] => some 0
  | offset, part :: rest =>
    let len : Int := part.length - offset
    let count := len.toNat / 2
    (sumWordsAt? part (2 * offset) count).bind (fun words =>
      if len = 2 * count then (sumParts? 0 rest).map (words + ·)
      else
        (readAt? readU8 1 part (2 * offset + 2 * count)).bind (fun last =>
          match rest with
          | [] => some (words + last * 256)
          | next :: _ =>
            (readAt? readU8 1 next 0).bind (fun first =>
              (sumParts? 1 rest).map (words + (last * 256 + first) + ·))))

/-- `calc_payload_checksum`; nothing when it reads outside of a part. The accumulator has 32
bits.
-/
def calcPayloadChecksum? (payload : List Bytes) : Option Nat :=
  (sumParts? 0 payload).map
    (fun sum => 0xffff - foldCarries (sum % 4294967296 / 0xffff) (sum % 4294967296))

def Paired : List Bytes → Prop
  | part :: next :: rest =>
    if part.length % 2 = 0 then Paired (next :: rest) else next.length = 1 ∧ Paired rest
  | _ => True

theorem sumWordsAt?_of_le {part : Bytes} {position count : Nat}
    (inside : position + 2 * count ≤ part.length)
    : sumWordsAt? part position count = some (wordSum (slice part position (2 * count))) := by
  induction count generalizing position with
  | zero => simp [sumWordsAt?, slice]
  | succ count ih =>
    have first : position < part.length := by omega
    have second : position + 1 < part.length := by omega
    have octets
        : slice part position (2 * (count + 1))
          = part[position] :: part[position + 1] :: slice part (position + 2) (2 * count) := by
      rw [slice, drop_eq_getElem_cons first, drop_eq_getElem_cons second]
      rfl
    have word : readBe16 part position = part[position].toNat * 256 + part[position + 1].toNat := by
      simp [readBe16, readU8, first, second]
    rw [sumWordsAt?, readAt?_of_le (by omega), bind_some, ih (by omega), octets,
      wordSum_cons_cons, word]
    rfl

theorem sumWordsAt?_of_lt {part : Bytes} {position count : Nat} (positive : 0 < count)
    (outside : part.length < position + 2 * count)
    : sumWordsAt? part position count = none := by
  induction count generalizing position with
  | zero => cases positive
  | succ count ih =>
    rw [sumWordsAt?]
    by_cases inside : position + 2 ≤ part.length
    · rw [readAt?_of_le inside, bind_some, ih (by omega) (by omega)]
      rfl
    · rw [readAt?_eq_none (by decide) (by omega)]
      rfl

/-- A part of even length whose words are paired. -/
theorem sumParts?_even {part : Bytes} (even : part.length % 2 = 0) (rest : List Bytes)
    : sumParts? 0 (part :: rest) = (sumParts? 0 rest).map (wordSum part + ·) := by
  have count : 2 * (((part.length : Int) - (0 : Nat)).toNat / 2) = part.length := by omega
  rw [sumParts?, sumWordsAt?_of_le (by omega), bind_some, if_pos (by omega), count,
    Nat.mul_zero, slice, drop_zero, take_length]

/-- A part of odd length; its last octet waits for the next part. -/
theorem sumParts?_odd {body : Bytes} (even : body.length % 2 = 0) (last : UInt8)
    (rest : List Bytes)
    : sumParts? 0 ((body ++ [last]) :: rest)
      = match rest with
        | [] => some (wordSum body + last.toNat * 256)
        | next :: _ =>
          (readAt? readU8 1 next 0).bind (fun first =>
            (sumParts? 1 rest).map (wordSum body + (last.toNat * 256 + first) + ·)) := by
  have length : (body ++ [last]).length = body.length + 1 := by simp
  have count : 2 * ((((body ++ [last]).length : Int) - (0 : Nat)).toNat / 2) = body.length := by
    omega
  have octet : readU8 (body ++ [last]) body.length = last.toNat := by simp [readU8]
  rw [sumParts?, sumWordsAt?_of_le (by omega), bind_some, if_neg (by omega),
    readAt?_of_le (by omega), bind_some, count, Nat.mul_zero, Nat.zero_add, octet, slice,
    drop_zero, take_left]

/-- Behind an odd part, `calc_payload_checksum` stays inside of a part with one octet only. -/
theorem sumParts?_one (part : Bytes) (rest : List Bytes)
    : sumParts? 1 (part :: rest) = if part.length = 1 then sumParts? 0 rest else none := by
  rw [sumParts?]
  by_cases single : part.length = 1
  · rw [if_pos single, single]
    simp [sumWordsAt?]
  · rw [if_neg single]
    generalize counted : ((part.length : Int) - (1 : Nat)).toNat / 2 = count
    by_cases outside : 0 < count ∧ part.length < 2 * 1 + 2 * count
    · rw [sumWordsAt?_of_lt outside.1 outside.2]
      rfl
    · cases sumWordsAt? part (2 * 1) count with
      | none => rfl
      | some words =>
        rw [bind_some, if_neg (by omega), readAt?_eq_none (by decide) (by omega)]
        rfl

/-- The parts of a chain are read from inside, and their words are those of the whole, exactly when
they are paired. Witness: along the parts, two at a time behind an odd one.
-/
theorem sumParts?_spec (parts : List Bytes)
    : (Paired parts ∧ sumParts? 0 parts = some (wordSum parts.flatten))
      ∨ (¬ Paired parts ∧ sumParts? 0 parts = none) := by
  fun_induction Paired parts with
  | case1 part next rest even ih =>
    rw [sumParts?_even even, flatten_cons, wordSum_append even]
    rcases ih with ⟨paired, sum⟩ | ⟨unpaired, fails⟩
    · exact .inl ⟨paired, by rw [sum]; rfl⟩
    · exact .inr ⟨unpaired, by rw [fails]; rfl⟩
  | case2 part next rest odd ih =>
    obtain ⟨body, last, rfl⟩ := eq_nil_or_concat part |>.resolve_left (by
      rintro rfl
      exact odd rfl)
    rw [concat_eq_append] at odd ⊢
    have even : body.length % 2 = 0 := by
      rw [length_append, length_singleton] at odd
      omega
    rw [sumParts?_odd even]
    dsimp only
    by_cases single : next.length = 1
    · obtain ⟨first, rfl⟩ := length_eq_one_iff.mp single
      have words
          : wordSum (((body ++ [last]) :: [first] :: rest).flatten)
            = wordSum body + (last.toNat * 256 + first.toNat) + wordSum rest.flatten := by
        simp only [flatten_cons, append_assoc, cons_append, nil_append]
        rw [wordSum_append even, wordSum_cons_cons]
        omega
      rw [readAt?_of_le (single.ge : 0 + 1 ≤ [first].length), bind_some, sumParts?_one,
        if_pos single, words]
      rcases ih with ⟨paired, sum⟩ | ⟨unpaired, fails⟩
      · exact .inl ⟨⟨single, paired⟩, by rw [sum]; rfl⟩
      · exact .inr ⟨fun both => unpaired both.2, by rw [fails]; rfl⟩
    · refine .inr ⟨fun both => single both.1, ?_⟩
      cases readAt? readU8 1 next 0 with
      | none => rfl
      | some first =>
        rw [bind_some, sumParts?_one, if_neg single]
        rfl
  | case3 parts short =>
    refine .inl ⟨trivial, ?_⟩
    cases parts with
    | nil => rfl
    | cons part rest =>
      cases rest with
      | cons next rest => exact absurd rfl (short part next rest)
      | nil =>
        rcases eq_nil_or_concat part with rfl | ⟨body, last, rfl⟩
        · rfl
        · rw [concat_eq_append, flatten_cons, flatten_nil, append_nil]
          rcases Nat.mod_two_eq_zero_or_one body.length with even | odd
          · rw [sumParts?_odd even, wordSum_append even, wordSum_singleton]
          · rw [sumParts?_even (by simp; omega)]
            rfl

/-- The accumulator does not wrap around below 2^17 octets. -/
theorem calcPayloadChecksum?_of_paired {parts : List Bytes} (paired : Paired parts)
    (short : parts.flatten.length < 131072)
    : calcPayloadChecksum? parts = some (internetChecksum parts.flatten) := by
  have bound := wordSum_le parts.flatten
  rcases sumParts?_spec parts with ⟨_, sum⟩ | ⟨unpaired, _⟩
  · rw [calcPayloadChecksum?, sum, map_some, Nat.mod_eq_of_lt (by omega), foldCarries_eq,
      internetChecksum, onesSum_eq]
  · exact absurd paired unpaired

/-- `calc_payload_checksum` of a chain is the Internet checksum of its octets, read from inside of
its parts, exactly when every odd part but the last has a single octet behind it.
-/
theorem calcPayloadChecksum?_iff (parts : List Bytes) (short : parts.flatten.length ≤ 65535)
    : calcPayloadChecksum? parts = some (internetChecksum parts.flatten) ↔ Paired parts := by
  refine ⟨?_, fun paired => calcPayloadChecksum?_of_paired paired (by omega)⟩
  intro computed
  rcases sumParts?_spec parts with ⟨paired, _⟩ | ⟨_, fails⟩
  · exact paired
  · rw [calcPayloadChecksum?, fails] at computed
    cases computed

theorem calcPayloadChecksum?_iff_paired
    : calcPayloadChecksum? [[1, 2, 3], [4], [5, 6]] = some (internetChecksum [1, 2, 3, 4, 5, 6]) :=
  (calcPayloadChecksum?_iff [[1, 2, 3], [4], [5, 6]] (by decide)).mpr (by simp [Paired])

/-- Behind an odd part, a part of two octets is left behind its end. -/
theorem odd_part_read_outside : calcPayloadChecksum? [[1], [2, 3]] = none := by decide +kernel

end SwitchLanPlay.Packet
