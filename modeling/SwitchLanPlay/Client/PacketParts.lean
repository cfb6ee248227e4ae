import SwitchLanPlay.Client.Reassembly

/-! One sent packet and the slot that collects its parts: which fragments it becomes, what
a slot holds after some of them, and that the full mask means the whole packet.
-/

namespace SwitchLanPlay.Client

open List
open Foundation
open Packet

variable {received : Nat → Prop}

variable {sending : Sending} {j : Nat} {slot : LanClientFragment}

-- The fragments of one packet

/-- A call of `lan_client_send` for an IPv4 packet: the sender it is made on, with its path
MTU and identifier counter, and the packet.
-/
structure Sending where
  sender : LanClientSender
  packet : Bytes

namespace Sending

/-- The fragments as the receiver's `lan_client_process_frag` gets them: the emitted
datagrams behind their type octet, when every `uv_udp_send` succeeds.
-/
def fragments (sending : Sending) : List Bytes :=
  (lanClientSend (fun _ => 0) sending.sender .ipv4 sending.packet).datagrams.map tail

/-- An IPv4 packet of Ethernet size that a path MTU of at least 500 cuts. -/
structure IsCut (sending : Sending) : Prop where
  header : 20 ≤ sending.packet.length
  size : sending.packet.length ≤ etherMtu
  minimum : 500 ≤ sending.sender.pmtu
  width : sending.sender.pmtu < 65536
  long : sending.sender.pmtu < sending.packet.length

def parts (sending : Sending) : Nat := totalPart sending.packet.length sending.sender.pmtu

def header (sending : Sending) (j : Nat) : LanClientFragmentHeader where
  src := readIpv4 sending.packet ipv4OffSrc
  dst := readIpv4 sending.packet ipv4OffDst
  id := sending.sender.fragId
  part := j
  totalPart := sending.parts
  len := min sending.sender.pmtu (sending.packet.length - j * sending.sender.pmtu)
  pmtu := sending.sender.pmtu

def fragment (sending : Sending) (j : Nat) : Bytes :=
  (sending.header j).toBytes
    ++ slice sending.packet (j * sending.sender.pmtu) (sending.header j).len

def key (sending : Sending) : FragKey :=
  (readIpv4 sending.packet ipv4OffSrc, sending.sender.fragId % 65536)

/-- A packet that the path MTU cuts, with lengths and a part count that fit their header
fields.
-/
structure Splits (sending : Sending) : Prop where
  positive : 0 < sending.sender.pmtu
  long : sending.sender.pmtu < sending.packet.length
  width : sending.packet.length < 65536
  few : sending.parts < 256

/-- A cut packet that the receiver can collect: of Ethernet size and at most eight parts. -/
structure Fits (sending : Sending) : Prop extends sending.Splits where
  size : sending.packet.length ≤ etherMtu
  eight : sending.parts ≤ 8

/-- A packet that splits becomes its parts in order. -/
theorem Splits.fragments_eq (splits : sending.Splits)
    : sending.fragments = (range sending.parts).map sending.fragment := by
  unfold fragments
  rw [lanClientSend_fragments splits.positive splits.long, map_map]
  rfl

theorem Splits.lt_parts_iff (splits : sending.Splits)
    : j < sending.parts ↔ j * sending.sender.pmtu < sending.packet.length :=
  lt_totalPart_iff splits.positive

theorem Splits.several (splits : sending.Splits) : 1 < sending.parts :=
  splits.lt_parts_iff.mpr (by simpa using splits.long)

/-- A path MTU of at least 500 makes at most 132 parts, and of a packet of Ethernet size at
most three.
-/
theorem parts_le (sending : Sending) (minimum : 500 ≤ sending.sender.pmtu)
    (width : sending.packet.length < 65536)
    : sending.parts ≤ 132 ∧ (sending.packet.length ≤ etherMtu → sending.parts ≤ 3) := by
  have inside {j : Nat} (counted : j < sending.parts)
      : j * sending.sender.pmtu < sending.packet.length := (lt_totalPart_iff (by omega)).mp counted
  constructor
  · by_contra more
    have beyond := inside (Nat.lt_of_not_le more)
    omega
  · intro size
    by_contra more
    have beyond := inside (Nat.lt_of_not_le more)
    simp only [etherMtu] at size
    omega

theorem IsCut.fits {sending : Sending} (cut : sending.IsCut) : sending.Fits := by
  obtain ⟨_, size, minimum, _, long⟩ := cut
  have width : sending.packet.length < 65536 := Nat.lt_of_le_of_lt size (by decide)
  have parts := (sending.parts_le minimum width).2 size
  exact ⟨⟨by omega, long, width, by omega⟩, size, by omega⟩

/-- The receiver reads a part's header as it was meant, with the identifier cut to 16 bits. -/
theorem Splits.readHeader (splits : sending.Splits) (counted : j < sending.parts)
    : readFragmentHeader (sending.fragment j)
      = ⟨readIpv4 sending.packet ipv4OffSrc, readIpv4 sending.packet ipv4OffDst,
          sending.sender.fragId % 65536, j, sending.parts, (sending.header j).len,
          sending.sender.pmtu⟩ := by
  have few := splits.few
  have width : sending.sender.pmtu < 65536 := splits.long.trans splits.width
  have partFits : j % 256 = j := Nat.mod_eq_of_lt (by omega)
  have totalFits : sending.parts % 256 = sending.parts := Nat.mod_eq_of_lt (by omega)
  have pmtuFits : sending.sender.pmtu % 65536 = sending.sender.pmtu := Nat.mod_eq_of_lt width
  have lenFits : (sending.header j).len % 65536 = (sending.header j).len := by
    apply Nat.mod_eq_of_lt
    exact Nat.lt_of_le_of_lt (Nat.min_le_left _ _) width
  rw [fragment, readFragmentHeader_toBytes_append]
  unfold LanClientFragmentHeader.onWire
  rw [lenFits]
  simp only [header, partFits, totalFits, pmtuFits]

/-- The octets behind a part's header are that part of the packet. -/
theorem slice_fragment (sending : Sending) (j : Nat)
    : slice (sending.fragment j) lcFragHeaderLen (sending.header j).len
      = slice sending.packet (j * sending.sender.pmtu) (sending.header j).len := by
  have behind : (sending.fragment j).drop lcFragHeaderLen
      = slice sending.packet (j * sending.sender.pmtu) (sending.header j).len := by
    unfold fragment
    rw [← LanClientFragmentHeader.toBytes_length (sending.header j), drop_left]
  rw [slice, behind]
  exact take_of_length_le (by simp)

/-- The receiver accepts every part: the counts are in range, the octets are all there and
they fit the slot buffer.
-/
theorem Fits.accepted (fits : sending.Fits) (counted : j < sending.parts)
    : isRejected (sending.fragment j) (readFragmentHeader (sending.fragment j)) = false := by
  have few := fits.eight
  have inside := fits.lt_parts_iff.mp counted
  have positive := fits.positive
  have size := fits.size
  have lenEq : (sending.header j).len
      = min sending.sender.pmtu (sending.packet.length - j * sending.sender.pmtu) := rfl
  have length : (sending.fragment j).length = lcFragHeaderLen + (sending.header j).len := by
    simp only [fragment, length_append, LanClientFragmentHeader.toBytes_length,
      slice_length, lcFragHeaderLen]
    omega
  rw [fits.readHeader counted]
  simp only [isRejected, length, Bool.or_eq_false_iff, decide_eq_false_iff_not,
    beq_eq_false_iff_ne, ne_eq, Nat.mul_comm sending.sender.pmtu j]
  omega

end Sending

-- What a slot holds of a packet

/-- A slot holds the parts `received` of a packet: the mask marks exactly these, their
octets are in place, and the last part has set the length.
-/
structure Sending.Holds (sending : Sending) (received : Nat → Prop) (slot : LanClientFragment)
    : Prop where
  mask : ∀ j, slot.part.testBit j = true ↔ received j
  octets
    : ∀ j,
        received j
        → ∀ index : Fin etherMtu,
            j * sending.sender.pmtu ≤ index.val
            → index.val < (j + 1) * sending.sender.pmtu
            → index.val < sending.packet.length
            → slot.buffer index = sending.packet.getD index.val 0
  length : received (sending.parts - 1) → slot.totalLen = sending.packet.length

/-- A slot with an empty mask holds nothing of any packet. -/
theorem Sending.holds_nothing (sending : Sending) (empty : slot.part = 0)
    : sending.Holds (fun _ => False) slot := by
  refine ⟨?_, fun _ impossible => impossible.elim, fun impossible => impossible.elim⟩
  intro j
  simp [empty]

/-- Parts of one packet occupy disjoint ranges of the buffer. -/
theorem part_ranges_disjoint {pmtu left right index : Nat} (low : left * pmtu ≤ index)
    (high : index < (left + 1) * pmtu) (other : left ≠ right)
    : index < right * pmtu ∨ (right + 1) * pmtu ≤ index := by
  rcases Nat.lt_or_gt_of_ne other with before | after
  · exact Or.inl (Nat.lt_of_lt_of_le high (Nat.mul_le_mul_right pmtu before))
  · exact Or.inr (Nat.le_trans (Nat.mul_le_mul_right pmtu after) low)

/-- Storing a part below eight marks it in the mask, and nothing else. -/
theorem LanClientFragment.testBit_store {header : LanClientFragmentHeader}
    (counted : header.part < 8) (slot : LanClientFragment) (packet : Bytes) (k : Nat)
    : (slot.store header packet).part.testBit k = true
      ↔ k = header.part ∨ slot.part.testBit k = true := by
  have bit : (1 <<< header.part) % 256 = 1 <<< header.part := by
    apply Nat.mod_eq_of_lt
    rw [Nat.one_shiftLeft]
    exact Nat.pow_lt_pow_right (by decide) counted
  simp only [store]
  rw [bit, Nat.one_shiftLeft, Nat.testBit_or, Bool.or_eq_true, Nat.testBit_two_pow,
    decide_eq_true_eq, or_comm, eq_comm]

/-- Storing part `j` adds it to what the slot holds. Witness: the mask gains bit `j`, the copy
fills the range of `j` and misses every other one, and the last part's end is the packet's.
-/
theorem Sending.Fits.holds_store (fits : sending.Fits) (counted : j < sending.parts)
    (holds : sending.Holds received slot)
    : sending.Holds (fun k => k = j ∨ received k)
        (slot.store (readFragmentHeader (sending.fragment j)) (sending.fragment j)) := by
  have few := fits.eight
  have inside := fits.lt_parts_iff.mp counted
  have size := fits.size
  rw [fits.readHeader counted]
  constructor
  case mask =>
    intro k
    have small : j < 8 := by omega
    rw [LanClientFragment.testBit_store small, holds.mask]
  case octets =>
    intro k now index low high before
    simp only [LanClientFragment.store]
    rw [sending.slice_fragment]
    simp only [header, Nat.mul_comm sending.sender.pmtu j]
    by_cases same : k = j
    · subst same
      rw [Nat.succ_mul] at high
      rw [memcpy_inside _ low (by simp only [slice_length]; omega)]
      simp only [slice, getD_eq_getElem?_getD]
      rw [getElem?_take_of_lt (by omega), getElem?_drop]
      congr 2
      omega
    · rw [memcpy_outside]
      · exact holds.octets k (now.resolve_left same) index low high before
      · rcases part_ranges_disjoint low high same with left | right
        · exact Or.inl left
        · refine Or.inr (Nat.le_trans ?_ right)
          simp only [slice_length]
          rw [Nat.succ_mul]
          omega
  case length =>
    intro now
    simp only [LanClientFragment.store]
    by_cases last : j = sending.parts - 1
    · rw [if_pos last, ← last]
      have beyond : ¬ sending.parts * sending.sender.pmtu < sending.packet.length :=
        fun less => Nat.lt_irrefl _ (fits.lt_parts_iff.mpr less)
      have successor : sending.parts = j + 1 := by omega
      rw [successor, Nat.succ_mul] at beyond
      simp only [etherMtu] at size
      simp only [header]
      rw [Nat.mod_eq_of_lt] <;> omega
    · rw [if_neg last]
      exact holds.length (now.resolve_left (fun same => last same.symm))

/-- A slot is finished exactly when it holds every part.
Witness: the completion mask has the bits below the part count, and so has the slot's.
-/
theorem Sending.Fits.isFinished_iff (fits : sending.Fits) (counted : j < sending.parts)
    (holds : sending.Holds received slot) (only : ∀ k, received k → k < sending.parts)
    : slot.isFinished (readFragmentHeader (sending.fragment j)) = true
      ↔ ∀ k < sending.parts, received k := by
  have few := fits.eight
  have small : (2 ^ sending.parts - 1) % 256 = 2 ^ sending.parts - 1 := by
    apply Nat.mod_eq_of_lt
    have power : 2 ^ sending.parts ≤ 2 ^ 8 := Nat.pow_le_pow_right (by decide) (by omega)
    omega
  rw [fits.readHeader counted]
  simp only [LanClientFragment.isFinished, Nat.one_shiftLeft, small, beq_iff_eq]
  constructor
  · intro full k below
    apply (holds.mask k).mp
    rw [← full, Nat.testBit_two_pow_sub_one]
    exact decide_eq_true below
  · intro all
    apply Nat.eq_of_testBit_eq
    intro k
    rw [Nat.testBit_two_pow_sub_one, Bool.eq_iff_iff, decide_eq_true_eq, holds.mask]
    exact ⟨all k, only k⟩

/-- A slot that holds every part hands on the packet: its length and its octets.
Witness: octet `k` lies in part `k / pmtu`.
-/
theorem Sending.Fits.handed_eq (fits : sending.Fits) (holds : sending.Holds received slot)
    (all : ∀ k < sending.parts, received k)
    : slot.totalLen = sending.packet.length
      ∧ (⟨slot.buffer, slot.totalLen⟩ : Handed).bytes = sending.packet := by
  have several := fits.several
  have size := fits.size
  have length := holds.length (all _ (by omega))
  refine ⟨length, ?_⟩
  apply ext_getElem
  · simp only [Handed.bytes, length, length_take, length_ofFn]
    omega
  · intro index inHanded inPacket
    have positive := fits.positive
    have low : index / sending.sender.pmtu * sending.sender.pmtu ≤ index := Nat.div_mul_le_self _ _
    have high : index < (index / sending.sender.pmtu + 1) * sending.sender.pmtu :=
      (Nat.div_lt_iff_lt_mul positive).mp (Nat.lt_succ_self _)
    have counted := fits.lt_parts_iff.mpr (Nat.lt_of_le_of_lt low inPacket)
    have octet := holds.octets _ (all _ counted) ⟨index, by omega⟩ low high inPacket
    simp only [Handed.bytes, getElem_take, List.getElem_ofFn]
    rw [octet, getD_eq_getElem _ _ inPacket]

end SwitchLanPlay.Client
