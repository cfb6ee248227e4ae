import SwitchLanPlay.Sysmodule.RelayClient

/-! The relay client of the sysmodule against the one of the PC: the same datagrams for the
same packets, and the same reassembly as long as the fragment table has room.
-/

namespace SwitchLanPlay.Sysmodule

open Foundation
open Packet
open Client (LanClientType LanClientFragmentHeader LanClientSender FragTable
  Handed fragReceiver fragView
  fragmentDatagram sendFragments totalPart lt_totalPart_iff totalPart_le)

variable {packet : Bytes} {memory : Memory}

/-- The packet lies at the start of the memory. The header of a fragment takes its addresses
from the first twenty octets, which for a shorter packet are zeros behind it.
-/
def IsStoredAt (packet : Bytes) (memory : Memory) : Prop :=
  ∀ position, position < max packet.length ipv4HeaderLen
    → memory position = packet.getD position 0

-- Sending

/-- A part of the packet is the same octets in both. -/
theorem IsStoredAt.read_shift (stored : IsStoredAt packet memory) {pos count : Nat}
    (inside : pos + count ≤ packet.length)
    : (memory.shift pos).read count = slice packet pos count := by
  apply List.ext_getElem
  · simp only [Memory.read_length, slice_length]
    omega
  · intro position inMemory _
    rw [Memory.read_length] at inMemory
    have octet := stored (pos + position) (by omega)
    rw [List.getD_eq_getElem _ _ (by omega)] at octet
    simpa [Memory.read, Memory.shift, slice] using octet

theorem IsStoredAt.readIpv4 (stored : IsStoredAt packet memory) {offset : Nat}
    (inside : offset + 4 ≤ ipv4HeaderLen)
    : readIpv4 (memory.read ipv4HeaderLen) offset = readIpv4 packet offset := by
  have octet {position : Nat} (below : position < ipv4HeaderLen)
      : (memory.read ipv4HeaderLen).getD position 0 = packet.getD position 0 := by
    rw [Memory.getD_read _ below, stored position (by omega)]
  unfold Packet.readIpv4
  rw [octet (by omega), octet (by omega), octet (by omega), octet (by omega)]

/-- The two ways to round the number of parts up agree. -/
theorem parts_eq_totalPart (len pmtu : Nat)
    : len / pmtu + (if len % pmtu ≠ 0 then 1 else 0) = totalPart len pmtu := by
  have whole := Nat.div_add_mod len pmtu
  unfold totalPart
  by_cases rest : len % pmtu = 0
  · rw [if_neg (by simpa using rest), if_neg (by omega), Nat.add_zero]
  · rw [if_pos rest, if_pos (by omega)]

theorem partDatagram_eq (stored : IsStoredAt packet memory) (pmtu id i : Nat) {pos : Nat}
    (inside : pos < packet.length)
    : partDatagram memory packet.length pmtu id i pos
      = fragmentDatagram packet pmtu id i pos := by
  simp only [partDatagram, fragmentDatagram, parts_eq_totalPart,
    stored.readIpv4 (show ipv4OffSrc + 4 ≤ ipv4HeaderLen by decide),
    stored.readIpv4 (show ipv4OffDst + 4 ≤ ipv4HeaderLen by decide)]
  rw [stored.read_shift (by omega)]

section Sending

variable {udpSend : Bytes → Int} {sends : Bytes → Bool}
  (agree : ∀ datagram, udpSend datagram = 0 ↔ sends datagram = true)
include agree

/-- The two loops send the same datagrams. They differ in where they end up behind the last
part: one stops at the end of the packet, the other a whole part further.
Witness: induction on the fuel, at the start of part `i`.
-/
theorem sendParts_eq (stored : IsStoredAt packet memory) (pmtu id fuel i pos : Nat)
    : (sendParts sends memory packet.length pmtu id fuel i pos).1
      = (sendFragments udpSend packet pmtu id fuel i (min pos packet.length)).1 := by
  induction fuel generalizing i pos with
  | zero => rfl
  | succ fuel ih =>
    by_cases more : pos < packet.length
    · have here : min pos packet.length = pos := by omega
      have next : min (pos + pmtu) packet.length
          = pos + min pmtu (packet.length - pos) := by omega
      simp only [sendParts, sendFragments, here, if_pos more,
        partDatagram_eq stored pmtu id i more]
      by_cases sent : sends (fragmentDatagram packet pmtu id i pos) = true
      · have ok := (agree _).mpr sent
        simp only [sent, if_true, ok, ne_eq, not_true_eq_false, if_false, ih, next]
      · have failed := mt (agree _).mp sent
        simp only [if_neg sent, ne_eq, failed, not_false_eq_true, if_true]
    · have beyond : ¬ min pos packet.length < packet.length := by omega
      simp only [sendParts, sendFragments, if_neg more, if_neg beyond]

/-- Both senders emit the same datagrams and continue with the same identifier. -/
theorem lanClientSend_eq (stored : IsStoredAt packet memory) {sender : LanClientSender}
    (width : sender.pmtu < 65536) (type : LanClientType)
    : (lanClientSend sends sender type memory packet.length).datagrams
        = (Client.lanClientSend udpSend sender type packet).datagrams
      ∧ (lanClientSend sends sender type memory packet.length).sender
        = (Client.lanClientSend udpSend sender type packet).sender := by
  have whole : memory.read packet.length = packet := by
    have read : (memory.shift 0).read packet.length = slice packet 0 packet.length :=
      stored.read_shift (by omega)
    rw [Memory.shift_zero] at read
    rw [read, slice]
    simp
  by_cases positive : 0 < sender.pmtu
  · have cut : sender.pmtu % 65536 < packet.length
        ↔ 1 < totalPart packet.length sender.pmtu := by
      rw [lt_totalPart_iff positive, Nat.mod_eq_of_lt width, Nat.one_mul]
    by_cases fragmented : type = .ipv4 ∧ 1 < totalPart packet.length sender.pmtu
    · have loops := sendParts_eq agree stored sender.pmtu sender.fragId packet.length 0 0
      rw [Nat.zero_min] at loops
      simp only [lanClientSend, Client.lanClientSend, cut, positive, fragmented.1, fragmented.2,
        and_self, if_true, loops]
    · have plain : ¬ (type = .ipv4 ∧ 0 < sender.pmtu
          ∧ 1 < totalPart packet.length sender.pmtu) := fun all => fragmented ⟨all.1, all.2.2⟩
      simp only [lanClientSend, Client.lanClientSend, cut, if_neg plain, whole, agree]
      split <;> exact ⟨rfl, rfl⟩
  · simp only [lanClientSend, Client.lanClientSend, positive, false_and, and_false, if_false,
      whole, agree]
    split <;> exact ⟨rfl, rfl⟩

end Sending

-- Reassembly

def switchFragReceiver : Machine FragTable Bytes (Option Handed) := ⟨collectFragment⟩

/-- With room in the table, both find the same slot.
Witness: the PC's eviction comes after the match and the free slot.
-/
theorem claimSlot_eq_claim {table : FragTable} {header : LanClientFragmentHeader}
    (room : table.HasRoom header.key)
    : claimSlot table header = table.claim header := by
  cases found : fragView.match? table.frags header.key with
  | some index =>
    have left : claimSlot table header = some (table, index) := by
      unfold claimSlot
      rw [found]
    have right : table.claim header = some (table, index) := by
      unfold FragTable.claim
      rw [found]
    rw [left, right]
  | none =>
    cases free : fragView.free? table.frags with
    | some index =>
      have left : claimSlot table header = some (table.allocate index header, index) := by
        unfold claimSlot
        rw [found, free]
      have right : table.claim header = some (table.allocate index header, index) := by
        unfold FragTable.claim
        rw [found, free]
      rw [left, right]
    | none =>
      obtain ⟨index, ⟨used, key⟩ | unused⟩ := room
      · exact absurd key (SlotView.match?_none_iff.mp found index used)
      · have taken : (table.frags index).used = true := SlotView.free?_none free index
        rw [unused] at taken
        cases taken

/-- With room in the table, both do the same with a fragment.
Witness: the sysmodule's second check of the sizes repeats the first.
-/
theorem collectFragment_eq {table : FragTable}
    (room : table.HasRoom (Client.readFragmentHeader packet).key)
    : collectFragment table packet = Client.lanClientProcessFrag table packet := by
  cases rejected : Client.isRejected packet (Client.readFragmentHeader packet) with
  | true => simp only [collectFragment, Client.lanClientProcessFrag, rejected, if_true]
  | false =>
    have sizes : 0 < (Client.readFragmentHeader packet).pmtu
        ∧ (Client.readFragmentHeader packet).pmtu * (Client.readFragmentHeader packet).part
          + (Client.readFragmentHeader packet).len ≤ etherMtu := by
      simp only [Client.isRejected, Bool.or_eq_false_iff, decide_eq_false_iff_not,
        beq_eq_false_iff_ne, ne_eq] at rejected
      omega
    have search := claimSlot_eq_claim room
    simp only [collectFragment, Client.lanClientProcessFrag, rejected, search,
      Bool.false_eq_true, if_false]
    cases table.claim (Client.readFragmentHeader packet) with
    | none => rfl
    | some claimed => simp only [if_pos sizes]

/-- The sysmodule's relay client refines the PC's: it emits the same datagrams and counts
identifiers alike, and along any fragments that find a matching or free slot it keeps the
same table and hands on the same packets.
-/
theorem relayClient_refines
    : (∀ (udpSend : Bytes → Int) (sends : Bytes → Bool),
        (∀ datagram, udpSend datagram = 0 ↔ sends datagram = true)
        → ∀ (packet : Bytes) (memory : Memory),
            IsStoredAt packet memory
            → ∀ (sender : LanClientSender) (type : LanClientType),
                sender.pmtu < 65536
                → (lanClientSend sends sender type memory packet.length).datagrams
                    = (Client.lanClientSend udpSend sender type packet).datagrams
                  ∧ (lanClientSend sends sender type memory packet.length).sender
                    = (Client.lanClientSend udpSend sender type packet).sender)
      ∧ ∀ (table : FragTable) (packets : List Bytes),
          (∀ before packet after,
            packets = before ++ packet :: after
            → (fragReceiver.run table before).HasRoom (Client.readFragmentHeader packet).key)
          → fragReceiver.run table packets = switchFragReceiver.run table packets
            ∧ fragReceiver.outputs table packets = switchFragReceiver.outputs table packets := by
  refine ⟨?_, ?_⟩
  · intro udpSend sends agree packet memory stored sender type width
    exact lanClientSend_eq agree stored width type
  · intro table packets room
    refine Machine.run_outputs_eq fragReceiver switchFragReceiver ?_
    intro before packet after split
    exact (collectFragment_eq (room before packet after split)).symm

/-- A packet of 40 octets with path MTU 30, and its two fragments at the initial table. -/
theorem relayClient_refines_forty
    : (lanClientSend (fun _ => true) ⟨30, 5⟩ .ipv4 (fun _ => 0) 40).datagrams
        = (Client.lanClientSend (fun _ => 0) ⟨30, 5⟩ .ipv4 (List.replicate 40 0)).datagrams
      ∧ fragReceiver.outputs .init
          ((Client.lanClientSend (fun _ => 0) ⟨30, 5⟩ .ipv4 (List.replicate 40 0)).datagrams.map
            List.tail)
        = switchFragReceiver.outputs .init
            ((Client.lanClientSend (fun _ => 0) ⟨30, 5⟩ .ipv4
              (List.replicate 40 0)).datagrams.map List.tail) := by
  have stored : IsStoredAt (List.replicate 40 0) (fun _ => 0) := by
    intro position inside
    exact (List.getD_replicate 0 (inside.trans_le (by decide))).symm
  have length : (List.replicate 40 (0 : UInt8)).length = 40 := List.length_replicate
  refine ⟨?_, ?_⟩
  · have same := (relayClient_refines.1 (fun _ => 0) (fun _ => true) (fun _ => by simp) _ _
      stored ⟨30, 5⟩ .ipv4 (by decide)).1
    rwa [length] at same
  · refine (relayClient_refines.2 .init _ ?_).2
    intro before packet after split
    refine Client.hasRoom_of_few ?_ _
    have two : (Client.lanClientSend (fun _ => 0) ⟨30, 5⟩ .ipv4
        (List.replicate 40 0)).datagrams.length = 2 := by decide +kernel
    have count := congrArg List.length split
    rw [List.length_map, two, List.length_append, List.length_cons] at count
    simp only [Client.lcFragCount]
    omega

end SwitchLanPlay.Sysmodule
