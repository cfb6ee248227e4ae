import SwitchLanPlay.Foundation.Memory
import SwitchLanPlay.Sysmodule.Rewriter

/-! What the address rewriter leaves alone. `ldn_bridge_rewrite_ips` works in place on a buffer that
may be longer than the packet in it, so the function is modelled here on memory and a length.
-/

namespace SwitchLanPlay.Sysmodule

open List
open Foundation
open LdnMitm

variable {data : Bytes} {offset position len : Nat}

-- The rewriter in place

def rewriteAtInPlace (addresses : Addresses) (memory : Memory) (offset : Nat) : Memory :=
  if memory.loadLe32 offset = addresses.wifiIp.toNat ∧ addresses.wifiIp ≠ 0 then
    memory.write offset (le32 addresses.virtualIp.toNat)
  else memory

def rewriteNodesInPlace (addresses : Addresses) (outgoing : Bool) (bodyLen : Nat)
    : Nat → Nat → Memory → Memory
  | 0, _, memory => memory
  | remaining + 1, i, memory =>
    let off := niNodesOffset + i * niNodeSize
    if bodyLen < off + 4 then memory
    else
      rewriteNodesInPlace addresses outgoing bodyLen remaining (i + 1)
        (if outgoing then rewriteAtInPlace addresses memory (ldnHeaderSize + off) else memory)

def rewriteIpsInPlace (addresses : Addresses) (outgoing : Bool) (memory : Memory) (len : Nat)
    : Memory :=
  let header := readLANPacketHeader (memory.read ldnHeaderSize)
  let bodyLen := len - ldnHeaderSize
  if len < ldnHeaderSize then memory
  else if header.magic ≠ ldnMagic then memory
  else if header.type ≠ LANPacketType.scanResp.toByte
      ∧ header.type ≠ LANPacketType.connect.toByte
      ∧ header.type ≠ LANPacketType.syncNetwork.toByte then memory
  else if header.compressed ≠ 0 then memory
  else if header.type = LANPacketType.scanResp.toByte
      ∨ header.type = LANPacketType.syncNetwork.toByte then
    if bodyLen < niNodesOffset + niNodeSize then memory
    else
      let nodeCount :=
        if niNodecountOffset < bodyLen then (memory (ldnHeaderSize + niNodecountOffset)).toNat
        else 0
      rewriteNodesInPlace addresses outgoing bodyLen (min nodeCount niNodeCount) 0 memory
  else if bodyLen < 4 then memory
  else if outgoing then rewriteAtInPlace addresses memory ldnHeaderSize
  else memory

theorem rewriteAtInPlace_write (addresses : Addresses) (memory : Memory)
    (inside : offset + 4 ≤ data.length)
    : rewriteAtInPlace addresses (memory.write 0 data) offset
      = memory.write 0 (rewriteAt addresses data offset) := by
  unfold rewriteAtInPlace rewriteAt
  rw [memory.loadLe32_write inside]
  split
  · exact memory.write_write inside
  · rfl

/-- The loop writes nothing behind the packet.
Witness: by induction on the nodes to go; each keeps the length of the packet.
-/
theorem rewriteNodesInPlace_write (addresses : Addresses) (outgoing : Bool) (memory : Memory)
    {bodyLen : Nat} (remaining i : Nat) (inside : ldnHeaderSize + bodyLen ≤ data.length)
    : rewriteNodesInPlace addresses outgoing bodyLen remaining i (memory.write 0 data)
      = memory.write 0 (rewriteNodes addresses outgoing bodyLen remaining i data) := by
  induction remaining generalizing i data with
  | zero => rfl
  | succ remaining ih =>
    unfold rewriteNodesInPlace rewriteNodes
    dsimp only
    split
    · rfl
    · rename_i reached
      have place : ldnHeaderSize + (niNodesOffset + i * niNodeSize) + 4 ≤ data.length := by
        omega
      cases outgoing with
      | false => exact ih (i + 1) inside
      | true =>
        rw [if_pos rfl, if_pos rfl, rewriteAtInPlace_write addresses memory place]
        exact ih (i + 1) (inside.trans_eq (rewriteAt_length addresses place).symm)

/-- In place the packet becomes what the rewriter makes of it, and what follows it stays. -/
theorem rewriteIpsInPlace_write (addresses : Addresses) (outgoing : Bool) (memory : Memory)
    (data : Bytes)
    : rewriteIpsInPlace addresses outgoing (memory.write 0 data) data.length
      = memory.write 0 (rewriteIps addresses outgoing data) := by
  by_cases short : data.length < ldnHeaderSize
  · rw [rewriteIpsInPlace, rewriteIps, if_pos short, if_pos short]
  have header : readLANPacketHeader ((memory.write 0 data).read ldnHeaderSize)
      = readLANPacketHeader data := by
    rw [memory.read_write (Nat.not_lt.mp short)]
    exact readLANPacketHeader_take data
  unfold rewriteIpsInPlace rewriteIps
  rw [header]
  dsimp only
  split
  · rfl
  split
  · rfl
  split
  · rfl
  split
  · rfl
  split
  · split
    · rfl
    · rename_i full
      have count : ((memory.write 0 data) (ldnHeaderSize + niNodecountOffset)).toNat
          = readU8 data (ldnHeaderSize + niNodecountOffset) := by
        have inside : ldnHeaderSize + niNodecountOffset < data.length := by
          simp only [niNodecountOffset, niNodesOffset, niNodeSize] at full ⊢
          omega
        rw [memory.write_inside (Nat.zero_le _) (by omega), Nat.sub_zero, readU8]
      rw [count]
      exact rewriteNodesInPlace_write addresses outgoing memory _ 0 (by omega)
  · split
    · rfl
    · rename_i full
      cases outgoing with
      | false => rfl
      | true => exact rewriteAtInPlace_write addresses memory (by omega)

/-- The function on memory is the one on packets. -/
theorem rewriteIpsInPlace_eq (addresses : Addresses) (outgoing : Bool) (memory : Memory)
    (len : Nat)
    : rewriteIpsInPlace addresses outgoing memory len
      = memory.write 0 (rewriteIps addresses outgoing (memory.read len)) := by
  have written := rewriteIpsInPlace_write addresses outgoing memory (memory.read len)
  rwa [memory.write_read, memory.read_length] at written

-- Incoming packets and repeated rewriting

theorem rewriteNodes_incoming (addresses : Addresses) (bodyLen remaining i : Nat) (data : Bytes)
    : rewriteNodes addresses false bodyLen remaining i data = data := by
  induction remaining generalizing i with
  | zero => rfl
  | succ remaining ih =>
    unfold rewriteNodes
    dsimp only
    split
    · rfl
    · exact ih (i + 1)

/-- Incoming packets are left alone. -/
theorem rewriteIps_incoming (addresses : Addresses) (data : Bytes)
    : rewriteIps addresses false data = data := by
  unfold rewriteIps
  simp only [rewriteNodes_incoming, Bool.false_eq_true, if_false, ite_self]

/-- Places that do not hold the WiFi address keep their octets, and so do those between them. -/
theorem getD_foldl_rewriteAt (addresses : Addresses) {offsets : List Nat}
    (inside : ∀ offset ∈ offsets, offset + 4 ≤ data.length)
    (ordered : offsets.Pairwise (fun left right => left + 4 ≤ right))
    (missed
      : ∀ offset ∈ offsets,
          offset ≤ position
          → position < offset + 4
          → ¬ (readLe32 data offset = addresses.wifiIp.toNat ∧ addresses.wifiIp ≠ 0))
    : (offsets.foldl (rewriteAt addresses) data).getD position 0 = data.getD position 0 := by
  induction offsets generalizing data with
  | nil => rfl
  | cons first offsets ih =>
    rw [forall_mem_cons] at inside missed
    obtain ⟨before, ordered⟩ := pairwise_cons.mp ordered
    have kept := rewriteAt_length addresses inside.1
    have octet : (rewriteAt addresses data first).getD position 0 = data.getD position 0 := by
      unfold rewriteAt
      split
      · rename_i hit
        rw [getD_patch inside.1, if_neg]
        intro within
        exact missed.1 within.1 within.2 hit
      · rfl
    rw [foldl_cons,
      ih (fun next listed => (inside.2 next listed).trans_eq kept.symm) ordered, octet]
    intro next listed low high
    rw [readLe32_rewriteAt_apart addresses inside.1 (.inr (before next listed))]
    exact missed.2 next listed low high

/-- An octet that changes is one of a place that held the WiFi address. -/
theorem exists_place_of_changed (addresses : Addresses)
    (changed : (rewriteIps addresses true data).getD position 0 ≠ data.getD position 0)
    : ∃ offset ∈ addressOffsets data,
        offset ≤ position
        ∧ position < offset + 4
        ∧ readLe32 data offset = addresses.wifiIp.toNat
        ∧ addresses.wifiIp ≠ 0 := by
  by_contra absent
  push Not at absent
  rw [rewriteIps_eq_foldl] at changed
  apply changed
  apply getD_foldl_rewriteAt addresses (fun _ listed => addressOffsets_inside listed)
    (addressOffsets_apart data)
  rintro offset member low high ⟨same, known⟩
  exact known (absent offset member low high same)

/-- No place overlaps the header or the number of nodes. -/
theorem addressOffsets_place (member : offset ∈ addressOffsets data)
    : offset = ldnHeaderSize ∨ nodeOffset 0 ≤ offset := by
  unfold addressOffsets at member
  dsimp only at member
  split_ifs at member
  · cases member
  · cases member
  · right
    obtain ⟨i, _, rfl⟩ := mem_map.mp (mem_filter.mp member).1
    simp only [nodeOffset]
    omega
  · exact Or.inl (mem_singleton.mp member)
  · cases member

/-- The header and the number of nodes are not rewritten. -/
theorem getD_rewriteIps_fixed (addresses : Addresses) (data : Bytes)
    (fixed : position < ldnHeaderSize ∨ position = ldnHeaderSize + niNodecountOffset)
    : (rewriteIps addresses true data).getD position 0 = data.getD position 0 := by
  by_contra changed
  obtain ⟨offset, member, low, high, _⟩ := exists_place_of_changed addresses changed
  have place := addressOffsets_place member
  simp only [nodeOffset, ldnHeaderSize, niNodecountOffset, niNodesOffset, niLdnOffset]
    at place fixed
  omega

/-- A rewritten packet has its addresses in the same places. -/
theorem addressOffsets_rewriteIps (addresses : Addresses) (data : Bytes)
    : addressOffsets (rewriteIps addresses true data) = addressOffsets data := by
  have octet {position : Nat} (below : position < ldnHeaderSize)
      : (rewriteIps addresses true data).getD position 0 = data.getD position 0 :=
    getD_rewriteIps_fixed addresses data (.inl below)
  have header : readLANPacketHeader (rewriteIps addresses true data)
      = readLANPacketHeader data := by
    simp only [readLANPacketHeader, readLe32, readLe16, readU8]
    rw [octet (by decide), octet (by decide), octet (by decide), octet (by decide),
      octet (by decide), octet (by decide), octet (by decide), octet (by decide),
      octet (by decide), octet (by decide)]
  have count : readU8 (rewriteIps addresses true data) (ldnHeaderSize + niNodecountOffset)
      = readU8 data (ldnHeaderSize + niNodecountOffset) := by
    rw [readU8, getD_rewriteIps_fixed addresses data (.inr rfl), readU8]
  unfold addressOffsets
  rw [header, count, rewriteIps_length]

/-- Rewriting a packet again changes nothing more. The virtual address is rewritten only if it is
the WiFi address, and then to itself.
-/
theorem rewriteIps_rewriteIps (addresses : Addresses) (data : Bytes)
    : rewriteIps addresses true (rewriteIps addresses true data)
      = rewriteIps addresses true data := by
  rw [rewriteIps_eq_self_iff]
  by_cases unknown : addresses.wifiIp = 0
  · exact Or.inl unknown
  by_cases equal : addresses.wifiIp = addresses.virtualIp
  · exact Or.inr (Or.inl equal)
  right
  right
  rintro ⟨offset, member, read⟩
  rw [addressOffsets_rewriteIps] at member
  rw [readLe32_rewriteIps addresses member, Addresses.replaced] at read
  split at read
  · exact equal (UInt32.toNat_inj.mp read).symm
  · rename_i other
    exact other ⟨read, unknown⟩

-- The frame

def packetHeader (memory : Memory) : LANPacketHeader :=
  readLANPacketHeader (memory.read ldnHeaderSize)

/-- The memory starts with the whole header of an uncompressed LDN packet. -/
structure IsUncompressed (memory : Memory) (len : Nat) : Prop where
  whole : ldnHeaderSize ≤ len
  magic : (packetHeader memory).magic = ldnMagic
  uncompressed : (packetHeader memory).compressed = 0

/-- Where a packet of `len` octets has the address of a counted node. -/
inductive AddressPlace (memory : Memory) (len : Nat) : Nat → Prop where
  /-- `nodes[i].ipv4Address` of a `NetworkInfo` with `nodeCount` nodes. -/
  | node {i : Nat} (uncompressed : IsUncompressed memory len)
      (type
        : (packetHeader memory).type = LANPacketType.scanResp.toByte
          ∨ (packetHeader memory).type = LANPacketType.syncNetwork.toByte)
      (long : 180 ≤ len)
      (counted : i < min (memory (12 + 80 + 23)).toNat 8)
      (inside : 12 + 80 + 24 + 64 * i + 4 ≤ len)
      : AddressPlace memory len (12 + 80 + 24 + 64 * i)
  /-- `ipv4Address` of the `NodeInfo` in a request to connect. -/
  | connect (uncompressed : IsUncompressed memory len)
      (type : (packetHeader memory).type = LANPacketType.connect.toByte)
      (inside : 12 + 4 ≤ len)
      : AddressPlace memory len 12

theorem nodeOffset_eq (i : Nat) : nodeOffset i = 12 + 80 + 24 + 64 * i := by
  simp only [nodeOffset, ldnHeaderSize, niNodesOffset, niLdnOffset, niNodeSize]
  omega

theorem packetHeader_eq (memory : Memory) (whole : ldnHeaderSize ≤ len)
    : readLANPacketHeader (memory.read len) = packetHeader memory := by
  have front := memory.read_write (whole.trans_eq (memory.read_length len).symm)
  rw [memory.write_read] at front
  rw [packetHeader, front]
  exact (readLANPacketHeader_take _).symm

theorem readU8_nodeCount (memory : Memory) (long : 180 ≤ len)
    : readU8 (memory.read len) (ldnHeaderSize + niNodecountOffset)
      = (memory (12 + 80 + 23)).toNat := by
  have inside : ldnHeaderSize + niNodecountOffset < len := by
    simp only [ldnHeaderSize, niNodecountOffset, niLdnOffset]
    omega
  rw [readU8, memory.getD_read inside]
  rfl

/-- The packets that the rewriter looks into. -/
theorem isUncompressed_iff (memory : Memory) (len : Nat)
    : IsUncompressed memory len
      ↔ ¬ (len < ldnHeaderSize
        ∨ (readLANPacketHeader (memory.read len)).magic ≠ ldnMagic
        ∨ (readLANPacketHeader (memory.read len)).compressed ≠ 0) := by
  push Not
  constructor
  · intro uncompressed
    rw [packetHeader_eq memory uncompressed.whole]
    exact ⟨uncompressed.whole, uncompressed.magic, uncompressed.uncompressed⟩
  · intro accepted
    rw [packetHeader_eq memory accepted.1] at accepted
    exact ⟨accepted.1, accepted.2.1, accepted.2.2⟩

theorem mem_addressOffsets_iff (memory : Memory) (len offset : Nat)
    : offset ∈ addressOffsets (memory.read len) ↔ AddressPlace memory len offset := by
  unfold addressOffsets
  rw [memory.read_length]
  dsimp only
  constructor
  · intro member
    split_ifs at member with rejected nodes short connect
    · cases member
    · cases member
    · have uncompressed := (isUncompressed_iff memory len).mpr rejected
      rw [packetHeader_eq memory uncompressed.whole] at nodes
      rw [nodeOffset_eq] at short
      have long : 180 ≤ len := by omega
      obtain ⟨listed, fits⟩ := mem_filter.mp member
      obtain ⟨i, below, rfl⟩ := mem_map.mp listed
      have counted := (mem_range'_1.mp below).2
      have inside := of_decide_eq_true fits
      rw [Nat.zero_add, readU8_nodeCount memory long] at counted
      rw [nodeOffset_eq] at inside ⊢
      exact .node uncompressed nodes long counted inside
    · have uncompressed := (isUncompressed_iff memory len).mpr rejected
      rw [packetHeader_eq memory uncompressed.whole] at connect
      rw [mem_singleton.mp member]
      exact .connect uncompressed connect.1 connect.2
    · cases member
  · intro place
    cases place with
    | @node i uncompressed type long counted inside =>
      rw [if_neg ((isUncompressed_iff memory len).mp uncompressed),
        packetHeader_eq memory uncompressed.whole, if_pos type, nodeOffset_eq,
        if_neg (by omega), readU8_nodeCount memory long]
      rw [← nodeOffset_eq] at inside ⊢
      refine mem_filter.mpr ⟨mem_map_of_mem ?_, decide_eq_true inside⟩
      exact mem_range'_1.mpr ⟨Nat.zero_le i, by rwa [Nat.zero_add]⟩
    | connect uncompressed type inside =>
      have other : ¬ ((packetHeader memory).type = LANPacketType.scanResp.toByte
          ∨ (packetHeader memory).type = LANPacketType.syncNetwork.toByte) := by
        rw [type]
        decide
      rw [if_neg ((isUncompressed_iff memory len).mp uncompressed),
        packetHeader_eq memory uncompressed.whole, if_neg other, if_pos ⟨type, inside⟩]
      exact mem_singleton.mpr rfl

theorem AddressPlace.inside {memory : Memory} (place : AddressPlace memory len offset)
    : offset + 4 ≤ len := by
  cases place with
  | node _ _ _ _ inside => exact inside
  | connect _ _ inside => exact inside

/-- What `ldn_bridge_rewrite_ips` changes: octets of the addresses of counted nodes that are the
WiFi address, which become the virtual address. It writes nothing behind the packet and nothing to
incoming packets, and a second call changes nothing more.
-/
theorem rewriteIps_frame (addresses : Addresses) (memory : Memory) (len : Nat)
    : (∀ position,
        rewriteIpsInPlace addresses true memory len position ≠ memory position
        → ∃ offset,
            AddressPlace memory len offset
            ∧ offset ≤ position
            ∧ position < offset + 4
            ∧ memory.loadLe32 offset = addresses.wifiIp.toNat
            ∧ addresses.wifiIp ≠ 0)
      ∧ (∀ offset,
          AddressPlace memory len offset
          → (rewriteIpsInPlace addresses true memory len).loadLe32 offset
            = if memory.loadLe32 offset = addresses.wifiIp.toNat ∧ addresses.wifiIp ≠ 0 then
                addresses.virtualIp.toNat
              else memory.loadLe32 offset)
      ∧ (∀ position ≥ len, rewriteIpsInPlace addresses true memory len position = memory position)
      ∧ rewriteIpsInPlace addresses false memory len = memory
      ∧ rewriteIpsInPlace addresses true (rewriteIpsInPlace addresses true memory len) len
        = rewriteIpsInPlace addresses true memory len := by
  have length : (rewriteIps addresses true (memory.read len)).length = len := by
    rw [rewriteIps_length, memory.read_length]
  have beyond (position : Nat) (behind : len ≤ position)
      : rewriteIpsInPlace addresses true memory len position = memory position := by
    rw [rewriteIpsInPlace_eq]
    exact memory.write_outside (.inr (by omega))
  refine ⟨?_, ?_, beyond, ?_, ?_⟩
  · intro position changed
    have below : position < len := Nat.not_le.mp (fun behind => changed (beyond position behind))
    rw [rewriteIpsInPlace_eq, memory.write_inside (Nat.zero_le position) (by omega), Nat.sub_zero,
      ← memory.getD_read below] at changed
    obtain ⟨offset, member, low, high, read, known⟩ := exists_place_of_changed addresses changed
    have place := (mem_addressOffsets_iff memory len offset).mp member
    rw [← memory.loadLe32_eq place.inside] at read
    exact ⟨offset, place, low, high, read, known⟩
  · intro offset place
    have member := (mem_addressOffsets_iff memory len offset).mpr place
    rw [rewriteIpsInPlace_eq, memory.loadLe32_write (place.inside.trans_eq length.symm),
      readLe32_rewriteIps addresses member, ← memory.loadLe32_eq place.inside, Addresses.replaced]
  · rw [rewriteIpsInPlace_eq, rewriteIps_incoming, memory.write_read]
  · have again := rewriteIpsInPlace_write addresses true memory
      (rewriteIps addresses true (memory.read len))
    rw [length, rewriteIps_rewriteIps] at again
    rw [rewriteIpsInPlace_eq addresses true memory, again]

end SwitchLanPlay.Sysmodule
