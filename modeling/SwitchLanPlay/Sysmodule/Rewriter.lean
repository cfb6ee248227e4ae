import SwitchLanPlay.LdnMitm.NetworkInfo
import SwitchLanPlay.LdnMitm.Protocol

/-! The address rewriter of the bridge: `ldn_bridge_rewrite_ips` replaces the console's WiFi
address in outgoing LDN packets by its virtual address.
-/

namespace SwitchLanPlay.Sysmodule

open List
open Foundation
open LdnMitm

variable {offsets : List Nat} {wifiIp : UInt32}

variable {data front : Bytes} {offset : Nat}

def niLdnOffset : Nat := 80
def niNodesOffset : Nat := niLdnOffset + 24
def niNodeSize : Nat := 64
def niNodeCount : Nat := 8
def niNodecountOffset : Nat := niLdnOffset + 23

def ldnHeaderSize : Nat := 12

def ldnMagic : Nat := 0x11451400

/-- The addresses the rewriter works with, both in host byte order: `g_wifi_ip`, zero while
it is not known, and `lp->my_ip`.
-/
structure Addresses where
  wifiIp : UInt32
  virtualIp : UInt32
deriving DecidableEq, Repr

def rewriteAt (addresses : Addresses) (data : Bytes) (offset : Nat) : Bytes :=
  if readLe32 data offset = addresses.wifiIp.toNat ∧ addresses.wifiIp ≠ 0 then
    patch data offset (le32 addresses.virtualIp.toNat)
  else data

/-- The loop over the counted nodes, from node `i` on, which ends early when a node's
address is not inside the packet.
-/
def rewriteNodes (addresses : Addresses) (outgoing : Bool) (bodyLen : Nat)
    : Nat → Nat → Bytes → Bytes
  | 0, _, data => data
  | remaining + 1, i, data =>
    let off := niNodesOffset + i * niNodeSize
    if bodyLen < off + 4 then data
    else
      rewriteNodes addresses outgoing bodyLen remaining (i + 1)
        (if outgoing then rewriteAt addresses data (ldnHeaderSize + off) else data)

def rewriteIps (addresses : Addresses) (outgoing : Bool) (data : Bytes) : Bytes :=
  let header := readLANPacketHeader data
  let bodyLen := data.length - ldnHeaderSize
  if data.length < ldnHeaderSize then data
  else if header.magic ≠ ldnMagic then data
  else if header.type ≠ LANPacketType.scanResp.toByte
      ∧ header.type ≠ LANPacketType.connect.toByte
      ∧ header.type ≠ LANPacketType.syncNetwork.toByte then data
  else if header.compressed ≠ 0 then data
  else if header.type = LANPacketType.scanResp.toByte
      ∨ header.type = LANPacketType.syncNetwork.toByte then
    if bodyLen < niNodesOffset + niNodeSize then data
    else
      let nodeCount :=
        if niNodecountOffset < bodyLen then readU8 data (ldnHeaderSize + niNodecountOffset)
        else 0
      rewriteNodes addresses outgoing bodyLen (min nodeCount niNodeCount) 0 data
  else if bodyLen < 4 then data
  else if outgoing then rewriteAt addresses data ldnHeaderSize
  else data

def Addresses.replace (addresses : Addresses) (node : NodeInfo) : NodeInfo :=
  if node.ipv4Address = addresses.wifiIp ∧ addresses.wifiIp ≠ 0 then
    { node with ipv4Address := addresses.virtualIp }
  else node

def Addresses.virtualize (addresses : Addresses) (info : NetworkInfo) : NetworkInfo :=
  {
    info with
    ldn :=
      {
        info.ldn with
        nodes := (info.ldn.nodes.take info.ldn.nodeCount.toNat).map addresses.replace
          ++ info.ldn.nodes.drop info.ldn.nodeCount.toNat
        nodes_length := by
          have length := info.ldn.nodes_length
          simp only [length_append, length_map, length_take, length_drop]
          omega
      }
  }

/-- Rewriting in place at the address of a node replaces the node. -/
theorem rewriteAt_node (addresses : Addresses) (front : Bytes) (node : NodeInfo) (rest : Bytes)
    : rewriteAt addresses (front ++ (node.toBytes ++ rest)) front.length
      = front ++ ((addresses.replace node).toBytes ++ rest) := by
  have read : readLe32 (front ++ (node.toBytes ++ rest)) front.length
      = node.ipv4Address.toNat := by
    have behind := readLe32_append_right front (node.toBytes ++ rest) 0
    rw [Nat.add_zero] at behind
    rw [behind, NodeInfo.toBytes, append_assoc, readLe32_le32_append]
    exact Nat.mod_eq_of_lt node.ipv4Address.toNat_lt
  unfold rewriteAt Addresses.replace
  simp only [read, UInt32.toNat_inj]
  split
  · rw [NodeInfo.toBytes, append_assoc,
      patch_append front (by rw [le32_length, le32_length]), NodeInfo.toBytes, append_assoc]
    rfl
  · rfl

/-- The loop replaces the counted nodes and nothing else.
Witness: by induction on the nodes to go, with the octets in front as the offset.
-/
theorem rewriteNodes_eq (addresses : Addresses) (bodyLen remaining i : Nat) (front : Bytes)
    (nodes : List NodeInfo) (rest : Bytes)
    (offset : front.length = ldnHeaderSize + (niNodesOffset + i * niNodeSize))
    (counted : remaining ≤ nodes.length)
    (inside : niNodesOffset + (i + nodes.length) * niNodeSize ≤ bodyLen)
    : rewriteNodes addresses true bodyLen remaining i
        (front ++ (nodes.flatMap NodeInfo.toBytes ++ rest))
      = front
        ++ (((nodes.take remaining).map addresses.replace ++ nodes.drop remaining).flatMap
              NodeInfo.toBytes ++ rest) := by
  induction remaining generalizing i front nodes with
  | zero => simp [rewriteNodes]
  | succ remaining ih =>
    cases nodes with
    | nil => simp at counted
    | cons node nodes =>
      have reaches : ¬ bodyLen < niNodesOffset + i * niNodeSize + 4 := by
        simp only [niNodesOffset, niNodeSize, length_cons] at inside ⊢
        omega
      have further : (front ++ (addresses.replace node).toBytes).length
          = ldnHeaderSize + (niNodesOffset + (i + 1) * niNodeSize) := by
        simp only [length_append, offset, NodeInfo.toBytes_length, niNodeSize]
        omega
      have below : niNodesOffset + (i + 1 + nodes.length) * niNodeSize ≤ bodyLen := by
        rw [length_cons] at inside
        rwa [Nat.add_assoc, Nat.add_comm 1]
      have next := ih (i + 1) (front ++ (addresses.replace node).toBytes) nodes further
        (Nat.le_of_succ_le_succ counted) below
      simp only [rewriteNodes, if_neg reaches, if_true, ← offset]
      rw [flatMap_cons, append_assoc, rewriteAt_node, ← append_assoc, next]
      simp only [take_succ_cons, map_cons, drop_succ_cons, cons_append,
        flatMap_cons, append_assoc]

/-- A compressed packet is left alone. -/
theorem rewriteIps_compressed (addresses : Addresses) (outgoing : Bool)
    (compressed : (readLANPacketHeader data).compressed ≠ 0)
    : rewriteIps addresses outgoing data = data := by
  unfold rewriteIps
  simp only [if_pos compressed]
  split_ifs <;> rfl

/-- An outgoing, uncompressed packet with a `NetworkInfo` gets its counted nodes replaced. -/
theorem rewriteIps_networkInfo (addresses : Addresses) {header : LANPacketHeader}
    (info : NetworkInfo)
    (read : readLANPacketHeader (header.toBytes ++ info.toBytes) = header)
    (magic : header.magic = ldnMagic) (raw : header.compressed = 0)
    (type
      : header.type = LANPacketType.scanResp.toByte
        ∨ header.type = LANPacketType.syncNetwork.toByte)
    : rewriteIps addresses true (header.toBytes ++ info.toBytes)
      = header.toBytes ++ (addresses.virtualize info).toBytes := by
  have body : (header.toBytes ++ info.toBytes).length - ldnHeaderSize = 1152 := by
    simp [LdnMitm.headerSize, ldnHeaderSize]
  have long : ¬ (header.toBytes ++ info.toBytes).length < ldnHeaderSize := by omega
  have count : readU8 (header.toBytes ++ info.toBytes) (ldnHeaderSize + niNodecountOffset)
      = info.ldn.nodeCount.toNat := by
    have behindHeader := readU8_append_right header.toBytes info.toBytes niNodecountOffset
    have behindHead := readU8_append_right info.headBytes
      (info.ldn.nodeCount :: (info.ldn.nodes.flatMap NodeInfo.toBytes ++ info.tailBytes)) 0
    rw [NetworkInfo.headBytes_length] at behindHead
    exact behindHeader.trans behindHead
  have listed : ¬ (header.type ≠ LANPacketType.scanResp.toByte
      ∧ header.type ≠ LANPacketType.connect.toByte
      ∧ header.type ≠ LANPacketType.syncNetwork.toByte) := by
    rintro ⟨notScanResp, _, notSyncNetwork⟩
    exact type.elim notScanResp notSyncNetwork
  have bounded : min info.ldn.nodeCount.toNat niNodeCount ≤ info.ldn.nodes.length := by
    rw [info.ldn.nodes_length]
    exact Nat.min_le_right _ _
  have fold : header.toBytes ++ info.toBytes
      = (header.toBytes ++ (info.headBytes ++ [info.ldn.nodeCount]))
        ++ (info.ldn.nodes.flatMap NodeInfo.toBytes ++ info.tailBytes) := by
    simp [NetworkInfo.toBytes]
  have loop := rewriteNodes_eq addresses 1152 (min info.ldn.nodeCount.toNat niNodeCount) 0
    (header.toBytes ++ (info.headBytes ++ [info.ldn.nodeCount])) info.ldn.nodes info.tailBytes
    (by simp [LdnMitm.headerSize, ldnHeaderSize, niNodesOffset, niLdnOffset]) bounded
    (by rw [info.ldn.nodes_length]; decide)
  have clipped (nodes : List NodeInfo) (length : nodes.length = niNodeCount) (count : Nat)
      : (nodes.take (min count niNodeCount)).map addresses.replace
          ++ nodes.drop (min count niNodeCount)
        = (nodes.take count).map addresses.replace ++ nodes.drop count := by
    rcases Nat.le_total count niNodeCount with within | beyond
    · rw [Nat.min_eq_left within]
    · rw [Nat.min_eq_right beyond, take_of_length_le length.le,
        drop_of_length_le length.le, take_of_length_le (length.trans_le beyond),
        drop_of_length_le (length.trans_le beyond)]
  have full : ¬ 1152 < niNodesOffset + niNodeSize := by decide
  have counting : niNodecountOffset < 1152 := by decide
  unfold rewriteIps
  simp only [read, body, if_neg long, magic, ne_eq, not_true_eq_false, if_false, if_neg listed,
    raw, if_pos type, count, if_neg full, if_pos counting]
  rw [fold, loop, clipped info.ldn.nodes info.ldn.nodes_length]
  simp [NetworkInfo.toBytes, Addresses.virtualize, NetworkInfo.headBytes,
    NetworkInfo.tailBytes]

-- The places of node addresses

def nodeOffset (i : Nat) : Nat := ldnHeaderSize + (niNodesOffset + i * niNodeSize)

def addressOffsets (data : Bytes) : List Nat :=
  let header := readLANPacketHeader data
  if data.length < ldnHeaderSize ∨ header.magic ≠ ldnMagic ∨ header.compressed ≠ 0 then []
  else if header.type = LANPacketType.scanResp.toByte
      ∨ header.type = LANPacketType.syncNetwork.toByte then
    if data.length < nodeOffset 1 then []
    else
      ((range' 0 (min (readU8 data (ldnHeaderSize + niNodecountOffset)) niNodeCount)).map
        nodeOffset).filter (· + 4 ≤ data.length)
  else if header.type = LANPacketType.connect.toByte ∧ ldnHeaderSize + 4 ≤ data.length then
    [ldnHeaderSize]
  else []

def Carries (wifiIp : UInt32) (data : Bytes) : Prop :=
  ∃ offset ∈ addressOffsets data, readLe32 data offset = wifiIp.toNat

instance (wifiIp : UInt32) (data : Bytes) : Decidable (Carries wifiIp data) :=
  inferInstanceAs (Decidable (∃ offset ∈ addressOffsets data, _))

def Addresses.replaced (addresses : Addresses) (value : Nat) : Nat :=
  if value = addresses.wifiIp.toNat ∧ addresses.wifiIp ≠ 0 then addresses.virtualIp.toNat
  else value

theorem addressOffsets_inside (member : offset ∈ addressOffsets data)
    : offset + 4 ≤ data.length := by
  unfold addressOffsets at member
  dsimp only at member
  split_ifs at member with rejected nodes short connect
  · cases member
  · cases member
  · exact of_decide_eq_true (mem_filter.mp member).2
  · rw [mem_singleton.mp member]
    exact connect.2
  · cases member

/-- No two addresses overlap. -/
theorem addressOffsets_apart (data : Bytes)
    : (addressOffsets data).Pairwise (fun left right => left + 4 ≤ right) := by
  unfold addressOffsets
  dsimp only
  split_ifs
  · exact .nil
  · exact .nil
  · apply List.Pairwise.filter
    rw [pairwise_map]
    refine (pairwise_lt_range' (s := 0)).imp fun {left right} less => ?_
    simp only [nodeOffset, niNodeSize]
    omega
  · exact pairwise_singleton _ _
  · exact .nil

/-- The loop visits the places inside the packet: the first one outside ends it, and those
behind it are outside as well.
-/
theorem rewriteNodes_eq_foldl (addresses : Addresses) (bodyLen remaining i : Nat) (data : Bytes)
    : rewriteNodes addresses true bodyLen remaining i data
      = (((range' i remaining).map nodeOffset).filter
          (· + 4 ≤ ldnHeaderSize + bodyLen)).foldl (rewriteAt addresses) data := by
  induction remaining generalizing i data with
  | zero => rfl
  | succ remaining ih =>
    by_cases outside : bodyLen < niNodesOffset + i * niNodeSize + 4
    · have none : ((range' i (remaining + 1)).map nodeOffset).filter
          (· + 4 ≤ ldnHeaderSize + bodyLen) = [] := by
        rw [filter_eq_nil_iff]
        intro offset member
        obtain ⟨j, listed, rfl⟩ := mem_map.mp member
        have low := (mem_range'_1.mp listed).1
        rw [decide_eq_true_eq]
        simp only [nodeOffset, niNodeSize] at outside ⊢
        omega
      rw [none, foldl_nil, rewriteNodes, if_pos outside]
    · have inside : nodeOffset i + 4 ≤ ldnHeaderSize + bodyLen := by
        simp only [nodeOffset]
        omega
      rw [range'_succ, map_cons, filter_cons_of_pos (by simpa using inside),
        foldl_cons, rewriteNodes, if_neg outside, if_pos rfl, ih]
      rfl

/-- Packets the rewriter does not look into have no places. -/
theorem rewriteIps_rejected (addresses : Addresses)
    (rejected
      : data.length < ldnHeaderSize
        ∨ (readLANPacketHeader data).magic ≠ ldnMagic
        ∨ (readLANPacketHeader data).compressed ≠ 0)
    : rewriteIps addresses true data = data ∧ addressOffsets data = [] := by
  constructor
  · rcases rejected with short | magic | compressed
    · rw [rewriteIps, if_pos short]
    · rw [rewriteIps, if_pos magic, ite_self]
    · exact rewriteIps_compressed addresses true compressed
  · rw [addressOffsets, if_pos rejected]

/-- The loop over the nodes visits their places. -/
theorem rewriteIps_nodes (addresses : Addresses)
    (accepted
      : ¬ (data.length < ldnHeaderSize
        ∨ (readLANPacketHeader data).magic ≠ ldnMagic
        ∨ (readLANPacketHeader data).compressed ≠ 0))
    (nodes
      : (readLANPacketHeader data).type = LANPacketType.scanResp.toByte
        ∨ (readLANPacketHeader data).type = LANPacketType.syncNetwork.toByte)
    : rewriteIps addresses true data
      = (addressOffsets data).foldl (rewriteAt addresses) data := by
  have listed : ¬ ((readLANPacketHeader data).type ≠ LANPacketType.scanResp.toByte
      ∧ (readLANPacketHeader data).type ≠ LANPacketType.connect.toByte
      ∧ (readLANPacketHeader data).type ≠ LANPacketType.syncNetwork.toByte) := by
    rintro ⟨notScanResp, _, notSyncNetwork⟩
    exact nodes.elim notScanResp notSyncNetwork
  obtain ⟨long, magic, raw⟩ := not_or.mp accepted |>.imp_right not_or.mp
  rw [rewriteIps, addressOffsets, if_neg accepted, if_pos nodes, if_neg long, if_neg magic,
    if_neg listed, if_neg raw, if_pos nodes]
  have body : ldnHeaderSize + (data.length - ldnHeaderSize) = data.length := by omega
  by_cases few : data.length < nodeOffset 1
  · have fewBody : data.length - ldnHeaderSize < niNodesOffset + niNodeSize := by
      simp only [nodeOffset, Nat.one_mul] at few
      omega
    rw [if_pos few, if_pos fewBody, foldl_nil]
  · have fullBody : ¬ data.length - ldnHeaderSize < niNodesOffset + niNodeSize := by
      simp only [nodeOffset, Nat.one_mul] at few
      omega
    have counting : niNodecountOffset < data.length - ldnHeaderSize := by
      simp only [niNodecountOffset, niNodesOffset, niNodeSize] at fullBody ⊢
      omega
    rw [if_neg few, if_neg fullBody, if_pos counting, rewriteNodes_eq_foldl, body]

/-- The rewriter of outgoing packets visits every place of a counted node's address. -/
theorem rewriteIps_eq_foldl (addresses : Addresses) (data : Bytes)
    : rewriteIps addresses true data
      = (addressOffsets data).foldl (rewriteAt addresses) data := by
  by_cases rejected : data.length < ldnHeaderSize
      ∨ (readLANPacketHeader data).magic ≠ ldnMagic
      ∨ (readLANPacketHeader data).compressed ≠ 0
  · obtain ⟨unchanged, nowhere⟩ := rewriteIps_rejected addresses rejected
    rw [unchanged, nowhere, foldl_nil]
  by_cases nodes : (readLANPacketHeader data).type = LANPacketType.scanResp.toByte
      ∨ (readLANPacketHeader data).type = LANPacketType.syncNetwork.toByte
  · exact rewriteIps_nodes addresses rejected nodes
  obtain ⟨long, magic, raw⟩ := not_or.mp rejected |>.imp_right not_or.mp
  rw [rewriteIps, addressOffsets, if_neg rejected, if_neg nodes, if_neg long, if_neg magic]
  by_cases connect : (readLANPacketHeader data).type = LANPacketType.connect.toByte
  · have listed : ¬ ((readLANPacketHeader data).type ≠ LANPacketType.scanResp.toByte
        ∧ (readLANPacketHeader data).type ≠ LANPacketType.connect.toByte
        ∧ (readLANPacketHeader data).type ≠ LANPacketType.syncNetwork.toByte) :=
      fun unlisted => unlisted.2.1 connect
    rw [if_neg listed, if_neg raw, if_neg nodes]
    by_cases node : ldnHeaderSize + 4 ≤ data.length
    · have full : ¬ data.length - ldnHeaderSize < 4 := by omega
      rw [if_neg full, if_pos rfl, if_pos ⟨connect, node⟩, foldl_cons, foldl_nil]
    · have empty : data.length - ldnHeaderSize < 4 := by omega
      rw [if_pos empty, if_neg (not_and_of_not_right _ node), foldl_nil]
  · obtain ⟨notScanResp, notSyncNetwork⟩ := not_or.mp nodes
    have unplaced : ¬ ((readLANPacketHeader data).type = LANPacketType.connect.toByte
        ∧ ldnHeaderSize + 4 ≤ data.length) := fun both => connect both.1
    rw [if_pos ⟨notScanResp, connect, notSyncNetwork⟩, if_neg nodes, if_neg unplaced,
      foldl_nil]

theorem rewriteAt_length (addresses : Addresses) (inside : offset + 4 ≤ data.length)
    : (rewriteAt addresses data offset).length = data.length := by
  unfold rewriteAt
  split
  · exact patch_length inside
  · rfl

theorem readLe32_rewriteAt (addresses : Addresses) (inside : offset + 4 ≤ data.length)
    : readLe32 (rewriteAt addresses data offset) offset
      = addresses.replaced (readLe32 data offset) := by
  unfold rewriteAt Addresses.replaced
  split
  · rw [readLe32_patch_le32 inside]
    exact Nat.mod_eq_of_lt addresses.virtualIp.toNat_lt
  · rfl

theorem readLe32_rewriteAt_apart (addresses : Addresses) {other : Nat}
    (inside : offset + 4 ≤ data.length) (apart : other + 4 ≤ offset ∨ offset + 4 ≤ other)
    : readLe32 (rewriteAt addresses data offset) other = readLe32 data other := by
  unfold rewriteAt
  split
  · exact readLe32_patch_apart inside apart
  · rfl

/-- An address that is its own replacement is written back as it is. -/
theorem rewriteAt_self {addresses : Addresses} (inside : offset + 4 ≤ data.length)
    (same : addresses.replaced (readLe32 data offset) = readLe32 data offset)
    : rewriteAt addresses data offset = data := by
  unfold rewriteAt
  unfold Addresses.replaced at same
  split
  · rename_i hit
    rw [if_pos hit] at same
    rw [same]
    exact patch_readLe32 inside
  · rfl

/-- Places that are not visited keep their octets. -/
theorem readLe32_foldl_apart (addresses : Addresses) {other : Nat}
    (inside : ∀ offset ∈ offsets, offset + 4 ≤ data.length)
    (apart : ∀ offset ∈ offsets, other + 4 ≤ offset ∨ offset + 4 ≤ other)
    : readLe32 (offsets.foldl (rewriteAt addresses) data) other = readLe32 data other := by
  induction offsets generalizing data with
  | nil => rfl
  | cons offset offsets ih =>
    rw [forall_mem_cons] at inside apart
    have kept := rewriteAt_length addresses inside.1
    rw [foldl_cons,
      ih (fun next member => (inside.2 next member).trans_eq kept.symm) apart.2,
      readLe32_rewriteAt_apart addresses inside.1 apart.1]

/-- A visited place is rewritten once, from the address that was there at the start. -/
theorem readLe32_foldl_mem (addresses : Addresses)
    (inside : ∀ offset ∈ offsets, offset + 4 ≤ data.length)
    (ordered : offsets.Pairwise (fun left right => left + 4 ≤ right)) (member : offset ∈ offsets)
    : readLe32 (offsets.foldl (rewriteAt addresses) data) offset
      = addresses.replaced (readLe32 data offset) := by
  induction offsets generalizing data with
  | nil => cases member
  | cons first offsets ih =>
    rw [forall_mem_cons] at inside
    obtain ⟨before, ordered⟩ := pairwise_cons.mp ordered
    have kept := rewriteAt_length addresses inside.1
    have insideNext (next : Nat) (listed : next ∈ offsets)
        : next + 4 ≤ (rewriteAt addresses data first).length :=
      (inside.2 next listed).trans_eq kept.symm
    rw [foldl_cons]
    rcases mem_cons.mp member with rfl | listed
    · rw [readLe32_foldl_apart addresses insideNext fun next listed => .inl (before next listed),
        readLe32_rewriteAt addresses inside.1]
    · rw [ih insideNext ordered listed,
        readLe32_rewriteAt_apart addresses inside.1 (.inr (before offset listed))]

theorem foldl_rewriteAt_self {addresses : Addresses}
    (inside : ∀ offset ∈ offsets, offset + 4 ≤ data.length)
    (same : ∀ offset ∈ offsets,
      addresses.replaced (readLe32 data offset) = readLe32 data offset)
    : offsets.foldl (rewriteAt addresses) data = data := by
  induction offsets with
  | nil => rfl
  | cons offset offsets ih =>
    rw [forall_mem_cons] at inside same
    rw [foldl_cons, rewriteAt_self inside.1 same.1, ih inside.2 same.2]

/-- The address of a counted node is replaced, whatever the packet. -/
theorem readLe32_rewriteIps (addresses : Addresses) (member : offset ∈ addressOffsets data)
    : readLe32 (rewriteIps addresses true data) offset
      = addresses.replaced (readLe32 data offset) := by
  rw [rewriteIps_eq_foldl]
  exact readLe32_foldl_mem addresses (fun _ listed => addressOffsets_inside listed)
    (addressOffsets_apart data) member

theorem rewriteIps_length (addresses : Addresses) (data : Bytes)
    : (rewriteIps addresses true data).length = data.length := by
  have kept (offsets : List Nat) (data : Bytes)
      (inside : ∀ offset ∈ offsets, offset + 4 ≤ data.length)
      : (offsets.foldl (rewriteAt addresses) data).length = data.length := by
    induction offsets generalizing data with
    | nil => rfl
    | cons offset offsets ih =>
      rw [forall_mem_cons] at inside
      have same := rewriteAt_length addresses inside.1
      rw [foldl_cons,
        ih _ fun next listed => (inside.2 next listed).trans_eq same.symm, same]
  rw [rewriteIps_eq_foldl]
  exact kept _ _ fun _ listed => addressOffsets_inside listed

/-- What the rewriter does to a packet shows exactly when the WiFi address is known, differs
from the virtual one and stands in a counted node.
-/
theorem rewriteIps_eq_self_iff (addresses : Addresses) (data : Bytes)
    : rewriteIps addresses true data = data
      ↔ addresses.wifiIp = 0 ∨ addresses.wifiIp = addresses.virtualIp
        ∨ ¬ Carries addresses.wifiIp data := by
  constructor
  · intro same
    by_contra differs
    push Not at differs
    obtain ⟨known, other, offset, member, read⟩ := differs
    have rewritten := readLe32_rewriteIps addresses member
    rw [same, Addresses.replaced, if_pos ⟨read, known⟩, read, UInt32.toNat_inj] at rewritten
    exact other rewritten
  · intro quiet
    rw [rewriteIps_eq_foldl]
    apply foldl_rewriteAt_self fun _ listed => addressOffsets_inside listed
    intro offset member
    unfold Addresses.replaced
    split
    · rename_i hit
      rcases quiet with unknown | equal | absent
      · exact absurd unknown hit.2
      · rw [hit.1, equal]
      · exact absurd ⟨offset, member, hit.1⟩ absent
    · rfl

theorem readLANPacketHeader_append (long : ldnHeaderSize ≤ front.length) (rest : Bytes)
    : readLANPacketHeader (front ++ rest) = readLANPacketHeader front := by
  rw [← readLANPacketHeader_take,
    take_append_of_le_length (show headerSize ≤ front.length from long),
    readLANPacketHeader_take]

/-- The places in the front of a packet are places in the whole of it. -/
theorem addressOffsets_append_left (rest : Bytes) (member : offset ∈ addressOffsets front)
    : offset ∈ addressOffsets (front ++ rest) := by
  have length : (front ++ rest).length = front.length + rest.length := length_append
  unfold addressOffsets at member ⊢
  dsimp only at member ⊢
  split_ifs at member with rejected nodes short connect
  · cases member
  · cases member
  · have long : ldnHeaderSize ≤ front.length := by omega
    have count : readU8 (front ++ rest) (ldnHeaderSize + niNodecountOffset)
        = readU8 front (ldnHeaderSize + niNodecountOffset) := by
      apply readU8_append_left
      simp only [nodeOffset, niNodecountOffset, niNodesOffset, niNodeSize] at short ⊢
      omega
    obtain ⟨listed, fits⟩ := mem_filter.mp member
    have within := of_decide_eq_true fits
    rw [readLANPacketHeader_append long, length, count,
      if_neg fun refused => rejected (refused.imp_left (by omega)), if_pos nodes,
      if_neg (by omega)]
    exact mem_filter.mpr ⟨listed, decide_eq_true (by omega)⟩
  · have long : ldnHeaderSize ≤ front.length := by omega
    rw [readLANPacketHeader_append long, length,
      if_neg fun refused => rejected (refused.imp_left (by omega)), if_neg nodes,
      if_pos ⟨connect.1, by omega⟩]
    exact member
  · cases member

theorem nodeOffset_add_le {i : Nat} (below : i < niNodeCount)
    : nodeOffset i + 4 ≤ nodeOffset niNodeCount := by
  simp only [nodeOffset, niNodeCount, niNodeSize] at below ⊢
  omega

/-- No place lies behind the eighth node. -/
theorem addressOffsets_append_right (long : nodeOffset niNodeCount ≤ front.length) (rest : Bytes)
    : addressOffsets (front ++ rest) = addressOffsets front := by
  have length : (front ++ rest).length = front.length + rest.length := length_append
  have reach : ldnHeaderSize + niNodecountOffset < front.length
      ∧ nodeOffset 1 ≤ front.length ∧ ldnHeaderSize + 4 ≤ front.length := by
    simp only [nodeOffset, niNodeCount, niNodeSize, niNodesOffset, niNodecountOffset] at long ⊢
    omega
  have same (bound : Nat) (large : front.length ≤ bound) (count : Nat)
      : ((range' 0 (min count niNodeCount)).map nodeOffset).filter (· + 4 ≤ bound)
        = (range' 0 (min count niNodeCount)).map nodeOffset := by
    rw [filter_eq_self]
    intro offset member
    obtain ⟨i, listed, rfl⟩ := mem_map.mp member
    have below : i < niNodeCount := by
      have := (mem_range'_1.mp listed).2
      omega
    exact decide_eq_true (((nodeOffset_add_le below).trans long).trans large)
  have header : ldnHeaderSize ≤ front.length := by omega
  unfold addressOffsets
  dsimp only
  rw [readLANPacketHeader_append header, readU8_append_left reach.1,
    same _ (by omega), same _ le_rfl, length]
  simp only [show ¬ front.length + rest.length < ldnHeaderSize by omega,
    show ¬ front.length < ldnHeaderSize by omega,
    show ¬ front.length + rest.length < nodeOffset 1 by omega,
    show ¬ front.length < nodeOffset 1 by omega,
    show ldnHeaderSize + 4 ≤ front.length + rest.length by omega, reach.2.2]

/-- A packet carries what its front carries. -/
theorem Carries.append (carries : Carries wifiIp front) (rest : Bytes)
    : Carries wifiIp (front ++ rest) := by
  obtain ⟨offset, member, read⟩ := carries
  refine ⟨offset, addressOffsets_append_left rest member, ?_⟩
  rw [readLe32_append_left (addressOffsets_inside member), read]

/-- A buffer of 2048 octets is long enough for all counted nodes. -/
theorem addressOffsets_take (data : Bytes)
    : addressOffsets (data.take 2048) = addressOffsets data := by
  by_cases whole : data.length ≤ 2048
  · rw [take_of_length_le whole]
  · have long : nodeOffset niNodeCount ≤ (data.take 2048).length := by
      rw [length_take, Nat.min_eq_left (by omega)]
      decide
    have places := addressOffsets_append_right long (data.drop 2048)
    rwa [take_append_drop, eq_comm] at places

theorem readLe32_take (member : offset ∈ addressOffsets data)
    : readLe32 (data.take 2048) offset = readLe32 data offset := by
  rw [← addressOffsets_take] at member
  have kept := readLe32_append_left (addressOffsets_inside member) (data.drop 2048)
  rwa [take_append_drop, eq_comm] at kept

theorem Carries.take (carries : Carries wifiIp data) : Carries wifiIp (data.take 2048) := by
  obtain ⟨offset, member, read⟩ := carries
  exact ⟨offset, by rwa [addressOffsets_take], (readLe32_take member).trans read⟩

/-- Only packets with a whole header and the magic number carry addresses. -/
theorem Carries.isLdn (carries : Carries wifiIp data)
    : ldnHeaderSize ≤ data.length ∧ (readLANPacketHeader data).magic = ldnMagic := by
  obtain ⟨offset, member, _⟩ := carries
  unfold addressOffsets at member
  dsimp only at member
  split at member
  · cases member
  · rename_i accepted
    push Not at accepted
    exact ⟨accepted.1, accepted.2.1⟩

end SwitchLanPlay.Sysmodule
