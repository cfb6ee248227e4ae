import SwitchLanPlay.Client.Provenance
import SwitchLanPlay.Sysmodule.Refinement

/-! Reassembly against arbitrary datagrams, in the PC client and in the sysmodule: bounds of its
accesses, and where the octets of a reassembled packet come from.
-/

namespace SwitchLanPlay.Sysmodule

open Foundation
open Packet
open Client (LanClientFragmentHeader FragTable Handed SlotSearch pcSearch
  readFragmentHeader readFragmentHeader? isRejected lcFragCount lcFragHeaderLen
  fragReceiver fragView accepted_sizes ReassemblySafe Supplied FillsPacket)

theorem claimSlot_claimed {table claimed : FragTable} {header : LanClientFragmentHeader}
    {index : Fin lcFragCount} (claim : claimSlot table header = some (claimed, index))
    : table.Claimed header claimed index := by
  unfold claimSlot at claim
  split at claim
  · rename_i matched
    cases claim
    exact .found matched
  · rename_i missing _
    cases claim
    exact .taken missing
  · cases claim

def switchSearch : SlotSearch := ⟨claimSlot, claimSlot_claimed⟩

/-- The second check of the sizes repeats the first. -/
theorem collectFragment_eq_collect (table : FragTable) (packet : Bytes)
    : collectFragment table packet = switchSearch.collect table packet := by
  have search : switchSearch.claim table (readFragmentHeader packet)
      = claimSlot table (readFragmentHeader packet) := by
    rw [switchSearch]
  cases rejected : isRejected packet (readFragmentHeader packet) with
  | true => simp only [collectFragment, SlotSearch.collect, rejected, if_true]
  | false =>
    obtain ⟨_, _, _, _, positive, _, _, fits⟩ := accepted_sizes rejected
    simp only [collectFragment, SlotSearch.collect, rejected, Bool.false_eq_true, if_false,
      search]
    cases claimSlot table (readFragmentHeader packet) with
    | none => rfl
    | some claimed => simp only [positive, fits, and_self, if_true]

/-- `lan_client_process_frag` of the sysmodule, up to its call of `lan_client_process`, with checked
accesses.
-/
def collectFragment? (table : FragTable) (packet : Bytes)
    : Option (FragTable × Option Handed) :=
  if packet.length < lcFragHeaderLen then some (table, none)
  else do
    let header ← readFragmentHeader? packet
    if isRejected packet header then return (table, none)
    match claimSlot table header with
    | none => return (table, none)
    | some (claimed, index) =>
      if 0 < header.pmtu ∧ header.pmtu * header.part + header.len ≤ etherMtu then
        let slot ← (claimed.frags index).store? header packet
        if slot.isFinished header then
          return (⟨Function.update claimed.frags index { slot with used := false },
            claimed.localId⟩, some ⟨slot.buffer, slot.totalLen⟩)
        else return (⟨Function.update claimed.frags index slot, claimed.localId⟩, none)
      else return (claimed, none)

/-- No access of the sysmodule's reassembly is outside. -/
theorem collectFragment?_eq (table : FragTable) (packet : Bytes)
    : collectFragment? table packet = some (collectFragment table packet) := by
  unfold collectFragment? collectFragment
  dsimp only
  by_cases short : packet.length < lcFragHeaderLen
  · have rejected : isRejected packet (readFragmentHeader packet) = true := by
      simp [isRejected, short]
    rw [if_pos short, if_pos rejected]
  · rw [if_neg short, Client.readFragmentHeader?_eq (Nat.not_lt.mp short)]
    dsimp only [bind, Option.bind]
    cases rejected : isRejected packet (readFragmentHeader packet) with
    | true => rfl
    | false =>
      obtain ⟨_, _, _, _, positive, _, _, fits⟩ := accepted_sizes rejected
      cases claimSlot table (readFragmentHeader packet) with
      | none => rfl
      | some claimed =>
        simp only [Client.LanClientFragment.store?_eq _ rejected, Bool.false_eq_true, if_false,
          positive, fits, and_self, if_true]
        split <;> rfl

/-- Reassembly is safe in both clients, whatever datagrams arrive. -/
theorem reassembly_safe (packets : List Bytes)
    : ReassemblySafe Client.lanClientProcessFrag? packets
      ∧ ReassemblySafe collectFragment? packets := by
  refine ⟨pcSearch.reassemblySafe ?_ packets, switchSearch.reassemblySafe ?_ packets⟩
  · intro table packet
    rw [Client.lanClientProcessFrag?_eq, Client.lanClientProcessFrag_eq_collect]
  · intro table packet
    rw [collectFragment?_eq, collectFragment_eq_collect]

-- Stale octets

/-- The records of fragments belong to what the two receivers hand on. -/
theorem trackers_receive (packets : List Bytes)
    : (pcSearch.tracker.outputs .init packets).map (Option.map Prod.fst)
        = fragReceiver.outputs .init packets
      ∧ (switchSearch.tracker.outputs .init packets).map (Option.map Prod.fst)
        = switchFragReceiver.outputs .init packets := by
  have pc : pcSearch.receiver = fragReceiver :=
    congrArg Machine.mk
      (funext₂ fun table packet => (Client.lanClientProcessFrag_eq_collect table packet).symm)
  have console : switchSearch.receiver = switchFragReceiver :=
    congrArg Machine.mk
      (funext₂ fun table packet => (collectFragment_eq_collect table packet).symm)
  rw [← pc, ← console]
  exact ⟨(pcSearch.tracker_receiver packets).2, (switchSearch.tracker_receiver packets).2⟩

/-- In both clients a packet that is handed on consists of the fragments that were accepted into
its slot since the slot was taken exactly when one of them ends the packet and they fill it up to
the end given last.
-/
theorem packet_supplied_iff (packets : List Bytes) (handed : Handed) (fragments : List Bytes)
    : (some (handed, fragments) ∈ pcSearch.tracker.outputs .init packets
        → (Supplied fragments handed ↔ FillsPacket fragments))
      ∧ (some (handed, fragments) ∈ switchSearch.tracker.outputs .init packets
        → (Supplied fragments handed ↔ FillsPacket fragments)) :=
  ⟨pcSearch.supplied_iff, switchSearch.supplied_iff⟩

def partOf (id part totalPart pmtu : Nat) (data : Bytes) : Bytes :=
  (⟨⟨10, 13, 0, 1⟩, ⟨10, 13, 0, 2⟩, id, part, totalPart, data.length, pmtu⟩
    : LanClientFragmentHeader).toBytes ++ data

def wholePart : Bytes := partOf 1 0 1 4 [1, 2, 3, 4]

theorem wholePart_fills : FillsPacket [wholePart] :=
  ⟨wholePart, by decide +kernel, by decide +kernel⟩

/-- An output of a tracker from what is seen of it. -/
theorem exists_tracked {search : SlotSearch} {packets fragments : List Bytes} {position len : Nat}
    {index : Fin etherMtu} {octet : UInt8}
    (seen
      : (search.tracker.outputs .init packets)[position]?.bind
          (Option.map (fun handed => (handed.1.len, handed.1.buffer index, handed.2)))
        = some (len, octet, fragments))
    : ∃ handed,
        some (handed, fragments) ∈ search.tracker.outputs .init packets
        ∧ handed.len = len
        ∧ handed.buffer index = octet := by
  obtain ⟨output, listed, present⟩ := Option.bind_eq_some_iff.mp seen
  obtain ⟨⟨handed, recorded⟩, same, equal⟩ := Option.map_eq_some_iff.mp present
  cases equal
  rw [same] at listed
  exact ⟨handed, List.mem_of_getElem? listed, rfl, rfl⟩

theorem two_lt_etherMtu : 2 < etherMtu := by decide

theorem packet_supplied_iff_whole
    : (∃ handed,
        some (handed, [wholePart]) ∈ pcSearch.tracker.outputs .init [wholePart]
        ∧ Supplied [wholePart] handed)
      ∧ ∃ handed,
          some (handed, [wholePart]) ∈ switchSearch.tracker.outputs .init [wholePart]
          ∧ Supplied [wholePart] handed := by
  have pc := @exists_tracked pcSearch [wholePart] [wholePart] 0 4 ⟨2, two_lt_etherMtu⟩ 3
    (by decide +kernel)
  have console := @exists_tracked switchSearch [wholePart] [wholePart] 0 4 ⟨2, two_lt_etherMtu⟩ 3
    (by decide +kernel)
  refine ⟨?_, ?_⟩
  · obtain ⟨handed, output, _, _⟩ := pc
    have supplied := (packet_supplied_iff [wholePart] handed [wholePart]).1 output
    exact ⟨handed, output, supplied.mpr wholePart_fills⟩
  · obtain ⟨handed, output, _, _⟩ := console
    have supplied := (packet_supplied_iff [wholePart] handed [wholePart]).2 output
    exact ⟨handed, output, supplied.mpr wholePart_fills⟩

/-- Behind a packet of one part the second of three parts and the first of two, under one
identifier.
-/
def mixedParts : List Bytes := [partOf 2 1 3 1 [8], partOf 2 0 2 1 [9]]

theorem mixedParts_unsupplied (handed : Handed) : ¬ Supplied mixedParts handed := by
  rintro ⟨⟨fragment, member, last, _⟩, _⟩
  have none : ∀ fragment ∈ mixedParts, (readFragmentHeader fragment).isLast = false := by
    decide +kernel
  rw [none fragment member] at last
  cases last

/-- The two parts fill the mask of two parts, but neither gives a length: the packet has the length
and the last two octets of the packet that used the slot before.
-/
theorem stale_packet_handed
    : (∃ handed,
        some (handed, mixedParts)
            ∈ pcSearch.tracker.outputs .init (wholePart :: mixedParts)
        ∧ handed.len = 4
        ∧ handed.buffer ⟨2, two_lt_etherMtu⟩ = 3
        ∧ ¬ Supplied mixedParts handed)
      ∧ ∃ handed,
          some (handed, mixedParts)
              ∈ switchSearch.tracker.outputs .init (wholePart :: mixedParts)
          ∧ handed.len = 4
          ∧ handed.buffer ⟨2, two_lt_etherMtu⟩ = 3
          ∧ ¬ Supplied mixedParts handed := by
  have pc := @exists_tracked pcSearch (wholePart :: mixedParts) mixedParts 2 4
    ⟨2, two_lt_etherMtu⟩ 3 (by decide +kernel)
  have console := @exists_tracked switchSearch (wholePart :: mixedParts) mixedParts 2 4
    ⟨2, two_lt_etherMtu⟩ 3 (by decide +kernel)
  refine ⟨?_, ?_⟩
  · obtain ⟨handed, output, length, octet⟩ := pc
    exact ⟨handed, output, length, octet, mixedParts_unsupplied handed⟩
  · obtain ⟨handed, output, length, octet⟩ := console
    exact ⟨handed, output, length, octet, mixedParts_unsupplied handed⟩

end SwitchLanPlay.Sysmodule
