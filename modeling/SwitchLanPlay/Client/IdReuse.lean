import SwitchLanPlay.Client.PacketParts

/-! Fragment identifiers come back: the counter starts again at 0 with the client and has 16 bits
on the wire, while an incomplete packet has no age limit. Under any loss and reordering, packets
handed on were sent, as long as no fragment meets a slot of another packet.
-/

namespace SwitchLanPlay.Client

open List
open Foundation
open Packet

variable {arrival : FragmentArrival} {sending : Sending} {slot : LanClientFragment}

-- Senders

def minFragPayloadLen : Nat := 500

/-- What happens at one client: it is started with a path MTU option, or it sends a packet
whose length fits the `uint16_t` argument of `lan_client_send`.
-/
inductive ClientEvent where
  | start (pmtu : Nat)
  | send (packet : Bytes) (width : packet.length < 65536)

/-- The sender's part of `lan_client_init`, which ends the process for a small path MTU. -/
def lanClientInit (pmtu : Nat) : Option LanClientSender :=
  if pmtu ≠ 0 ∧ pmtu < minFragPayloadLen then none else some ⟨pmtu, 0⟩

def sentBy : Option LanClientSender → List ClientEvent → List Sending
  | _, [] => []
  | _, .start pmtu :: rest => sentBy (lanClientInit pmtu) rest
  | none, .send _ _ :: rest => sentBy none rest
  | some sender, .send packet _ :: rest =>
    ⟨sender, packet⟩
      :: sentBy (some (lanClientSend (fun _ => 0) sender .ipv4 packet).sender) rest

def Sending.IsFragmented (sending : Sending) : Prop :=
  0 < sending.sender.pmtu ∧ sending.sender.pmtu < sending.packet.length

theorem lanClientSend_pmtu (udpSend : Bytes → Int) (sender : LanClientSender)
    (type : LanClientType) (packet : Bytes)
    : (lanClientSend udpSend sender type packet).sender.pmtu = sender.pmtu := by
  unfold lanClientSend
  split <;> rfl

/-- A running client has no path MTU or one of at least 500, and what it cuts splits.
Witness: `lan_client_init` checks the option and sending keeps it.
-/
theorem splits_of_mem_sentBy {events : List ClientEvent} {sender : Option LanClientSender}
    (checked
      : ∀ current, sender = some current → current.pmtu = 0 ∨ minFragPayloadLen ≤ current.pmtu)
    (sent : sending ∈ sentBy sender events) (fragmented : sending.IsFragmented)
    : sending.Splits := by
  induction events generalizing sender with
  | nil => cases sender <;> cases sent
  | cons event rest ih =>
    cases event with
    | start pmtu =>
      have started : ∀ current,
          lanClientInit pmtu = some current
          → current.pmtu = 0 ∨ minFragPayloadLen ≤ current.pmtu := by
        intro current result
        unfold lanClientInit at result
        split at result
        · cases result
        · rename_i allowed
          cases result
          simp only at allowed ⊢
          omega
      exact ih started (by cases sender <;> exact sent)
    | send packet width =>
      cases sender with
      | none => exact ih checked sent
      | some current =>
        rcases mem_cons.mp sent with here | later
        · subst here
          obtain ⟨positive, long⟩ := fragmented
          have minimum := (checked current rfl).resolve_left (Nat.pos_iff_ne_zero.mp positive)
          have parts := (Sending.parts_le ⟨current, packet⟩ minimum width).1
          exact ⟨positive, long, width, by omega⟩
        · refine ih ?_ later
          intro next stepped
          cases stepped
          rw [lanClientSend_pmtu]
          exact checked current rfl

-- Arrivals

structure FragmentArrival where
  sending : Sending
  part : Nat

def FragmentArrival.bytes (arrival : FragmentArrival) : Bytes :=
  arrival.sending.fragments.getD arrival.part []

structure FragmentArrival.IsSent (clients : List (List ClientEvent))
    (arrival : FragmentArrival)
    : Prop where
  sent : ∃ events ∈ clients, arrival.sending ∈ sentBy none events
  fragmented : arrival.sending.IsFragmented
  counted : arrival.part < arrival.sending.fragments.length

def collectedAfter (before : List FragmentArrival) : FragTable :=
  fragReceiver.run .init (before.map FragmentArrival.bytes)

def lastUnder (key : FragKey) (before : List FragmentArrival) : Option Sending :=
  before.foldl
    (fun last arrival => if arrival.sending.key = key then some arrival.sending else last) none

/-- The fragment meets no slot of another packet: if the table has a slot under its key, the
last fragment under that key was of the same packet.
-/
def MeetsOwnSlot (before : List FragmentArrival) (arrival : FragmentArrival) : Prop :=
  (fragView.content (collectedAfter before).frags arrival.sending.key).isSome
  → lastUnder arrival.sending.key before = some arrival.sending

theorem lastUnder_concat (key : FragKey) (before : List FragmentArrival)
    (arrival : FragmentArrival)
    : lastUnder key (before ++ [arrival])
      = if arrival.sending.key = key then some arrival.sending else lastUnder key before := by
  simp only [lastUnder, foldl_append, foldl_cons, foldl_nil]

theorem collectedAfter_concat (before : List FragmentArrival) (arrival : FragmentArrival)
    : collectedAfter (before ++ [arrival])
      = (lanClientProcessFrag (collectedAfter before) arrival.bytes).1 := by
  simp only [collectedAfter, map_append, map_singleton, Machine.run_concat]
  rfl

-- What a slot holds

/-- A slot has collected parts of one packet only. The last part of a packet that is longer
than the slot buffer is always refused.
-/
structure Sending.Tracks (sending : Sending) (slot : LanClientFragment) : Prop where
  counted : ∀ j, slot.part.testBit j = true → j < sending.parts
  last : slot.part.testBit (sending.parts - 1) = true → sending.packet.length ≤ etherMtu
  holds
    : sending.packet.length ≤ etherMtu
      → sending.Holds (fun j => slot.part.testBit j = true) slot

theorem Sending.tracks_empty (sending : Sending) (empty : slot.part = 0) : sending.Tracks slot := by
  have unmarked : ∀ j, slot.part.testBit j = true ↔ False := by simp [empty]
  refine ⟨fun j marked => ((unmarked j).mp marked).elim,
    fun marked => ((unmarked _).mp marked).elim, fun _ => ?_⟩
  simp only [unmarked]
  exact sending.holds_nothing empty

/-- What a slot has collected does not depend on whether it is in use. -/
theorem Sending.Tracks.mark (tracks : sending.Tracks slot) (used : Bool)
    : sending.Tracks { slot with used := used } :=
  ⟨tracks.counted, tracks.last,
    fun size => ⟨(tracks.holds size).mask, (tracks.holds size).octets,
      (tracks.holds size).length⟩⟩

/-- The bounds a fragment has passed when it is not rejected. -/
theorem accepted_bounds {packet : Bytes} {header : LanClientFragmentHeader}
    (accepted : isRejected packet header = false)
    : header.totalPart ≤ 8 ∧ header.pmtu * header.part + header.len ≤ etherMtu := by
  simp only [isRejected, Bool.or_eq_false_iff, decide_eq_false_iff_not] at accepted
  omega

/-- Storing an accepted part of the packet keeps the slot with it.
Witness: the mask gains the part; the last part is accepted only if the packet fits.
-/
theorem Sending.Splits.tracks_store (splits : sending.Splits) {j : Nat}
    (counted : j < sending.parts)
    (accepted
      : isRejected (sending.fragment j) (readFragmentHeader (sending.fragment j)) = false)
    (tracks : sending.Tracks slot)
    : sending.Tracks
        (slot.store (readFragmentHeader (sending.fragment j)) (sending.fragment j)) := by
  obtain ⟨few, bounded⟩ := accepted_bounds accepted
  have header := splits.readHeader counted
  simp only [header] at few bounded
  have marked (k : Nat)
      : (slot.store (readFragmentHeader (sending.fragment j))
            (sending.fragment j)).part.testBit k = true
        ↔ k = j ∨ slot.part.testBit k = true := by
    have partEq : (readFragmentHeader (sending.fragment j)).part = j := by rw [header]
    rw [LanClientFragment.testBit_store (by omega), partEq]
  refine ⟨?_, ?_, ?_⟩
  · intro k mark
    rcases (marked k).mp mark with here | earlier
    · exact here ▸ counted
    · exact tracks.counted k earlier
  · intro mark
    rcases (marked _).mp mark with here | earlier
    · -- the part ends where the packet ends
      have inside := splits.lt_parts_iff.mp counted
      have beyond : ¬ (j + 1) * sending.sender.pmtu < sending.packet.length :=
        fun more => by
          have next := splits.lt_parts_iff.mpr more
          omega
      rw [Nat.succ_mul] at beyond
      simp only [Sending.header, Nat.mul_comm sending.sender.pmtu j] at bounded
      omega
    · exact tracks.last earlier
  · intro size
    simp only [marked]
    exact Sending.Fits.holds_store ⟨splits, size, few⟩ counted (tracks.holds size)

/-- A finished slot hands on the packet it has collected.
Witness: the full mask has the last part, so the packet fits, and then it is all there.
-/
theorem Sending.Splits.handed_eq (splits : sending.Splits) {j : Nat} (counted : j < sending.parts)
    (accepted
      : isRejected (sending.fragment j) (readFragmentHeader (sending.fragment j)) = false)
    (tracks : sending.Tracks slot)
    (finished : slot.isFinished (readFragmentHeader (sending.fragment j)) = true)
    : slot.totalLen = sending.packet.length
      ∧ (⟨slot.buffer, slot.totalLen⟩ : Handed).bytes = sending.packet := by
  have few := (accepted_bounds accepted).1
  have full := finished
  rw [splits.readHeader counted] at few full
  simp only at few
  have power : 2 ^ sending.parts ≤ 2 ^ 8 := Nat.pow_le_pow_right (by decide) few
  have small : (2 ^ sending.parts - 1) % 256 = 2 ^ sending.parts - 1 := Nat.mod_eq_of_lt (by omega)
  simp only [LanClientFragment.isFinished, Nat.one_shiftLeft, small, beq_iff_eq] at full
  have several := splits.several
  have size : sending.packet.length ≤ etherMtu := by
    apply tracks.last
    rw [← full, Nat.testBit_two_pow_sub_one]
    exact decide_eq_true (by omega)
  have fits : sending.Fits := ⟨splits, size, few⟩
  have holds := tracks.holds size
  exact fits.handed_eq holds ((fits.isFinished_iff counted holds tracks.counted).mp finished)

-- Runs

/-- Every slot in use has collected parts of the packet whose fragment arrived last under
its key.
-/
def Separate (before : List FragmentArrival) (table : FragTable) : Prop :=
  ∀ index,
    (table.frags index).used = true
    → ∃ sending,
        lastUnder (fragView.key (table.frags index)) before = some sending
        ∧ sending.Tracks (table.frags index)

/-- The fragments of a packet that splits, as they arrive. -/
theorem FragmentArrival.bytes_eq (splits : arrival.sending.Splits)
    (counted : arrival.part < arrival.sending.fragments.length)
    : arrival.part < arrival.sending.parts
      ∧ arrival.bytes = arrival.sending.fragment arrival.part := by
  simp only [splits.fragments_eq, length_map, length_range] at counted
  refine ⟨counted, ?_⟩
  simp [bytes, splits.fragments_eq, getD_eq_getElem?_getD, counted]

theorem FragmentArrival.key_bytes (splits : arrival.sending.Splits)
    (counted : arrival.part < arrival.sending.fragments.length)
    : (readFragmentHeader arrival.bytes).key = arrival.sending.key := by
  obtain ⟨below, octets⟩ := arrival.bytes_eq splits counted
  rw [octets, splits.readHeader below]
  rfl

/-- Slots under other keys see no change, and the slot under the key of the arrival was
already the arriving packet's: what one arrival adds to the history fits every old slot.
-/
theorem Separate.lastUnder_concat {before : List FragmentArrival}
    (separate : Separate before (collectedAfter before)) (own : MeetsOwnSlot before arrival)
    {index : Fin lcFragCount} (used : ((collectedAfter before).frags index).used = true)
    : ∃ sending,
        lastUnder (fragView.key ((collectedAfter before).frags index)) (before ++ [arrival])
          = some sending
        ∧ sending.Tracks ((collectedAfter before).frags index)
        ∧ (fragView.key ((collectedAfter before).frags index) = arrival.sending.key
          → sending = arrival.sending) := by
  obtain ⟨sending, last, tracks⟩ := separate index used
  rw [Client.lastUnder_concat]
  by_cases same : arrival.sending.key = fragView.key ((collectedAfter before).frags index)
  · have present : (fragView.content (collectedAfter before).frags
        arrival.sending.key).isSome := by
      rw [Option.isSome_iff_ne_none]
      intro absent
      exact SlotView.content_none_iff.mp absent index used same.symm
    have ours := own present
    rw [same, last] at ours
    cases ours
    exact ⟨arrival.sending, by rw [if_pos same], tracks, fun _ => rfl⟩
  · refine ⟨sending, by rw [if_neg same, last], tracks, ?_⟩
    intro equal
    exact absurd equal.symm same

/-- The slot an arrival claims has collected parts of its own packet only. -/
theorem Separate.claimed {before : List FragmentArrival}
    (separate : Separate before (collectedAfter before)) (own : MeetsOwnSlot before arrival)
    {header : LanClientFragmentHeader} (key : header.key = arrival.sending.key)
    {claimed : FragTable} {index : Fin lcFragCount}
    (claim : (collectedAfter before).claim header = some (claimed, index))
    : arrival.sending.Tracks (claimed.frags index)
      ∧ fragView.key (claimed.frags index) = arrival.sending.key := by
  obtain ⟨used, baseKey, origin⟩ := FragTable.claim_base claim
  refine ⟨?_, baseKey.trans key⟩
  rcases origin with found | empty
  · rw [found] at used baseKey ⊢
    obtain ⟨sending, _, tracks, ours⟩ := separate.lastUnder_concat own used
    rwa [ours (baseKey.trans key)] at tracks
  · exact arrival.sending.tracks_empty empty

/-- One arrival that meets no slot of another packet keeps the packets separate, and hands on
nothing or its own packet.
-/
theorem Separate.step {before : List FragmentArrival}
    (separate : Separate before (collectedAfter before)) (splits : arrival.sending.Splits)
    (counted : arrival.part < arrival.sending.fragments.length) (own : MeetsOwnSlot before arrival)
    : Separate (before ++ [arrival]) (collectedAfter (before ++ [arrival]))
      ∧ ∀ handed,
          (lanClientProcessFrag (collectedAfter before) arrival.bytes).2 = some handed
          → handed.bytes = arrival.sending.packet
            ∧ handed.len = arrival.sending.packet.length := by
  obtain ⟨below, octets⟩ := arrival.bytes_eq splits counted
  have key := arrival.key_bytes splits counted
  have kept : Separate (before ++ [arrival]) (collectedAfter before) := by
    intro index used
    obtain ⟨sending, last, tracks, _⟩ := separate.lastUnder_concat own used
    exact ⟨sending, last, tracks⟩
  rw [collectedAfter_concat]
  rcases lanClientProcessFrag_cases (collectedAfter before) arrival.bytes with
    ⟨_, unchanged⟩ | ⟨claimed, index, slot, accepted, claim, slotEq, result, output⟩
  · rw [unchanged]
    exact ⟨kept, fun handed none => by cases none⟩
  · obtain ⟨base, baseKey⟩ := separate.claimed own key claim
    rw [octets] at accepted slotEq
    have stored := splits.tracks_store below accepted base
    rw [← slotEq] at stored
    have slotKey : fragView.key slot = arrival.sending.key := by
      rw [slotEq, ← baseKey]
      rfl
    refine ⟨?_, ?_⟩
    · rw [result]
      intro position used
      by_cases here : position = index
      · subst here
        simp only [Function.update_self] at used ⊢
        refine ⟨arrival.sending, ?_, stored.mark _⟩
        rw [Client.lastUnder_concat]
        exact if_pos slotKey.symm
      · simp only [Function.update_of_ne here] at used ⊢
        exact kept position used
    · intro handed some_
      rw [output, octets] at some_
      split at some_
      · rename_i finished
        cases some_
        obtain ⟨length, whole⟩ := splits.handed_eq below accepted stored finished
        exact ⟨whole, length⟩
      · cases some_

/-- Reassembly integrity: whatever the clients send and restart, and whichever of their
fragments are lost, repeated and reordered, a packet handed on is the packet of the arriving
fragment, provided that no fragment meets a slot of another packet.
Witness: every slot has collected parts of one packet.
-/
theorem lanClientProcessFrag_integrity {clients : List (List ClientEvent)}
    {arrivals : List FragmentArrival}
    (sent : ∀ arrival ∈ arrivals, arrival.IsSent clients)
    (own
      : ∀ before arrival after,
          arrivals = before ++ arrival :: after → MeetsOwnSlot before arrival)
    : ∀ before arrival after,
        arrivals = before ++ arrival :: after
        → ∀ handed,
            (lanClientProcessFrag (collectedAfter before) arrival.bytes).2 = some handed
            → handed.bytes = arrival.sending.packet
              ∧ handed.len = arrival.sending.packet.length := by
  have splits : ∀ arrival ∈ arrivals, arrival.sending.Splits := by
    intro arrival member
    obtain ⟨events, _, called⟩ := (sent arrival member).sent
    exact splits_of_mem_sentBy (fun _ impossible => by cases impossible) called
      (sent arrival member).fragmented
  have separate : ∀ before after,
      arrivals = before ++ after → Separate before (collectedAfter before) := by
    intro before
    induction before using List.reverseRecOn with
    | nil =>
      intro _ _ index used
      simp [collectedAfter, FragTable.init, LanClientFragment.zero] at used
    | append_singleton earlier arrival ih =>
      intro after split
      rw [List.append_assoc, List.singleton_append] at split
      have member : arrival ∈ arrivals := by simp [split]
      exact ((ih _ split).step (splits arrival member) (sent arrival member).counted
        (own earlier arrival after split)).1
  intro before arrival after split handed output
  have member : arrival ∈ arrivals := by simp [split]
  exact ((separate before _ split).step (splits arrival member) (sent arrival member).counted
    (own before arrival after split)).2 handed output

def filledPacket (value : UInt8) : Bytes := replicate 20 1 ++ replicate 980 value

theorem filledPacket_length (value : UInt8) : (filledPacket value).length = 1000 := by
  rw [filledPacket, length_append, length_replicate, length_replicate]

def restartedClient : List ClientEvent :=
  [
    .start 500,
    .send (filledPacket 1) (by rw [filledPacket_length]; decide),
    .start 500,
    .send (filledPacket 2) (by rw [filledPacket_length]; decide)
  ]

/-- Fragment `part` of the first or the second packet of that client; both have identifier 0. -/
def sampleArrival (value : UInt8) (part : Nat) : FragmentArrival :=
  ⟨⟨⟨500, 0⟩, filledPacket value⟩, part⟩

theorem sentBy_restartedClient
    : sentBy none restartedClient
      = [⟨⟨500, 0⟩, filledPacket 1⟩, ⟨⟨500, 0⟩, filledPacket 2⟩] := rfl

theorem sampleArrival_isSent {value : UInt8} (known : value = 1 ∨ value = 2) {part : Nat}
    (counted : part < 2)
    : (sampleArrival value part).IsSent [restartedClient] := by
  have splits : (sampleArrival value part).sending.Splits := by
    refine ⟨Nat.zero_lt_succ 499, ?_, ?_, ?_⟩ <;>
      simp only [Sending.parts, sampleArrival, filledPacket_length] <;> decide
  refine ⟨⟨restartedClient, mem_singleton_self _, ?_⟩, ⟨splits.positive, splits.long⟩, ?_⟩
  · rw [sentBy_restartedClient]
    rcases known with rfl | rfl
    · exact mem_cons_self ..
    · exact mem_cons_of_mem _ (mem_singleton_self _)
  · rw [splits.fragments_eq, length_map, length_range]
    simpa [Sending.parts, sampleArrival, filledPacket_length, totalPart] using counted

/-- The parts of the first packet in the other order. -/
theorem lanClientProcessFrag_integrity_reversed
    : ∃ handed,
        (lanClientProcessFrag (collectedAfter [sampleArrival 1 1])
            (sampleArrival 1 0).bytes).2 = some handed
        ∧ handed.bytes = filledPacket 1
        ∧ handed.len = (filledPacket 1).length := by
  have sent : ∀ arrival ∈ [sampleArrival 1 1, sampleArrival 1 0],
      arrival.IsSent [restartedClient] := by
    intro arrival member
    simp only [List.mem_cons, List.not_mem_nil, or_false] at member
    rcases member with rfl | rfl
    · exact sampleArrival_isSent (Or.inl rfl) (by decide)
    · exact sampleArrival_isSent (Or.inl rfl) (by decide)
  have completed : (lanClientProcessFrag (collectedAfter [sampleArrival 1 1])
      (sampleArrival 1 0).bytes).2.isSome = true := by
    decide +kernel
  obtain ⟨handed, output⟩ := Option.isSome_iff_exists.mp completed
  refine ⟨handed, output, lanClientProcessFrag_integrity sent ?_ [sampleArrival 1 1]
    (sampleArrival 1 0) [] rfl handed output⟩
  rintro (_ | ⟨first, _ | ⟨second, rest⟩⟩) arrival after split present
  · obtain ⟨rfl, _⟩ := List.cons.inj split
    exact absurd present (by decide +kernel)
  · obtain ⟨rfl, tail⟩ := List.cons.inj split
    obtain ⟨rfl, _⟩ := List.cons.inj tail
    rfl
  · have length := congrArg List.length split
    simp at length

/-- The first part of the first packet and the second part of the other packet, sent after a
restart under the same identifier, are handed on together; no such packet was sent.
-/
theorem restart_combines_packets
    : (sampleArrival 1 0).IsSent [restartedClient]
      ∧ (sampleArrival 2 1).IsSent [restartedClient]
      ∧ ∃ handed,
          (lanClientProcessFrag (collectedAfter [sampleArrival 1 0])
              (sampleArrival 2 1).bytes).2 = some handed
          ∧ ∀ sending ∈ sentBy none restartedClient, handed.bytes ≠ sending.packet := by
  have first := sampleArrival_isSent (Or.inl rfl) (show 0 < 2 by decide)
  have second := sampleArrival_isSent (Or.inr rfl) (show 1 < 2 by decide)
  have octets : ((lanClientProcessFrag (collectedAfter [sampleArrival 1 0])
        (sampleArrival 2 1).bytes).2.map
          (fun handed => (handed.bytes.getD 499 0, handed.bytes.getD 500 0)))
      = some (1, 2) := by decide +kernel
  obtain ⟨handed, output, read⟩ := Option.map_eq_some_iff.mp octets
  refine ⟨first, second, handed, output, ?_⟩
  intro sending member same
  rw [sentBy_restartedClient] at member
  rw [same] at read
  simp only [List.mem_cons, List.not_mem_nil, or_false] at member
  rcases member with rfl | rfl
  · exact absurd read (by decide +kernel)
  · exact absurd read (by decide +kernel)

end SwitchLanPlay.Client
