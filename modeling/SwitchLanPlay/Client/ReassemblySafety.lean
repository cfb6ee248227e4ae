import SwitchLanPlay.Client.Reassembly
import SwitchLanPlay.Foundation.Access

/-! Bounds of reassembly: `lan_client_process_frag` with its accesses checked against the received
datagram and the buffer of the slot, and the lengths that the slots can have.
-/

namespace SwitchLanPlay.Client

open Foundation
open Packet

variable {packet : Bytes}

def readFragmentHeader? (packet : Bytes) : Option LanClientFragmentHeader := do
  let src ← readAt? readIpv4 4 packet lcFragSrc
  let dst ← readAt? readIpv4 4 packet lcFragDst
  let id ← readAt? readBe16 2 packet lcFragId
  let part ← readAt? readU8 1 packet lcFragPart
  let totalPart ← readAt? readU8 1 packet lcFragTotalPart
  let len ← readAt? readBe16 2 packet lcFragLen
  let pmtu ← readAt? readBe16 2 packet lcFragPmtu
  return ⟨src, dst, id, part, totalPart, len, pmtu⟩

def LanClientFragment.store? (slot : LanClientFragment) (header : LanClientFragmentHeader)
    (packet : Bytes)
    : Option LanClientFragment := do
  let data ← readAt? (fun region offset => slice region offset header.len) header.len packet
    lcFragHeaderLen
  let buffer ← writeAt? slot.buffer (header.pmtu * header.part) data
  return { slot.store header packet with buffer := buffer }

def lanClientProcessFrag? (table : FragTable) (packet : Bytes)
    : Option (FragTable × Option Handed) :=
  if packet.length < lcFragHeaderLen then some (table, none)
  else do
    let header ← readFragmentHeader? packet
    if isRejected packet header then return (table, none)
    match table.claim header with
    | none => return (table, none)
    | some (claimed, index) =>
      let slot ← (claimed.frags index).store? header packet
      if slot.isFinished header then
        return (⟨Function.update claimed.frags index { slot with used := false },
          claimed.localId⟩, some ⟨slot.buffer, slot.totalLen⟩)
      else return (⟨Function.update claimed.frags index slot, claimed.localId⟩, none)

/-- What the checks leave of the sizes in a header. -/
theorem accepted_sizes {header : LanClientFragmentHeader}
    (accepted : isRejected packet header = false)
    : lcFragHeaderLen ≤ packet.length
      ∧ 0 < header.totalPart
      ∧ header.totalPart ≤ 8
      ∧ header.part < header.totalPart
      ∧ 0 < header.pmtu
      ∧ header.len ≤ header.pmtu
      ∧ lcFragHeaderLen + header.len ≤ packet.length
      ∧ header.pmtu * header.part + header.len ≤ etherMtu := by
  simp only [isRejected, Bool.or_eq_false_iff, decide_eq_false_iff_not,
    beq_eq_false_iff_ne, ne_eq] at accepted
  omega

theorem readFragmentHeader?_eq (long : lcFragHeaderLen ≤ packet.length)
    : readFragmentHeader? packet = some (readFragmentHeader packet) := by
  have inside {offset count : Nat} (below : offset + count ≤ lcFragHeaderLen)
      : offset + count ≤ packet.length := below.trans long
  unfold readFragmentHeader?
  rw [readAt?_of_le (inside (by decide)), readAt?_of_le (inside (by decide)),
    readAt?_of_le (inside (by decide)), readAt?_of_le (inside (by decide)),
    readAt?_of_le (inside (by decide)), readAt?_of_le (inside (by decide)),
    readAt?_of_le (inside (by decide))]
  rfl

/-- The copy of an accepted part stays inside of the datagram and of the buffer. -/
theorem LanClientFragment.store?_eq (slot : LanClientFragment) {header : LanClientFragmentHeader}
    (accepted : isRejected packet header = false)
    : slot.store? header packet = some (slot.store header packet) := by
  obtain ⟨_, _, _, _, _, _, received, fits⟩ := accepted_sizes accepted
  have copied : (slice packet lcFragHeaderLen header.len).length = header.len := by
    rw [slice_length]
    omega
  unfold store?
  rw [readAt?_of_le received]
  dsimp only [bind, Option.bind]
  rw [writeAt?_of_le (by rw [copied]; exact fits)]
  rfl

/-- No access of the PC client's reassembly is outside. -/
theorem lanClientProcessFrag?_eq (table : FragTable) (packet : Bytes)
    : lanClientProcessFrag? table packet = some (lanClientProcessFrag table packet) := by
  unfold lanClientProcessFrag? lanClientProcessFrag
  by_cases short : packet.length < lcFragHeaderLen
  · have rejected : isRejected packet (readFragmentHeader packet) = true := by
      simp [isRejected, short]
    dsimp only
    rw [if_pos short, if_pos rejected]
  · rw [if_neg short, readFragmentHeader?_eq (Nat.not_lt.mp short)]
    dsimp only [bind, Option.bind]
    cases rejected : isRejected packet (readFragmentHeader packet) with
    | true => rfl
    | false =>
      cases table.claim (readFragmentHeader packet) with
      | none => rfl
      | some claimed =>
        simp only [LanClientFragment.store?_eq _ rejected, Bool.false_eq_true, if_false]
        split <;> rfl

-- Lengths

def FragTable.Bounded (table : FragTable) : Prop := ∀ index, (table.frags index).totalLen ≤ etherMtu

/-- The length that the last part gives lies in the buffer. -/
theorem LanClientFragment.store_totalLen_le {slot : LanClientFragment}
    {header : LanClientFragmentHeader} (accepted : isRejected packet header = false)
    (bounded : slot.totalLen ≤ etherMtu)
    : (slot.store header packet).totalLen ≤ etherMtu := by
  obtain ⟨_, _, _, _, _, _, _, fits⟩ := accepted_sizes accepted
  simp only [store]
  split
  · rename_i last
    rw [← last, Nat.mul_comm]
    exact (Nat.mod_le _ _).trans fits
  · exact bounded

/-- A fragment leaves the lengths inside of the buffers, and what it hands on is inside too. -/
theorem SlotSearch.collect_bounded (search : SlotSearch) {table : FragTable}
    (bounded : table.Bounded) (packet : Bytes)
    : (search.collect table packet).1.Bounded
      ∧ ∀ handed, (search.collect table packet).2 = some handed → handed.len ≤ etherMtu := by
  rcases search.collect_cases table packet with
    ⟨_, unchanged⟩ | ⟨claimed, index, slot, accepted, claim, slotEq, result, output⟩
  · rw [unchanged]
    refine ⟨bounded, fun handed impossible => ?_⟩
    cases impossible
  · have length : slot.totalLen ≤ etherMtu := by
      rw [slotEq]
      apply LanClientFragment.store_totalLen_le accepted
      rw [(search.sound claim).kept.2]
      exact bounded index
    rw [result, output]
    refine ⟨?_, ?_⟩
    · intro other
      dsimp only
      by_cases here : other = index
      · subst here
        rw [Function.update_self]
        exact length
      · rw [Function.update_of_ne here]
        exact bounded other
    · intro handed same
      split at same
      · cases same
        exact length
      · cases same

theorem FragTable.init_bounded : FragTable.init.Bounded := fun _ => Nat.zero_le _

theorem FragTable.init_distinct : fragView.Distinct FragTable.init.frags := by
  intro left right used
  cases used

/-- Reassembly is safe against every sequence of datagrams: no access is outside, lengths stay
inside of the buffers, the slots in use have distinct keys, and no packet handed on is longer than
the buffer it is in.
-/
structure ReassemblySafe (receive? : FragTable → Bytes → Option (FragTable × Option Handed))
    (packets : List Bytes)
    : Prop where
  table
    : ∃ table,
        (Machine.failing receive? none).run (some .init) packets = some table
        ∧ table.Bounded
        ∧ fragView.Distinct table.frags
  handed
    : ∀ handed,
        some handed ∈ (Machine.failing receive? none).outputs (some .init) packets
        → handed.len ≤ etherMtu

/-- Checked reassembly that never faults is safe. -/
theorem SlotSearch.reassemblySafe (search : SlotSearch)
    {receive? : FragTable → Bytes → Option (FragTable × Option Handed)}
    (total : ∀ table packet, receive? table packet = some (search.collect table packet))
    (packets : List Bytes)
    : ReassemblySafe receive? packets := by
  obtain ⟨run, outputs⟩ := @Machine.failing_of_total _ _ _ receive? none search.receiver total
    .init packets
  have bounded (inputs : List Bytes) : (search.receiver.run .init inputs).Bounded :=
    search.receiver.run_invariant FragTable.Bounded
      (fun _ packet bounded => (search.collect_bounded bounded packet).1)
      FragTable.init_bounded inputs
  have distinct : fragView.Distinct (search.receiver.run .init packets).frags :=
    search.receiver.run_invariant (fun table => fragView.Distinct table.frags)
      (fun _ packet distinct => search.collect_distinct distinct packet)
      FragTable.init_distinct packets
  refine ⟨⟨_, run, bounded packets, distinct⟩, ?_⟩
  intro handed member
  rw [outputs, Machine.mem_outputs_iff] at member
  obtain ⟨before, packet, _, _, output⟩ := member
  exact (search.collect_bounded (bounded before) packet).2 handed output

end SwitchLanPlay.Client
