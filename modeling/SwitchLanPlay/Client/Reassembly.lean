import SwitchLanPlay.Client.Fragment
import SwitchLanPlay.Foundation.SlotTable
import SwitchLanPlay.Foundation.Machine

/-! The fragment table of the PC client: `lan_client_process_frag` of `src/lan-client.c`,
with its checks, slot search, eviction and completion.
-/

namespace SwitchLanPlay.Client

open Option
open Foundation
open Packet

variable {table : FragTable} {index : Fin lcFragCount}

structure LanClientFragment where
  localId : Nat
  src : Ipv4Addr
  id : Nat
  part : Nat
  used : Bool
  totalLen : Nat
  buffer : Fin etherMtu → UInt8

def LanClientFragment.zero : LanClientFragment := ⟨0, ⟨0, 0, 0, 0⟩, 0, 0, false, 0, fun _ => 0⟩

/-- The receiver's part of `struct lan_play`: the slots and the allocation counter. The
counter is a C `int`, whose overflow is undefined, so it is taken unbounded.
-/
structure FragTable where
  frags : Fin lcFragCount → LanClientFragment
  localId : Nat

def FragTable.init : FragTable := ⟨fun _ => .zero, 0⟩

abbrev FragKey := Ipv4Addr × Nat

def fragView : SlotView LanClientFragment FragKey where
  used := fun slot => slot.used
  key := fun slot => (slot.src, slot.id)

def LanClientFragmentHeader.key (header : LanClientFragmentHeader) : FragKey :=
  (header.src, header.id)

structure Handed where
  buffer : Fin etherMtu → UInt8
  len : Nat

def Handed.bytes (handed : Handed) : Bytes := (List.ofFn handed.buffer).take handed.len

/-- A slot newly taken for `header`; its buffer and total length stay as they were. -/
def LanClientFragment.allocate (slot : LanClientFragment) (header : LanClientFragmentHeader)
    (localId : Nat)
    : LanClientFragment :=
  {
    slot with
    used := true
    id := header.id
    localId := localId % 65536
    src := header.src
    part := 0
  }

def FragTable.allocate (table : FragTable) (index : Fin lcFragCount)
    (header : LanClientFragmentHeader)
    : FragTable :=
  ⟨Function.update table.frags index
      ((table.frags index).allocate header table.localId),
    table.localId + 1⟩

/-- The eviction scan: the used slot whose allocation number is farthest from the counter,
the first such slot on a tie, with that distance.
-/
def FragTable.farthest (table : FragTable) : Nat × Option (Fin lcFragCount) :=
  (List.finRange lcFragCount).foldl
    (fun best index =>
      let dif := ((table.frags index).localId - table.localId : Int).natAbs
      if (table.frags index).used ∧ best.1 < dif then (dif, some index) else best)
    (0, none)

/-- Reuse the slot the scan chose when its allocation number is more than `LC_FRAG_COUNT`
away; otherwise there is no slot for the fragment.
-/
def FragTable.evict (table : FragTable) (header : LanClientFragmentHeader)
    : Option (FragTable × Fin lcFragCount) :=
  table.farthest.2.bind
    (fun index =>
      if lcFragCount < table.farthest.1 then some (table.allocate index header, index)
      else none)

/-- The slot search: a matching slot, else the first free one, else an evicted one. -/
def FragTable.claim (table : FragTable) (header : LanClientFragmentHeader)
    : Option (FragTable × Fin lcFragCount) :=
  match fragView.match? table.frags header.key, fragView.free? table.frags with
  | some index, _ => some (table, index)
  | none, some index => some (table.allocate index header, index)
  | none, none => table.evict header

def LanClientFragment.store (slot : LanClientFragment) (header : LanClientFragmentHeader)
    (packet : Bytes)
    : LanClientFragment :=
  {
    slot with
    part := slot.part ||| ((1 <<< header.part) % 256)
    buffer := memcpy slot.buffer (header.pmtu * header.part)
      (slice packet lcFragHeaderLen header.len)
    totalLen :=
      if header.part = header.totalPart - 1 then
        ((header.totalPart - 1) * header.pmtu + header.len) % 65536
      else slot.totalLen
  }

def LanClientFragment.isFinished (slot : LanClientFragment) (header : LanClientFragmentHeader)
    : Bool := ((1 <<< header.totalPart) - 1) % 256 == slot.part

def isRejected (packet : Bytes) (header : LanClientFragmentHeader) : Bool :=
  packet.length < lcFragHeaderLen
  || (header.totalPart == 0 || header.totalPart > 8)
  || header.part ≥ header.totalPart
  || (header.pmtu == 0 || header.len > header.pmtu)
  || lcFragHeaderLen + header.len > packet.length
  || header.pmtu * header.part + header.len > etherMtu

def lanClientProcessFrag (table : FragTable) (packet : Bytes) : FragTable × Option Handed :=
  let header := readFragmentHeader packet
  if isRejected packet header then (table, none)
  else
    match table.claim header with
    | none => (table, none)
    | some (claimed, index) =>
      let slot := (claimed.frags index).store header packet
      if slot.isFinished header then
        (⟨Function.update claimed.frags index { slot with used := false }, claimed.localId⟩,
          some ⟨slot.buffer, slot.totalLen⟩)
      else (⟨Function.update claimed.frags index slot, claimed.localId⟩, none)

def fragReceiver : Machine FragTable Bytes (Option Handed) := ⟨lanClientProcessFrag⟩

-- Any slot search

/-- A slot is found under the key of the fragment, or there is none and one is taken. -/
inductive FragTable.Claimed (table : FragTable) (header : LanClientFragmentHeader)
    : FragTable → Fin lcFragCount → Prop
  | found {index : Fin lcFragCount}
    (matched : fragView.match? table.frags header.key = some index)
    : table.Claimed header table index
  | taken {index : Fin lcFragCount} (missing : fragView.match? table.frags header.key = none)
    : table.Claimed header (table.allocate index header) index

structure SlotSearch where
  claim : FragTable → LanClientFragmentHeader → Option (FragTable × Fin lcFragCount)
  sound
    : ∀ {table header claimed index},
        claim table header = some (claimed, index) → table.Claimed header claimed index

theorem FragTable.claim_claimed {claimed : FragTable} {header : LanClientFragmentHeader}
    (claim : table.claim header = some (claimed, index))
    : table.Claimed header claimed index := by
  unfold FragTable.claim at claim
  split at claim
  · rename_i matched
    cases claim
    exact .found matched
  · rename_i missing _
    cases claim
    exact .taken missing
  · rename_i missing _
    obtain ⟨_, _, evicted⟩ := bind_eq_some_iff.mp claim
    split at evicted
    · cases evicted
      exact .taken missing
    · cases evicted

def pcSearch : SlotSearch := ⟨FragTable.claim, FragTable.claim_claimed⟩

theorem pcSearch_claim (table : FragTable) (header : LanClientFragmentHeader)
    : pcSearch.claim table header = table.claim header := by
  rw [pcSearch]

def SlotSearch.collect (search : SlotSearch) (table : FragTable) (packet : Bytes)
    : FragTable × Option Handed :=
  let header := readFragmentHeader packet
  if isRejected packet header then (table, none)
  else
    match search.claim table header with
    | none => (table, none)
    | some (claimed, index) =>
      let slot := (claimed.frags index).store header packet
      if slot.isFinished header then
        (⟨Function.update claimed.frags index { slot with used := false }, claimed.localId⟩,
          some ⟨slot.buffer, slot.totalLen⟩)
      else (⟨Function.update claimed.frags index slot, claimed.localId⟩, none)

def SlotSearch.receiver (search : SlotSearch) : Machine FragTable Bytes (Option Handed) :=
  ⟨search.collect⟩

theorem lanClientProcessFrag_eq_collect (table : FragTable) (packet : Bytes)
    : lanClientProcessFrag table packet = pcSearch.collect table packet := by
  simp only [lanClientProcessFrag, SlotSearch.collect, pcSearch]

/-- A claimed slot is in use under the key of the fragment. -/
theorem FragTable.Claimed.key_eq {claimed : FragTable} {header : LanClientFragmentHeader}
    (claim : table.Claimed header claimed index)
    : (claimed.frags index).used = true
      ∧ fragView.key (claimed.frags index) = header.key := by
  cases claim with
  | found matched => exact SlotView.match?_some matched
  | taken => simp [allocate, LanClientFragment.allocate, fragView,
      LanClientFragmentHeader.key]

/-- No slot but the claimed one is touched. -/
theorem FragTable.Claimed.update_eq {claimed : FragTable} {header : LanClientFragmentHeader}
    (claim : table.Claimed header claimed index) (slot : LanClientFragment)
    : Function.update claimed.frags index slot = Function.update table.frags index slot := by
  cases claim with
  | found => rfl
  | taken => simp [allocate]

/-- The claimed slot keeps the buffer and the length it had. -/
theorem FragTable.Claimed.kept {claimed : FragTable} {header : LanClientFragmentHeader}
    (claim : table.Claimed header claimed index)
    : (claimed.frags index).buffer = (table.frags index).buffer
      ∧ (claimed.frags index).totalLen = (table.frags index).totalLen := by
  cases claim with
  | found => exact ⟨rfl, rfl⟩
  | taken => simp [allocate, LanClientFragment.allocate]

theorem FragTable.Claimed.claimable {claimed : FragTable} {header : LanClientFragmentHeader}
    (claim : table.Claimed header claimed index)
    : fragView.Claimable table.frags header.key index := by
  cases claim with
  | found matched => exact Or.inl matched
  | taken missing => exact Or.inr missing

/-- Marking a used slot as used changes nothing. -/
theorem LanClientFragment.mark_used {slot : LanClientFragment} (used : slot.used = true)
    : { slot with used := true } = slot := by
  cases slot
  cases used
  rfl

/-- What one fragment can do: it changes nothing, or it is stored in the slot claimed for it, which
is released and handed on once its mask is full.
-/
theorem SlotSearch.collect_cases (search : SlotSearch) (table : FragTable) (packet : Bytes)
    : ((isRejected packet (readFragmentHeader packet) = true
          ∨ search.claim table (readFragmentHeader packet) = none)
        ∧ search.collect table packet = (table, none))
      ∨ ∃ claimed index slot,
          isRejected packet (readFragmentHeader packet) = false
          ∧ search.claim table (readFragmentHeader packet) = some (claimed, index)
          ∧ slot = (claimed.frags index).store (readFragmentHeader packet) packet
          ∧ (search.collect table packet).1
            = ⟨Function.update table.frags index
                  { slot with used := !slot.isFinished (readFragmentHeader packet) },
                claimed.localId⟩
          ∧ (search.collect table packet).2
            = if slot.isFinished (readFragmentHeader packet) then
                some ⟨slot.buffer, slot.totalLen⟩
              else none := by
  cases rejected : isRejected packet (readFragmentHeader packet) with
  | true => exact Or.inl ⟨Or.inl rfl, by simp only [collect, rejected, if_true]⟩
  | false =>
    cases claim : search.claim table (readFragmentHeader packet) with
    | none =>
      refine Or.inl ⟨Or.inr rfl, ?_⟩
      simp only [collect, rejected, Bool.false_eq_true, if_false, claim]
    | some pair =>
      obtain ⟨claimed, index⟩ := pair
      have sound := search.sound claim
      refine Or.inr ⟨claimed, index, _, rfl, rfl, rfl, ?_⟩
      simp only [collect, rejected, Bool.false_eq_true, if_false, claim,
        sound.update_eq]
      split
      · rename_i finished
        simp only [finished, Bool.not_true, and_self]
      · rename_i unfinished
        have stored : ((claimed.frags index).store (readFragmentHeader packet)
            packet).used = true := sound.key_eq.1
        simp only [Bool.not_eq_true] at unfinished
        simp only [unfinished, Bool.not_false, LanClientFragment.mark_used stored, and_self]

/-- Keys stay distinct. -/
theorem SlotSearch.collect_distinct (search : SlotSearch) (distinct : fragView.Distinct table.frags)
    (packet : Bytes)
    : fragView.Distinct (search.collect table packet).1.frags := by
  rcases search.collect_cases table packet with
    ⟨_, unchanged⟩ | ⟨claimed, index, slot, _, claim, slotEq, result, _⟩
  · rw [unchanged]
    exact distinct
  · rw [result]
    refine distinct.update (search.sound claim).claimable ?_
    rw [slotEq]
    exact (search.sound claim).key_eq.2

-- One accepted fragment changes the table at its own key

def FragTable.HasRoom (table : FragTable) (key : FragKey) : Prop :=
  ∃ index,
    ((table.frags index).used = true ∧ fragView.key (table.frags index) = key)
    ∨ (table.frags index).used = false

/-- The slot a fragment is stored into: the slot already held for its key, or a slot newly
taken for it with an empty mask.
-/
structure FragTable.Base (table : FragTable) (key : FragKey) (base : LanClientFragment)
    : Prop where
  used : base.used = true
  carries : fragView.key base = key
  origin
    : fragView.content table.frags key = some base
      ∨ (fragView.content table.frags key = none ∧ base.part = 0)

/-- A claimed slot is in use under the key of the fragment. It is the slot that was found
there, or it was newly taken and its mask is empty.
-/
theorem FragTable.claim_base {claimed : FragTable} {header : LanClientFragmentHeader}
    (claim : table.claim header = some (claimed, index))
    : (claimed.frags index).used = true
      ∧ fragView.key (claimed.frags index) = header.key
      ∧ (claimed.frags index = table.frags index ∨ (claimed.frags index).part = 0) := by
  have claimed_ := claim_claimed claim
  refine ⟨claimed_.key_eq.1, claimed_.key_eq.2, ?_⟩
  cases claimed_ with
  | found => exact Or.inl rfl
  | taken => exact Or.inr (by simp [allocate, LanClientFragment.allocate])

/-- What one fragment can do: it is refused and changes nothing, or it is stored in the slot
claimed for it, which is released and handed on once its mask is full.
-/
theorem lanClientProcessFrag_cases (table : FragTable) (packet : Bytes)
    : ((isRejected packet (readFragmentHeader packet) = true
          ∨ table.claim (readFragmentHeader packet) = none)
        ∧ lanClientProcessFrag table packet = (table, none))
      ∨ ∃ claimed index slot,
          isRejected packet (readFragmentHeader packet) = false
          ∧ table.claim (readFragmentHeader packet) = some (claimed, index)
          ∧ slot = (claimed.frags index).store (readFragmentHeader packet) packet
          ∧ (lanClientProcessFrag table packet).1
            = ⟨Function.update table.frags index
                  { slot with used := !slot.isFinished (readFragmentHeader packet) },
                claimed.localId⟩
          ∧ (lanClientProcessFrag table packet).2
            = if slot.isFinished (readFragmentHeader packet) then
                some ⟨slot.buffer, slot.totalLen⟩
              else none := by
  have cases_ := pcSearch.collect_cases table packet
  rwa [← lanClientProcessFrag_eq_collect, pcSearch_claim] at cases_

/-- With room, the slot search succeeds without evicting.
Witness: the match scan finds the matching slot, or else the free scan finds a free one.
-/
theorem FragTable.claim_spec {header : LanClientFragmentHeader} (room : table.HasRoom header.key)
    : ∃ claimed index,
        table.claim header = some (claimed, index)
        ∧ fragView.Writable table.frags header.key index
        ∧ table.Base header.key (claimed.frags index) := by
  cases found : fragView.match? table.frags header.key with
  | some index =>
    obtain ⟨used, key⟩ := SlotView.match?_some found
    refine ⟨table, index, by unfold claim; rw [found], Or.inl found, ⟨used, key, ?_⟩⟩
    exact Or.inl (by simp only [SlotView.content, found, map_some])
  | none =>
    have unused : ∃ index, fragView.used (table.frags index) = false := by
      obtain ⟨index, ⟨used, key⟩ | unused⟩ := room
      · exact absurd key (SlotView.match?_none_iff.mp found index used)
      · exact ⟨index, unused⟩
    obtain ⟨_, unused⟩ := unused
    obtain ⟨index, free⟩ := SlotView.free?_isSome unused
    refine ⟨table.allocate index header, index, by unfold claim; rw [found, free],
      Or.inr ⟨found, SlotView.free?_some free⟩, ⟨?_, ?_, ?_⟩⟩
    · simp [allocate, LanClientFragment.allocate]
    · simp [allocate, LanClientFragment.allocate, fragView,
        LanClientFragmentHeader.key]
    · refine Or.inr ⟨by simp only [SlotView.content, found, map_none], ?_⟩
      simp [allocate, LanClientFragment.allocate]

/-- What `lan_client_process_frag` does with an accepted fragment that finds room: it
stores the part in the slot of its key and, once the mask is full, releases that slot and
hands its contents on. No other key is affected.
-/
structure FragTable.Stored (table : FragTable) (packet : Bytes) (base : LanClientFragment)
    : Prop where
  distinct : fragView.Distinct (lanClientProcessFrag table packet).1.frags
  content
    : ∀ key,
        fragView.content (lanClientProcessFrag table packet).1.frags key
        = if key = (readFragmentHeader packet).key then
            (if (base.store (readFragmentHeader packet) packet).isFinished
                (readFragmentHeader packet) then none
              else some (base.store (readFragmentHeader packet) packet))
          else fragView.content table.frags key
  handed
    : (lanClientProcessFrag table packet).2
      = if (base.store (readFragmentHeader packet) packet).isFinished
            (readFragmentHeader packet) then
          some ⟨(base.store (readFragmentHeader packet) packet).buffer,
            (base.store (readFragmentHeader packet) packet).totalLen⟩
        else none

/-- A claimed slot is the match for its key, or there was none. -/
theorem FragTable.claim_claimable {claimed : FragTable} {header : LanClientFragmentHeader}
    (claim : table.claim header = some (claimed, index))
    : fragView.Claimable table.frags header.key index := (claim_claimed claim).claimable

/-- Keys stay distinct, also when a slot is evicted. -/
theorem lanClientProcessFrag_distinct (distinct : fragView.Distinct table.frags) (packet : Bytes)
    : fragView.Distinct (lanClientProcessFrag table packet).1.frags := by
  rw [lanClientProcessFrag_eq_collect]
  exact pcSearch.collect_distinct distinct packet

/-- Every accepted fragment that finds room is stored.
Witness: the claimed slot is writable for the key, so one slot update is one map update.
-/
theorem lanClientProcessFrag_stored {packet : Bytes} (distinct : fragView.Distinct table.frags)
    (accepted : isRejected packet (readFragmentHeader packet) = false)
    (room : table.HasRoom (readFragmentHeader packet).key)
    : ∃ base,
        table.Base (readFragmentHeader packet).key base ∧ table.Stored packet base := by
  obtain ⟨claimed, index, claim, writable, baseSpec⟩ := FragTable.claim_spec room
  refine ⟨claimed.frags index, baseSpec, lanClientProcessFrag_distinct distinct packet, ?_, ?_⟩
  all_goals
    rcases lanClientProcessFrag_cases table packet with
      ⟨refused, _⟩ | ⟨claimed', index', slot, _, claim', slotEq, result, output⟩
    · rw [accepted, claim] at refused
      simp at refused
    rw [claim] at claim'
    cases claim'
  · intro key
    have slotKey : fragView.key slot = (readFragmentHeader packet).key := by
      rw [slotEq]
      exact baseSpec.carries
    have slotUsed : slot.used = true := by
      rw [slotEq]
      exact baseSpec.used
    rw [result, distinct.content_update writable (by exact slotKey), ← slotEq]
    cases slot.isFinished (readFragmentHeader packet) with
    | true => rfl
    | false => simp only [Bool.not_false, LanClientFragment.mark_used slotUsed, fragView,
        slotUsed, if_true, Bool.false_eq_true, if_false]
  · rw [output, slotEq]

/-- One fragment takes at most one more slot. -/
theorem lanClientProcessFrag_usedCount_le (table : FragTable) (packet : Bytes)
    : fragView.usedCount (lanClientProcessFrag table packet).1.frags
      ≤ fragView.usedCount table.frags + 1 := by
  rcases lanClientProcessFrag_cases table packet with
    ⟨_, unchanged⟩ | ⟨_, index, slot, _, _, _, result, _⟩
  · rw [unchanged]
    exact Nat.le_succ _
  · rw [result]
    exact fragView.usedCount_update_le table.frags index _

/-- Fewer fragments than slots cannot fill the initial table.
Witness: each fragment takes at most one slot, so one is still free.
-/
theorem hasRoom_of_few {packets : List Bytes} (few : packets.length < lcFragCount)
    (key : FragKey)
    : (fragReceiver.run .init packets).HasRoom key := by
  have counted : fragView.usedCount (fragReceiver.run .init packets).frags ≤ packets.length :=
    fragReceiver.run_induction
      (fun history table => fragView.usedCount table.frags ≤ history.length)
      (by simp [FragTable.init, SlotView.usedCount, fragView, LanClientFragment.zero])
      (fun history table packet bounded => by
        rw [List.length_append]
        exact (lanClientProcessFrag_usedCount_le table packet).trans
          (Nat.add_le_add_right bounded 1))
      packets
  obtain ⟨index, unused⟩ := SlotView.exists_free (Nat.lt_of_le_of_lt counted few)
  exact ⟨index, Or.inr unused⟩

end SwitchLanPlay.Client
