import SwitchLanPlay.Client.Eviction

/-! Which slot a full fragment table gives up. The scan compares sixteen bits of an allocation
number with a counter that has more, so it finds the slot with the least low bits, the oldest one
only until the counter passes a multiple of 65536.
-/

namespace SwitchLanPlay.Client

open List Function
open Foundation
open Packet

variable {table : FragTable} {packet : Bytes} {index : Fin lcFragCount}

variable {aged : Aged} {numbers : Nat → Nat} {count counter : Nat}

-- The slot the scan finds

namespace FragTable

/-- What the scan over some slots finds: the first of those in use that are farthest away. -/
structure Scanned (table : FragTable) (indices : List (Fin lcFragCount))
    (best : Nat × Option (Fin lcFragCount))
    : Prop where
  bound : ∀ index ∈ indices, (table.frags index).used = true → table.distance index ≤ best.1
  chosen
    : ∀ found,
        best.2 = some found
        → best.1 = table.distance found
          ∧ ∀ index ∈ indices,
              index < found → (table.frags index).used = true → table.distance index < best.1

/-- One more slot, behind those scanned so far. -/
theorem Scanned.farther {indices : List (Fin lcFragCount)}
    {best : Nat × Option (Fin lcFragCount)} (scanned : table.Scanned indices best)
    {next : Fin lcFragCount} (behind : ∀ index ∈ indices, index < next)
    (within : ∀ found, best.2 = some found → found ∈ indices)
    : table.Scanned (indices ++ [next]) (table.farther best next) := by
  unfold FragTable.farther
  split
  · rename_i better
    refine ⟨?_, ?_⟩
    · intro index member used
      rcases mem_append.mp member with earlier | last
      · exact (scanned.bound index earlier used).trans better.2.le
      · rw [mem_singleton.mp last]
    · rintro found same
      cases same
      refine ⟨rfl, fun index member before used => ?_⟩
      rcases mem_append.mp member with earlier | last
      · exact (scanned.bound index earlier used).trans_lt better.2
      · rw [mem_singleton.mp last] at before
        exact absurd before (lt_irrefl next)
  · rename_i closer
    refine ⟨?_, ?_⟩
    · intro index member used
      rcases mem_append.mp member with earlier | last
      · exact scanned.bound index earlier used
      · rw [mem_singleton.mp last] at used ⊢
        exact Nat.not_lt.mp (fun nearer => closer ⟨used, nearer⟩)
    · intro found same
      obtain ⟨distance, first⟩ := scanned.chosen found same
      refine ⟨distance, fun index member before used => ?_⟩
      rcases mem_append.mp member with earlier | last
      · exact first index earlier before used
      · rw [mem_singleton.mp last] at before
        exact absurd (before.trans (behind found (within found same))) (lt_irrefl next)

theorem scanned_foldl (table : FragTable) {indices : List (Fin lcFragCount)}
    (ordered : indices.Pairwise (· < ·))
    : table.Scanned indices (indices.foldl table.farther (0, none))
      ∧ ∀ found, (indices.foldl table.farther (0, none)).2 = some found → found ∈ indices := by
  induction indices using reverseRecOn with
  | nil => exact ⟨⟨by simp, by simp⟩, by simp⟩
  | append_singleton indices next ih =>
    obtain ⟨ordered, _, before⟩ := pairwise_append.mp ordered
    obtain ⟨scanned, within⟩ := ih ordered
    have behind (index : Fin lcFragCount) (member : index ∈ indices) : index < next :=
      before index member next (mem_singleton.mpr rfl)
    rw [foldl_append, foldl_cons, foldl_nil]
    refine ⟨scanned.farther behind within, ?_⟩
    intro found same
    unfold farther at same
    split at same
    · cases same
      exact mem_append_right _ (mem_singleton.mpr rfl)
    · exact mem_append_left _ (within found same)

/-- `lan_client_process_frag` gives up slot `index` for the packet: the packet is accepted, no slot
has its key and none is free.
-/
structure Evicts (table : FragTable) (packet : Bytes) (index : Fin lcFragCount)
    : Prop where
  accepted : isRejected packet (readFragmentHeader packet) = false
  missing : fragView.match? table.frags (readFragmentHeader packet).key = none
  full : ∀ other, (table.frags other).used = true
  evicted
    : table.claim (readFragmentHeader packet)
      = some (table.allocate index (readFragmentHeader packet), index)

theorem free?_of_full (full : ∀ other, (table.frags other).used = true)
    : fragView.free? table.frags = none := by
  apply Fin.find?_eq_none_iff.mpr
  intro index
  simpa [fragView] using full index

/-- The slot that is given up is the first of the farthest ones. -/
theorem Evicts.farthest (evicts : table.Evicts packet index) (other : Fin lcFragCount)
    : table.distance other ≤ table.distance index
      ∧ (other < index → table.distance other < table.distance index) := by
  have claim := evicts.evicted
  unfold FragTable.claim at claim
  rw [evicts.missing, free?_of_full evicts.full] at claim
  obtain ⟨found, choice, taken⟩ := Option.bind_eq_some_iff.mp claim
  split at taken
  · obtain rfl : found = index := (Prod.mk.inj (Option.some.inj taken)).2
    rw [farthest_eq] at choice
    have scanned := (table.scanned_foldl (pairwise_lt_finRange lcFragCount)).1
    obtain ⟨distance, first⟩ := scanned.chosen found choice
    rw [← distance]
    exact ⟨scanned.bound other (mem_finRange other) (evicts.full other),
      fun before => first other (mem_finRange other) before (evicts.full other)⟩
  · cases taken

end FragTable

-- Allocation numbers

/-- The table with the whole allocation number of every slot, of which the source keeps sixteen
bits.
-/
structure Aged where
  table : FragTable
  born : Fin lcFragCount → Nat

def Aged.init : Aged := ⟨.init, fun _ => 0⟩

/-- `lan_client_process_frag`; a slot that is taken gets the number of the allocation. -/
def Aged.receive (aged : Aged) (packet : Bytes) : Aged × Option Handed :=
  let header := readFragmentHeader packet
  let received := lanClientProcessFrag aged.table packet
  let born :=
    if isRejected packet header || (fragView.match? aged.table.frags header.key).isSome then
      aged.born
    else
      match aged.table.claim header with
      | none => aged.born
      | some (_, index) => update aged.born index aged.table.localId
  (⟨received.1, born⟩, received.2)

def agedReceiver : Machine Aged Bytes (Option Handed) := ⟨Aged.receive⟩

/-- What a fragment does to the numbers: they stay as they are while the counter does, or one slot
gets the counter as its number.
-/
theorem Aged.receive_cases (aged : Aged) (packet : Bytes)
    : ((aged.receive packet).1.born = aged.born
        ∧ (aged.receive packet).1.table.localId = aged.table.localId
        ∧ ∀ index,
            ((aged.receive packet).1.table.frags index).localId
              = (aged.table.frags index).localId
            ∧ (((aged.receive packet).1.table.frags index).used = true
              → (aged.table.frags index).used = true))
      ∨ ∃ index,
          (aged.receive packet).1.born = update aged.born index aged.table.localId
          ∧ (aged.receive packet).1.table.localId = aged.table.localId + 1
          ∧ ((aged.receive packet).1.table.frags index).localId = aged.table.localId % 65536
          ∧ ∀ other,
              other ≠ index
              → (aged.receive packet).1.table.frags other = aged.table.frags other := by
  unfold receive
  dsimp only
  rcases lanClientProcessFrag_cases aged.table packet with
    ⟨refused, unchanged⟩ | ⟨claimed, index, slot, accepted, claim, slotEq, result, _⟩
  · left
    rw [unchanged]
    refine ⟨?_, rfl, fun index => ⟨rfl, id⟩⟩
    split
    · rfl
    · rename_i found
      rcases refused with rejected | none
      · simp [rejected] at found
      · rw [none]
  · rw [result, accepted, claim]
    have sound := FragTable.claim_claimed claim
    cases sound with
    | found matched =>
      left
      rw [matched]
      refine ⟨rfl, rfl, fun other => ?_⟩
      dsimp only
      by_cases here : other = index
      · subst here
        simp only [update_self, slotEq, LanClientFragment.store]
        exact ⟨trivial, fun _ => (SlotView.match?_some matched).1⟩
      · rw [update_of_ne here]
        exact ⟨rfl, id⟩
    | taken missing =>
      right
      rw [missing]
      refine ⟨index, rfl, rfl, ?_, fun other apart => update_of_ne apart ..⟩
      simp [slotEq, LanClientFragment.store, FragTable.allocate, LanClientFragment.allocate]

/-- The numbers of the slots in use are below the counter and distinct, and the slots keep their low
sixteen bits.
-/
structure Aged.Counted (aged : Aged) : Prop where
  below : ∀ index, (aged.table.frags index).used = true → aged.born index < aged.table.localId
  kept
    : ∀ index,
        (aged.table.frags index).used = true
        → (aged.table.frags index).localId = aged.born index % 65536
  distinct
    : ∀ left right,
        (aged.table.frags left).used = true
        → (aged.table.frags right).used = true
        → aged.born left = aged.born right
        → left = right

theorem Aged.init_counted : Aged.init.Counted where
  below _ used := by cases used
  kept _ used := by cases used
  distinct _ _ used := by cases used

theorem Aged.Counted.receive (counted : aged.Counted) (packet : Bytes)
    : (aged.receive packet).1.Counted := by
  rcases aged.receive_cases packet with
    ⟨born, counter, slots⟩ | ⟨index, born, counter, number, others⟩
  · refine ⟨?_, ?_, ?_⟩
    · intro index used
      rw [born, counter]
      exact counted.below index ((slots index).2 used)
    · intro index used
      rw [born, (slots index).1]
      exact counted.kept index ((slots index).2 used)
    · intro left right leftUsed rightUsed same
      rw [born] at same
      exact counted.distinct left right ((slots left).2 leftUsed) ((slots right).2 rightUsed) same
  · have older {other : Fin lcFragCount} (apart : other ≠ index)
        (used : ((aged.receive packet).1.table.frags other).used = true)
        : (aged.table.frags other).used = true := by
      rwa [others other apart] at used
    refine ⟨?_, ?_, ?_⟩
    · intro other used
      rw [born, counter]
      by_cases here : other = index
      · rw [here, update_self]
        exact Nat.lt_succ_self _
      · rw [update_of_ne here]
        exact (counted.below other (older here used)).trans (Nat.lt_succ_self _)
    · intro other used
      rw [born]
      by_cases here : other = index
      · rw [here, update_self, number]
      · rw [update_of_ne here, others other here]
        exact counted.kept other (older here used)
    · intro left right leftUsed rightUsed same
      rw [born] at same
      by_cases leftHere : left = index <;> by_cases rightHere : right = index
      · rw [leftHere, rightHere]
      · rw [leftHere, update_self, update_of_ne rightHere] at same
        exact absurd same (counted.below right (older rightHere rightUsed)).ne'
      · rw [rightHere, update_self, update_of_ne leftHere] at same
        exact absurd same (counted.below left (older leftHere leftUsed)).ne
      · rw [update_of_ne leftHere, update_of_ne rightHere] at same
        exact counted.distinct left right (older leftHere leftUsed) (older rightHere rightUsed) same

theorem agedReceiver_counted (packets : List Bytes) : (agedReceiver.run .init packets).Counted :=
  agedReceiver.run_invariant Aged.Counted (fun _ packet counted => counted.receive packet)
    Aged.init_counted packets

-- The oldest slot

def Aged.Oldest (aged : Aged) (index : Fin lcFragCount) : Prop :=
  ∀ other, aged.born index ≤ aged.born other

/-- The low sixteen bits of the slot's number are less than those of the slots in front of it and
not above those of the slots behind it.
-/
def Aged.LeastLow (aged : Aged) (index : Fin lcFragCount) : Prop :=
  ∀ other,
    aged.born index % 65536 < aged.born other % 65536
    ∨ (aged.born index % 65536 = aged.born other % 65536 ∧ index ≤ other)

theorem Aged.LeastLow.unique {left right : Fin lcFragCount} (leastLeft : aged.LeastLow left)
    (leastRight : aged.LeastLow right)
    : left = right := by
  rcases leastLeft right with less | ⟨same, before⟩
  · rcases leastRight left with more | ⟨equal, _⟩
    · omega
    · omega
  · rcases leastRight left with more | ⟨_, after⟩
    · omega
    · exact le_antisymm before after

/-- The distance of a slot is what its low bits lack of the counter. -/
theorem Aged.Counted.distance_eq (counted : aged.Counted)
    (used : (aged.table.frags index).used = true)
    : aged.table.distance index = aged.table.localId - aged.born index % 65536 := by
  have below := counted.below index used
  have low := Nat.mod_le (aged.born index) 65536
  rw [FragTable.distance, counted.kept index used]
  omega

/-- The slot that is given up has the least low bits. -/
theorem Aged.Counted.leastLow (counted : aged.Counted) (evicts : aged.table.Evicts packet index)
    : aged.LeastLow index := by
  intro other
  obtain ⟨atMost, first⟩ := evicts.farthest other
  rw [counted.distance_eq (evicts.full index), counted.distance_eq (evicts.full other)]
    at atMost first
  have below := counted.below index (evicts.full index)
  have belowOther := counted.below other (evicts.full other)
  have low := Nat.mod_le (aged.born index) 65536
  have lowOther := Nat.mod_le (aged.born other) 65536
  by_cases before : other < index
  · have nearer := first before
    left
    omega
  · rcases Nat.lt_or_ge (aged.born index % 65536) (aged.born other % 65536) with less | more
    · exact Or.inl less
    · exact Or.inr ⟨by omega, not_lt.mp before⟩

/-- In every run of the PC client, a slot that is given up is the oldest one exactly when the oldest
slot has the least low bits.
-/
theorem evicts_oldest_iff {packets : List Bytes} {packet : Bytes} {index : Fin lcFragCount}
    (evicts : (agedReceiver.run .init packets).table.Evicts packet index)
    : (agedReceiver.run .init packets).Oldest index
      ↔ ∀ oldest,
          (agedReceiver.run .init packets).Oldest oldest
          → (agedReceiver.run .init packets).LeastLow oldest := by
  have counted := agedReceiver_counted packets
  have least := counted.leastLow evicts
  constructor
  · intro first oldest earliest
    have same : oldest = index :=
      counted.distinct oldest index (evicts.full oldest) (evicts.full index)
        (le_antisymm (earliest index) (first oldest))
    rw [same]
    exact least
  · intro low
    have nonempty : Nonempty (Fin lcFragCount) := ⟨index⟩
    obtain ⟨oldest, earliest⟩ := Finite.exists_min (agedReceiver.run .init packets).born
    rw [least.unique (low oldest earliest)]
    exact earliest

/-- The numbers do not change what the client does. -/
theorem agedReceiver_fragReceiver (packets : List Bytes)
    : (agedReceiver.run .init packets).table = fragReceiver.run .init packets
      ∧ agedReceiver.outputs .init packets = fragReceiver.outputs .init packets := by
  induction packets using reverseRecOn with
  | nil => exact ⟨rfl, rfl⟩
  | append_singleton packets packet ih =>
    rw [Machine.run_concat, Machine.run_concat, Machine.outputs_concat, Machine.outputs_concat,
      ih.2, ← ih.1]
    exact ⟨rfl, rfl⟩

-- A full table

/-- The first `count` slots collect packets from 10.13.0.1 with the identifiers 0, 1, … and the
given allocation numbers, the others are free, and the counter has come to `counter`.
-/
structure Aged.Filled (aged : Aged) (numbers : Nat → Nat) (count counter : Nat) : Prop where
  counter : aged.table.localId = counter
  taken
    : ∀ index : Fin lcFragCount,
        index.val < count
        → (aged.table.frags index).used = true
          ∧ fragView.key (aged.table.frags index) = (⟨10, 13, 0, 1⟩, index.val)
          ∧ aged.born index = numbers index.val
  free : ∀ index : Fin lcFragCount, count ≤ index.val → (aged.table.frags index).used = false

def wholeFragment : Bytes :=
  (⟨⟨10, 13, 0, 3⟩, ⟨10, 13, 0, 2⟩, 0, 0, 1, 1, 500⟩ : LanClientFragmentHeader).toBytes ++ [0]

theorem readFragmentHeader_wholeFragment
    : readFragmentHeader wholeFragment
      = ⟨⟨10, 13, 0, 3⟩, ⟨10, 13, 0, 2⟩, 0, 0, 1, 1, 500⟩ := by
  rw [wholeFragment, readFragmentHeader_toBytes_append]
  rfl

/-- What a fragment with a new key does while slots are free: it takes the next one. -/
theorem Aged.Filled.receive_new (filled : aged.Filled numbers count counter)
    (more : count < lcFragCount) (accepted : isRejected packet (readFragmentHeader packet) = false)
    (new
      : ∀ index : Fin lcFragCount,
          index.val < count
          → fragView.key (aged.table.frags index) ≠ (readFragmentHeader packet).key)
    : (aged.receive packet).1.born = update aged.born ⟨count, more⟩ counter
      ∧ (aged.receive packet).1.table.localId = counter + 1
      ∧ ∃ slot,
          slot
            = (((aged.table.frags ⟨count, more⟩).allocate (readFragmentHeader packet) counter).store
                (readFragmentHeader packet) packet)
          ∧ (aged.receive packet).1.table.frags
            = update aged.table.frags ⟨count, more⟩
                { slot with used := !slot.isFinished (readFragmentHeader packet) } := by
  have missing := FragTable.match?_eq_none new filled.free
  have claim := FragTable.claim_next more (fun index below => (filled.taken index below).1)
    filled.free missing
  unfold receive
  dsimp only
  rcases lanClientProcessFrag_cases aged.table packet with
    ⟨refused, _⟩ | ⟨claimed, index, slot, _, again, slotEq, result, _⟩
  · rw [accepted, claim] at refused
    simp at refused
  rw [claim] at again
  cases again
  rw [result, accepted, missing, claim]
  refine ⟨by rw [← filled.counter]; rfl, by rw [← filled.counter]; rfl, slot, ?_, rfl⟩
  rw [slotEq, ← filled.counter]
  simp [FragTable.allocate]

/-- A packet of one part counts as an allocation and leaves the slots as they are. -/
theorem Aged.Filled.whole (filled : aged.Filled numbers count counter) (more : count < lcFragCount)
    : (aged.receive wholeFragment).1.Filled numbers count (counter + 1) := by
  have header := readFragmentHeader_wholeFragment
  have accepted : isRejected wholeFragment (readFragmentHeader wholeFragment) = false := by decide
  have new (index : Fin lcFragCount) (below : index.val < count)
      : fragView.key (aged.table.frags index) ≠ (readFragmentHeader wholeFragment).key := by
    rw [(filled.taken index below).2.1, header]
    exact fun same => absurd (Prod.mk.inj same).1 (by decide)
  obtain ⟨born, localId, slot, slotEq, frags⟩ := filled.receive_new more accepted new
  have finished : slot.isFinished (readFragmentHeader wholeFragment) = true := by
    rw [slotEq, header]
    simp [LanClientFragment.isFinished, LanClientFragment.store, LanClientFragment.allocate]
  rw [finished] at frags
  refine ⟨localId, ?_, ?_⟩
  · intro index below
    have other : index ≠ ⟨count, more⟩ := Fin.ne_of_val_ne (Nat.ne_of_lt below)
    rw [born, frags, update_of_ne other, update_of_ne other]
    exact filled.taken index below
  · intro index beyond
    rw [frags]
    by_cases here : index = ⟨count, more⟩
    · rw [here, update_self]
      rfl
    · rw [update_of_ne here]
      exact filled.free index beyond

/-- The first of two parts with the next identifier takes the next slot and stays there. -/
theorem Aged.Filled.first (filled : aged.Filled numbers count counter) (more : count < lcFragCount)
    (number : numbers count = counter)
    : (aged.receive (firstFragment count)).1.Filled numbers (count + 1) (counter + 1) := by
  have header := readFragmentHeader_firstFragment (more.trans (by decide) : count < 65536)
  have accepted : isRejected (firstFragment count) (readFragmentHeader (firstFragment count))
      = false := by
    rw [header]
    simp [isRejected, firstFragment, lcFragHeaderLen, etherMtu]
  have new (index : Fin lcFragCount) (below : index.val < count)
      : fragView.key (aged.table.frags index)
        ≠ (readFragmentHeader (firstFragment count)).key := by
    rw [(filled.taken index below).2.1, header]
    exact fun same => absurd (Prod.mk.inj same).2 (Nat.ne_of_lt below)
  obtain ⟨born, localId, slot, slotEq, frags⟩ := filled.receive_new more accepted new
  have unfinished : slot.isFinished (readFragmentHeader (firstFragment count)) = false := by
    rw [slotEq, header]
    simp [LanClientFragment.isFinished, LanClientFragment.store, LanClientFragment.allocate]
  rw [unfinished] at frags
  refine ⟨localId, ?_, ?_⟩
  · intro index below
    rw [born, frags]
    by_cases here : index = ⟨count, more⟩
    · rw [here, update_self, update_self, slotEq, header]
      exact ⟨rfl, rfl, number.symm⟩
    · have earlier : index.val < count := by
        have apart : index.val ≠ count := fun same => here (Fin.ext same)
        omega
      rw [update_of_ne here, update_of_ne here]
      exact filled.taken index earlier
  · intro index beyond
    have other : index ≠ ⟨count, more⟩ := Fin.ne_of_val_ne (by dsimp only; omega)
    rw [frags, update_of_ne other]
    exact filled.free index (by omega)

theorem Aged.init_filled (numbers : Nat → Nat) : Aged.init.Filled numbers 0 0 where
  counter := rfl
  taken _ impossible := absurd impossible (Nat.not_lt_zero _)
  free _ _ := rfl

theorem Aged.Filled.wholes (filled : aged.Filled numbers count counter) (more : count < lcFragCount)
    (times : Nat)
    : (agedReceiver.run aged (replicate times wholeFragment)).Filled numbers count
        (counter + times) := by
  induction times with
  | zero => exact filled
  | succ times ih =>
    rw [replicate_succ', Machine.run_concat]
    exact ih.whole more

theorem Aged.Filled.firsts {start : Nat} (filled : aged.Filled numbers 0 start)
    (few : count ≤ lcFragCount) (numbered : ∀ index < count, numbers index = start + index)
    : (agedReceiver.run aged ((range count).map firstFragment)).Filled numbers count
        (start + count) := by
  induction count with
  | zero => exact filled
  | succ count ih =>
    rw [range_succ, map_append, map_singleton, Machine.run_concat]
    exact (ih (Nat.le_of_succ_le few) (fun index below => numbered index (by omega))).first few
      (numbered count (Nat.lt_succ_self count))

/-- A full table gives up a slot when the counter is far enough from one of them. -/
theorem Aged.Filled.evicts (counted : aged.Counted)
    (filled : aged.Filled numbers lcFragCount counter) {far : Fin lcFragCount}
    (distant : lcFragCount < counter - numbers far.val % 65536)
    : ∃ index, aged.table.Evicts (firstFragment lcFragCount) index := by
  have accepted : isRejected (firstFragment lcFragCount)
      (readFragmentHeader (firstFragment lcFragCount)) = false := by
    decide
  have full (index : Fin lcFragCount) : (aged.table.frags index).used = true :=
    (filled.taken index index.isLt).1
  have header : readFragmentHeader (firstFragment lcFragCount)
      = ⟨⟨10, 13, 0, 1⟩, ⟨10, 13, 0, 2⟩, lcFragCount, 0, 2, 1, 500⟩ :=
    readFragmentHeader_firstFragment (by decide)
  have missing : fragView.match? aged.table.frags
      (readFragmentHeader (firstFragment lcFragCount)).key = none := by
    apply SlotView.match?_none_iff.mpr
    intro index _
    rw [(filled.taken index index.isLt).2.1, header]
    exact fun same => absurd (Prod.mk.inj same).2 (Nat.ne_of_lt index.isLt)
  have admits : aged.table.Admits := by
    refine ⟨far, Or.inr ?_⟩
    rw [counted.distance_eq (full far), filled.counter, (filled.taken far far.isLt).2.2]
    exact distant
  have new : fragView.content aged.table.frags
      (readFragmentHeader (firstFragment lcFragCount)).key = none := by
    rw [SlotView.content, missing, Option.map_none]
  cases claim : aged.table.claim (readFragmentHeader (firstFragment lcFragCount)) with
  | none => exact absurd admits ((FragTable.claim_eq_none_iff new).mp claim)
  | some pair =>
    obtain ⟨claimed, index⟩ := pair
    cases FragTable.claim_claimed claim with
    | found matched =>
      rw [missing] at matched
      cases matched
    | taken => exact ⟨index, accepted, missing, full, claim⟩

/-- Ninety-nine packets with one part missing, a whole packet and one more with a part missing. -/
def earlyPackets : List Bytes := (range 99).map firstFragment ++ [wholeFragment, firstFragment 99]

/-- A whole packet between the slots 98 and 99. -/
theorem Aged.Filled.last_two (filled : aged.Filled numbers 99 99) (number : numbers 99 = 100)
    : (agedReceiver.run aged [wholeFragment, firstFragment 99]).Filled numbers lcFragCount 101 :=
  (filled.whole (Nat.lt_succ_self 99)).first (Nat.lt_succ_self 99) number

theorem earlyPackets_filled
    : (agedReceiver.run .init earlyPackets).Filled (fun index => if index = 99 then 100 else index)
        lcFragCount 101 := by
  have firsts := (Aged.init_filled (fun index => if index = 99 then 100 else index)).firsts
    (Nat.le_succ 99) (fun index below => by rw [if_neg (Nat.ne_of_lt below), Nat.zero_add])
  rw [Nat.zero_add] at firsts
  rw [earlyPackets, Machine.run_append]
  exact firsts.last_two (if_pos rfl)

theorem evicts_oldest_iff_early
    : ∃ index,
        (agedReceiver.run .init earlyPackets).table.Evicts (firstFragment lcFragCount) index
        ∧ (agedReceiver.run .init earlyPackets).Oldest index := by
  have filled := earlyPackets_filled
  have counted := agedReceiver_counted earlyPackets
  obtain ⟨index, evicts⟩ := filled.evicts counted
    (show lcFragCount < 101 - (if (⟨0, Nat.zero_lt_succ 99⟩ : Fin lcFragCount).val = 99 then 100
      else (⟨0, Nat.zero_lt_succ 99⟩ : Fin lcFragCount).val) % 65536 by decide)
  refine ⟨index, evicts, (evicts_oldest_iff evicts).mpr ?_⟩
  intro oldest earliest other
  have below (slot : Fin lcFragCount)
      : (agedReceiver.run .init earlyPackets).born slot < 65536 := by
    have bound := counted.below slot (evicts.full slot)
    rw [filled.counter] at bound
    omega
  rw [Nat.mod_eq_of_lt (below oldest), Nat.mod_eq_of_lt (below other)]
  rcases Nat.lt_or_eq_of_le (earliest other) with less | same
  · exact Or.inl less
  · exact Or.inr ⟨same, (counted.distinct oldest other (evicts.full oldest) (evicts.full other)
      same).le⟩

/-- Whole packets until the counter is 65535, then the first parts of a hundred packets. -/
def wrapPackets : List Bytes :=
  replicate 65535 wholeFragment ++ (range lcFragCount).map firstFragment

theorem wrapPackets_filled
    : (agedReceiver.run .init wrapPackets).Filled (fun index => 65535 + index) lcFragCount
        (65535 + lcFragCount) := by
  have start := (Aged.init_filled (fun index => 65535 + index)).wholes (by decide) 65535
  rw [Nat.zero_add] at start
  rw [wrapPackets, Machine.run_append]
  exact start.firsts le_rfl (fun _ _ => rfl)

/-- The counter passes 65536 while the table fills: the slot with the number 65536, whose low bits
are zero, is given up, although the slot with the number 65535 is older.
-/
theorem newer_slot_evicted
    : ∃ index,
        (agedReceiver.run .init wrapPackets).table.Evicts (firstFragment lcFragCount) index
        ∧ ¬ (agedReceiver.run .init wrapPackets).Oldest index := by
  have filled := wrapPackets_filled
  have counted := agedReceiver_counted wrapPackets
  generalize agedReceiver.run .init wrapPackets = aged at filled counted ⊢
  have number (index : Fin lcFragCount) : aged.born index = 65535 + index.val :=
    (filled.taken index index.isLt).2.2
  obtain ⟨index, evicts⟩ := filled.evicts counted
    (show lcFragCount
      < 65535 + lcFragCount - (65535 + (⟨1, Nat.one_lt_succ_succ 98⟩ : Fin lcFragCount).val) % 65536
      by decide)
  refine ⟨index, evicts, fun oldest => ?_⟩
  have first := oldest ⟨0, Nat.zero_lt_succ 99⟩
  have least := counted.leastLow evicts ⟨1, Nat.one_lt_succ_succ 98⟩
  rw [number, number] at first least
  dsimp only at first least
  omega

end SwitchLanPlay.Client
