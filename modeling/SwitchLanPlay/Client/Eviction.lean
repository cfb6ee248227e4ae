import SwitchLanPlay.Client.PacketParts

/-! When the fragment table takes a new packet. A full table gives up a slot only if its
allocation number is more than `LC_FRAG_COUNT` away from the counter, and a refused fragment
does not advance the counter.
-/

namespace SwitchLanPlay.Client

open List
open Foundation
open Packet

variable {table : FragTable} {sending : Sending} {count : Nat}

/-- `LABS(frags[i].local_id - lan_play->local_id)` -/
def FragTable.distance (table : FragTable) (index : Fin lcFragCount) : Nat :=
  ((table.frags index).localId - table.localId : Int).natAbs

/-- The table has a slot for a new packet: one is free, or the allocation number of one is
more than `LC_FRAG_COUNT` away from the counter.
-/
def FragTable.Admits (table : FragTable) : Prop :=
  ∃ index, (table.frags index).used = false ∨ lcFragCount < table.distance index

/-- The fragment is in a slot afterwards: under its key, marked in the mask and with its
octets in place.
-/
def FragTable.Takes (table : FragTable) (packet : Bytes) : Prop :=
  ∃ index,
    fragView.key ((lanClientProcessFrag table packet).1.frags index)
      = (readFragmentHeader packet).key
    ∧ ((lanClientProcessFrag table packet).1.frags index).part.testBit
        (readFragmentHeader packet).part = true
    ∧ ∀ k < (readFragmentHeader packet).len,
        ∀ position : Fin etherMtu,
          position.val = (readFragmentHeader packet).pmtu * (readFragmentHeader packet).part + k
          → ((lanClientProcessFrag table packet).1.frags index).buffer position
            = packet.getD (lcFragHeaderLen + k) 0

/-- The fragments of a packet, arriving in order, hand on exactly the packet. -/
def FragTable.Delivers (table : FragTable) (sending : Sending) : Prop :=
  (fragReceiver.outputs table sending.fragments).reduceOption.map Handed.bytes
  = [sending.packet]

-- The eviction scan

def FragTable.farther (table : FragTable) (best : Nat × Option (Fin lcFragCount))
    (index : Fin lcFragCount)
    : Nat × Option (Fin lcFragCount) :=
  if (table.frags index).used ∧ best.1 < table.distance index then
    (table.distance index, some index)
  else best

theorem FragTable.farthest_eq (table : FragTable)
    : table.farthest = (finRange lcFragCount).foldl table.farther (0, none) := rfl

/-- The scan passes a bound exactly when it starts above it or some slot in use is above it.
Witness: induction over the slots with the best so far general.
-/
theorem FragTable.lt_scan_iff (table : FragTable) (bound : Nat)
    (indices : List (Fin lcFragCount)) (best : Nat × Option (Fin lcFragCount))
    : bound < (indices.foldl table.farther best).1
      ↔ bound < best.1
        ∨ ∃ index ∈ indices, (table.frags index).used = true ∧ bound < table.distance index
      := by
  induction indices generalizing best with
  | nil => simp
  | cons index rest ih =>
    rw [foldl_cons, ih]
    simp only [mem_cons, exists_eq_or_imp, ← or_assoc]
    refine or_congr_left ?_
    unfold FragTable.farther
    split
    · rename_i farther
      simp only [farther.1, true_and]
      omega
    · rename_i closer
      constructor
      · exact Or.inl
      · rintro (before | ⟨used, above⟩)
        · exact before
        · have bounded := not_and.mp closer used
          omega

/-- A positive distance comes with a slot. -/
theorem FragTable.scan_isSome (table : FragTable) (indices : List (Fin lcFragCount))
    (best : Nat × Option (Fin lcFragCount)) (chosen : 0 < best.1 → best.2.isSome)
    (positive : 0 < (indices.foldl table.farther best).1)
    : (indices.foldl table.farther best).2.isSome := by
  induction indices generalizing best with
  | nil => exact chosen positive
  | cons index rest ih =>
    refine ih (table.farther best index) ?_ positive
    unfold farther
    split
    · exact fun _ => rfl
    · exact chosen

/-- For a new key, the slot search fails exactly when the table does not admit a packet. -/
theorem FragTable.claim_eq_none_iff {header : LanClientFragmentHeader}
    (new : fragView.content table.frags header.key = none)
    : table.claim header = none ↔ ¬ table.Admits := by
  have missing : fragView.match? table.frags header.key = none := Option.map_eq_none_iff.mp new
  cases free : fragView.free? table.frags with
  | some index =>
    have unused := SlotView.free?_some free
    have claim : table.claim header = some (table.allocate index header, index) := by
      unfold FragTable.claim
      rw [missing, free]
    rw [claim]
    simp only [reduceCtorEq, false_iff, not_not]
    exact ⟨index, Or.inl unused⟩
  | none =>
    have full (index : Fin lcFragCount) : (table.frags index).used = true :=
      SlotView.free?_none free index
    have claim : table.claim header = table.evict header := by
      unfold FragTable.claim
      rw [missing, free]
    have far : lcFragCount < table.farthest.1 ↔ table.Admits := by
      rw [farthest_eq, lt_scan_iff]
      simp [FragTable.Admits, full]
    rw [claim, evict, ← far]
    cases choice : table.farthest.2 with
    | none =>
      have near : ¬ 0 < table.farthest.1 := by
        intro positive
        have some_ := table.scan_isSome _ (0, none)
          (fun impossible => absurd impossible (by decide)) positive
        rw [← farthest_eq, choice] at some_
        cases some_
      simp only [Option.bind_none, true_iff]
      omega
    | some index => simp

-- One fragment

/-- Keys are distinct in every table that fragments can produce. -/
theorem distinct_run (packets : List Bytes)
    : fragView.Distinct (fragReceiver.run .init packets).frags := by
  refine fragReceiver.run_invariant (fun table => fragView.Distinct table.frags)
    (fun table packet distinct => lanClientProcessFrag_distinct distinct packet) ?_ packets
  intro left right used
  cases used

/-- An accepted fragment of a new packet is taken exactly when the table admits one.
Witness: if the search finds a slot the part is stored there; if not, nothing changes, and
all slots are in use under other keys.
-/
theorem FragTable.takes_iff {packet : Bytes}
    (accepted : isRejected packet (readFragmentHeader packet) = false)
    (new : fragView.content table.frags (readFragmentHeader packet).key = none)
    : table.Takes packet ↔ table.Admits := by
  have search := claim_eq_none_iff new
  rcases lanClientProcessFrag_cases table packet with
    ⟨refused, unchanged⟩ | ⟨claimed, index, slot, _, claim, slotEq, result, _⟩
  · have closed : ¬ table.Admits :=
      search.mp (refused.resolve_left (by rw [accepted]; exact Bool.false_ne_true))
    refine iff_of_false ?_ closed
    rintro ⟨index, key, _⟩
    rw [unchanged] at key
    have used : (table.frags index).used = true := by
      by_contra unused
      exact closed ⟨index, Or.inl (Bool.not_eq_true _ ▸ unused)⟩
    exact SlotView.content_none_iff.mp new index used key
  · have admits : table.Admits := by
      by_contra closed
      rw [search.mpr closed] at claim
      cases claim
    refine iff_of_true ⟨index, ?_⟩ admits
    obtain ⟨_, key, _⟩ := claim_base claim
    simp only [isRejected, Bool.or_eq_false_iff, decide_eq_false_iff_not] at accepted
    rw [result]
    simp only [Function.update_self]
    refine ⟨by rw [slotEq]; exact key, ?_, ?_⟩
    · rw [slotEq, LanClientFragment.testBit_store (by omega)]
      exact Or.inl rfl
    · intro k inside position here
      have length : (slice packet lcFragHeaderLen (readFragmentHeader packet).len).length
          = (readFragmentHeader packet).len := by
        rw [slice_length]
        omega
      rw [slotEq]
      simp only [LanClientFragment.store]
      rw [memcpy_inside _ (by omega) (by omega), here, Nat.add_sub_cancel_left, slice]
      simp only [getD_eq_getElem?_getD]
      rw [getElem?_take_of_lt inside, getElem?_drop]

-- The fragments of a packet in order

def FragTable.handsOn (table : FragTable) (packets : List Bytes) : List Bytes :=
  (fragReceiver.outputs table packets).reduceOption.map Handed.bytes

theorem FragTable.handsOn_cons (table : FragTable) (packet : Bytes) (rest : List Bytes)
    : table.handsOn (packet :: rest)
      = ((lanClientProcessFrag table packet).2.map Handed.bytes).toList
        ++ (lanClientProcessFrag table packet).1.handsOn rest := by
  simp only [handsOn, Machine.outputs]
  change map _ (reduceOption ((lanClientProcessFrag table packet).2 :: _)) = _
  cases (lanClientProcessFrag table packet).2 <;> rfl

theorem Sending.Splits.key_fragment (splits : sending.Splits) {j : Nat}
    (counted : j < sending.parts)
    : (readFragmentHeader (sending.fragment j)).key = sending.key := by
  rw [splits.readHeader counted]
  rfl

/-- Parts of a new packet that find no slot change nothing, one after the other. -/
theorem FragTable.handsOn_refused (splits : sending.Splits)
    (new : fragView.content table.frags sending.key = none) (closed : ¬ table.Admits)
    {indices : List Nat} (counted : ∀ j ∈ indices, j < sending.parts)
    : table.handsOn (indices.map sending.fragment) = [] := by
  induction indices with
  | nil => rfl
  | cons j rest ih =>
    have unclaimed : table.claim (readFragmentHeader (sending.fragment j)) = none := by
      rw [← splits.key_fragment (counted j (mem_cons_self ..))] at new
      exact (claim_eq_none_iff new).mpr closed
    have unchanged : lanClientProcessFrag table (sending.fragment j) = (table, none) := by
      rcases lanClientProcessFrag_cases table (sending.fragment j) with
        ⟨_, unchanged⟩ | ⟨_, _, _, _, claim, _⟩
      · exact unchanged
      · rw [unclaimed] at claim
        cases claim
    rw [map_cons, handsOn_cons, unchanged]
    exact ih (fun k member => counted k (mem_cons_of_mem _ member))

/-- A slot that has collected the parts before `k` collects the others as they come, and
hands on the packet with the last one.
Witness: induction on the number of parts still to come.
-/
theorem FragTable.handsOn_rest (fits : sending.Fits) (missing k : Nat)
    (total : k + missing = sending.parts) (some_ : 0 < missing)
    (distinct : fragView.Distinct table.frags) {slot : LanClientFragment}
    (held : fragView.content table.frags sending.key = some slot)
    (holds : sending.Holds (fun j => j < k) slot)
    : table.handsOn ((range' k missing).map sending.fragment) = [sending.packet] := by
  induction missing generalizing k table slot with
  | zero => exact absurd some_ (Nat.lt_irrefl 0)
  | succ missing ih =>
    have counted : k < sending.parts := by omega
    have key := fits.key_fragment counted
    have room : table.HasRoom (readFragmentHeader (sending.fragment k)).key := by
      obtain ⟨index, found, _⟩ := Option.map_eq_some_iff.mp held
      exact ⟨index, Or.inl (key ▸ SlotView.match?_some found)⟩
    obtain ⟨base, origin, nextDistinct, content, handed⟩ :=
      lanClientProcessFrag_stored distinct (fits.accepted counted) room
    have base_eq : base = slot := by
      rw [key] at origin
      rcases origin.origin with found | ⟨absent, _⟩
      · exact Option.some.inj (found.symm.trans held)
      · rw [held] at absent
        cases absent
    subst base_eq
    have stored := fits.holds_store counted holds
    have received : (fun j => j = k ∨ j < k) = (fun j => j < k + 1) := by
      funext j
      exact propext (by omega)
    rw [received] at stored
    have finished := fits.isFinished_iff counted stored (fun j below => by omega)
    rw [range'_succ, map_cons, handsOn_cons, handed]
    rcases Nat.eq_zero_or_pos missing with last | more
    · have all : ∀ j < sending.parts, j < k + 1 := by omega
      subst last
      rw [if_pos (finished.mpr all)]
      simp only [Option.map_some, Option.toList_some, (fits.handed_eq stored all).2]
      rfl
    · have incomplete : ¬ ∀ j < sending.parts, j < k + 1 := by
        intro all
        have below := all (k + 1) (by omega)
        omega
      have own := content sending.key
      rw [if_pos key.symm, if_neg (mt finished.mp incomplete)] at own
      rw [if_neg (mt finished.mp incomplete)]
      exact ih (k + 1) (by omega) more nextDistinct own stored

/-- The first part of a new packet starts a slot, if the table admits a packet. -/
theorem FragTable.starts_slot (distinct : fragView.Distinct table.frags) (fits : sending.Fits)
    (new : fragView.content table.frags sending.key = none) (admits : table.Admits)
    : (lanClientProcessFrag table (sending.fragment 0)).2 = none
      ∧ ∃ slot,
          fragView.content (lanClientProcessFrag table (sending.fragment 0)).1.frags sending.key
            = some slot
          ∧ sending.Holds (fun j => j < 1) slot := by
  have several := fits.several
  have counted : 0 < sending.parts := by omega
  have key := fits.key_fragment counted
  rw [← key] at new ⊢
  rcases lanClientProcessFrag_cases table (sending.fragment 0) with
    ⟨refused, _⟩ | ⟨claimed, index, slot, _, claim, slotEq, result, output⟩
  · rw [fits.accepted counted, claim_eq_none_iff new] at refused
    exact absurd admits (refused.resolve_left Bool.false_ne_true)
  obtain ⟨used, baseKey, origin⟩ := claim_base claim
  -- no slot was under the key, so the claimed one starts with an empty mask
  have empty : (claimed.frags index).part = 0 := by
    refine origin.resolve_left ?_
    intro found
    rw [found] at used baseKey
    exact SlotView.content_none_iff.mp new index used baseKey
  have received : (fun j => j = 0 ∨ False) = (fun j => j < 1) := by
    funext j
    rw [or_false, Nat.lt_one_iff]
  have stored := fits.holds_store counted (sending.holds_nothing empty)
  rw [← slotEq, received] at stored
  have unfinished : slot.isFinished (readFragmentHeader (sending.fragment 0)) = false := by
    rw [← Bool.not_eq_true, fits.isFinished_iff counted stored (fun j first => by omega)]
    intro all
    exact absurd (all 1 several) (Nat.lt_irrefl 1)
  have slotUsed : slot.used = true := by
    rw [slotEq]
    exact used
  have slotKey : fragView.key slot = (readFragmentHeader (sending.fragment 0)).key := by
    rw [slotEq]
    exact baseKey
  refine ⟨by rw [output, unfinished]; rfl, slot, ?_, stored⟩
  rw [result, unfinished, Bool.not_false, LanClientFragment.mark_used slotUsed,
    distinct.content_update_self (claim_claimable claim) slotKey]
  exact if_pos slotUsed

/-- The fragments of a new packet hand it on exactly when the table admits a packet. -/
theorem FragTable.delivers_iff (distinct : fragView.Distinct table.frags) (fits : sending.Fits)
    (new : fragView.content table.frags sending.key = none)
    : table.Delivers sending ↔ table.Admits := by
  have several := fits.several
  change table.handsOn sending.fragments = [sending.packet] ↔ _
  rw [fits.fragments_eq]
  constructor
  · intro delivered
    by_contra closed
    rw [table.handsOn_refused fits.toSplits new closed
      (fun j member => mem_range.mp member)] at delivered
    cases delivered
  · intro admits
    obtain ⟨nothing, slot, held, stored⟩ := starts_slot distinct fits new admits
    have nextDistinct := lanClientProcessFrag_distinct distinct (sending.fragment 0)
    obtain ⟨missing, total⟩ : ∃ missing, sending.parts = missing + 1 :=
      ⟨sending.parts - 1, by omega⟩
    rw [total, range_eq_range', range'_succ, map_cons, handsOn_cons,
      nothing]
    exact handsOn_rest fits missing 1 (by omega) (by omega) nextDistinct held stored

/-- When the table takes new packets: after any fragments, a new fragment that passes the
checks is stored, and a new packet whose fragments arrive in order is handed on, exactly when
some slot is free or has an allocation number more than `LC_FRAG_COUNT` away.
-/
theorem takes_and_delivers_iff (packets : List Bytes)
    : (∀ packet,
        isRejected packet (readFragmentHeader packet) = false
        → fragView.content (fragReceiver.run .init packets).frags
            (readFragmentHeader packet).key = none
        → ((fragReceiver.run .init packets).Takes packet
            ↔ (fragReceiver.run .init packets).Admits))
      ∧ ∀ sending : Sending,
          sending.Fits
          → fragView.content (fragReceiver.run .init packets).frags sending.key = none
          → ((fragReceiver.run .init packets).Delivers sending
              ↔ (fragReceiver.run .init packets).Admits) :=
  ⟨fun _ accepted new => FragTable.takes_iff accepted new,
    fun _ fits new => FragTable.delivers_iff (distinct_run packets) fits new⟩

def firstFragment (id : Nat) : Bytes :=
  (⟨⟨10, 13, 0, 1⟩, ⟨10, 13, 0, 2⟩, id, 0, 2, 1, 500⟩ : LanClientFragmentHeader).toBytes ++ [0]

def zeroSending : Sending := ⟨⟨500, 0⟩, replicate 600 0⟩

theorem zeroSending_fits : zeroSending.Fits := by
  have length : zeroSending.packet.length = 600 := length_replicate
  refine ⟨⟨Nat.zero_lt_succ 499, ?_, ?_, ?_⟩, ?_, ?_⟩ <;>
    simp only [Sending.parts, length] <;> decide

/-- The empty table takes a first fragment and hands on a packet. -/
theorem takes_and_delivers_init
    : (FragTable.init.Takes (firstFragment 0) ∧ FragTable.init.Delivers zeroSending)
      ∧ FragTable.init.Admits := by
  have admits : FragTable.init.Admits := ⟨⟨0, by decide⟩, Or.inl rfl⟩
  have empty (key : FragKey) : fragView.content FragTable.init.frags key = none :=
    SlotView.content_none_iff.mpr (fun _ used => by cases used)
  have both := takes_and_delivers_iff []
  exact ⟨⟨(both.1 (firstFragment 0) (by decide) (empty _)).mpr admits,
    (both.2 zeroSending zeroSending_fits (empty _)).mpr admits⟩, admits⟩

/-- The first `count` slots collect packets from 10.13.0.1 with the identifiers 0, 1, …, in
the order of their allocation, and the others are free.
-/
structure FilledTo (count : Nat) (table : FragTable) : Prop where
  counter : table.localId = count
  taken
    : ∀ index : Fin lcFragCount,
        index.val < count
        → (table.frags index).used = true
          ∧ fragView.key (table.frags index) = (⟨10, 13, 0, 1⟩, index.val)
          ∧ (table.frags index).localId = index.val
  free : ∀ index : Fin lcFragCount, count ≤ index.val → (table.frags index).used = false

theorem readFragmentHeader_firstFragment {id : Nat} (small : id < 65536)
    : readFragmentHeader (firstFragment id)
      = ⟨⟨10, 13, 0, 1⟩, ⟨10, 13, 0, 2⟩, id, 0, 2, 1, 500⟩ := by
  rw [firstFragment, readFragmentHeader_toBytes_append]
  simp only [LanClientFragmentHeader.onWire, Nat.mod_eq_of_lt small]

/-- A key that is not in use gets the first slot behind those in use. -/
theorem FragTable.claim_next (more : count < lcFragCount)
    (taken : ∀ index : Fin lcFragCount, index.val < count → (table.frags index).used = true)
    (unused : ∀ index : Fin lcFragCount, count ≤ index.val → (table.frags index).used = false)
    {header : LanClientFragmentHeader} (missing : fragView.match? table.frags header.key = none)
    : table.claim header = some (table.allocate ⟨count, more⟩ header, ⟨count, more⟩) := by
  have free : fragView.free? table.frags = some ⟨count, more⟩ := by
    apply Fin.find?_eq_some_iff.mpr
    refine ⟨by simpa [fragView] using unused ⟨count, more⟩ (Nat.le_refl _), ?_⟩
    intro index before
    simpa [fragView] using taken index before
  unfold claim
  rw [missing, free]

/-- A key is not in use when no slot in front has it and all others are free. -/
theorem FragTable.match?_eq_none {key : FragKey}
    (others
      : ∀ index : Fin lcFragCount, index.val < count → fragView.key (table.frags index) ≠ key)
    (unused : ∀ index : Fin lcFragCount, count ≤ index.val → (table.frags index).used = false)
    : fragView.match? table.frags key = none := by
  apply SlotView.match?_none_iff.mpr
  intro index used
  by_cases below : index.val < count
  · exact others index below
  · have free : fragView.used (table.frags index) = false :=
      unused index (Nat.le_of_not_lt below)
    rw [free] at used
    cases used

/-- A first fragment with the next identifier gets the next slot. -/
theorem FilledTo.claim (filled : FilledTo count table) (more : count < lcFragCount)
    {header : LanClientFragmentHeader} (key : header.key = (⟨10, 13, 0, 1⟩, count))
    : table.claim header = some (table.allocate ⟨count, more⟩ header, ⟨count, more⟩) := by
  apply FragTable.claim_next more (fun index below => (filled.taken index below).1) filled.free
  apply FragTable.match?_eq_none (fun index below => ?_) filled.free
  rw [(filled.taken index below).2.1, key]
  exact fun same => absurd (Prod.mk.inj same).2 (by omega)

/-- The slot then collects the packet. -/
theorem FilledTo.step (filled : FilledTo count table) (more : count < lcFragCount)
    : FilledTo (count + 1) (lanClientProcessFrag table (firstFragment count)).1 := by
  have small : count < 65536 := Nat.lt_trans more (by decide)
  have header := readFragmentHeader_firstFragment small
  have claim := filled.claim more (show (readFragmentHeader (firstFragment count)).key
    = (⟨10, 13, 0, 1⟩, count) by rw [header]; rfl)
  rcases lanClientProcessFrag_cases table (firstFragment count) with
    ⟨refused, _⟩ | ⟨claimed, index, slot, _, claim', slotEq, result, _⟩
  · rw [claim, header] at refused
    simp [isRejected, firstFragment, lcFragHeaderLen, etherMtu] at refused
  rw [claim] at claim'
  cases claim'
  have unfinished : slot.isFinished (readFragmentHeader (firstFragment count)) = false := by
    rw [slotEq, header]
    simp [LanClientFragment.isFinished, LanClientFragment.store, FragTable.allocate,
      LanClientFragment.allocate]
  rw [result, unfinished]
  refine ⟨?_, ?_, ?_⟩
  · simp only [FragTable.allocate, filled.counter]
  · intro index below
    by_cases here : index = ⟨count, more⟩
    · subst here
      rw [slotEq, header]
      simp [FragTable.allocate, LanClientFragment.allocate, LanClientFragment.store, fragView,
        filled.counter, Nat.mod_eq_of_lt small]
    · have earlier : index.val < count := by
        have other : index.val ≠ count := fun same => here (Fin.ext same)
        omega
      simpa only [Function.update_of_ne here] using filled.taken index earlier
  · intro index beyond
    have other : index ≠ ⟨count, more⟩ := fun same => by
      have value := congrArg Fin.val same
      simp only at value
      omega
    simpa only [Function.update_of_ne other] using filled.free index (by omega)

/-- First fragments of `count` packets fill as many slots. -/
theorem filledTo_run (few : count ≤ lcFragCount)
    : FilledTo count (fragReceiver.run .init ((range count).map firstFragment)) := by
  induction count with
  | zero => exact ⟨rfl, fun _ impossible => absurd impossible (Nat.not_lt_zero _), fun _ _ => rfl⟩
  | succ count ih =>
    rw [range_succ, map_append, map_singleton, Machine.run_concat]
    exact (ih (Nat.le_of_succ_le few)).step few

/-- After the first fragments of a hundred packets the table takes no other fragment and hands
on no other packet.
-/
theorem hundred_incomplete_packets
    : let table := fragReceiver.run .init ((List.range 100).map firstFragment)
      (isRejected (firstFragment 100) (readFragmentHeader (firstFragment 100)) = false
        ∧ fragView.content table.frags (readFragmentHeader (firstFragment 100)).key = none
        ∧ ¬ table.Takes (firstFragment 100))
      ∧ (zeroSending.Fits
        ∧ fragView.content table.frags zeroSending.key = none
        ∧ ¬ table.Delivers zeroSending) := by
  intro table
  have filled : FilledTo 100 table := filledTo_run (Nat.le_refl _)
  have closed : ¬ table.Admits := by
    rintro ⟨index, unused | far⟩
    · rw [(filled.taken index index.isLt).1] at unused
      cases unused
    · have below := index.isLt
      rw [FragTable.distance, (filled.taken index below).2.2, filled.counter] at far
      simp only [lcFragCount] at far below
      omega
  have new {key : FragKey} (other : ∀ index : Fin lcFragCount, (⟨10, 13, 0, 1⟩, index.val) ≠ key)
      : fragView.content table.frags key = none := by
    apply SlotView.content_none_iff.mpr
    intro index _
    rw [(filled.taken index index.isLt).2.1]
    exact other index
  have accepted : isRejected (firstFragment 100) (readFragmentHeader (firstFragment 100))
      = false := by decide
  have newFragment : fragView.content table.frags
      (readFragmentHeader (firstFragment 100)).key = none := new (by decide +kernel)
  have newPacket : fragView.content table.frags zeroSending.key = none :=
    new (by decide +kernel)
  refine ⟨⟨accepted, newFragment, ?_⟩, zeroSending_fits, newPacket, ?_⟩
  · exact mt (FragTable.takes_iff accepted newFragment).mp closed
  · exact mt (FragTable.delivers_iff (distinct_run _) zeroSending_fits newPacket).mp closed

end SwitchLanPlay.Client
