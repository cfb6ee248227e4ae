import SwitchLanPlay.Client.ReassemblySafety
import SwitchLanPlay.Foundation.Latest

/-! Where the octets of a reassembled packet come from. A slot is taken without clearing its
buffer and its length, and finished when its mask is full, so a packet is made of its fragments
only if they give it a length and fill it up to there.
-/

namespace SwitchLanPlay.Client

open Function
open List Option
open Foundation
open Packet

def LanClientFragmentHeader.Fills (header : LanClientFragmentHeader) (position : Nat) : Prop :=
  header.pmtu * header.part ≤ position ∧ position < header.pmtu * header.part + header.len

instance (header : LanClientFragmentHeader) (position : Nat)
    : Decidable (header.Fills position) := inferInstanceAs (Decidable (_ ∧ _))

def LanClientFragmentHeader.isLast (header : LanClientFragmentHeader) : Bool :=
  header.part = header.totalPart - 1

def LanClientFragmentHeader.packetLen (header : LanClientFragmentHeader) : Nat :=
  (header.totalPart - 1) * header.pmtu + header.len

/-- The packet that is handed on consists of fragments: one of them gives its length, and each of
its octets is an octet of one of them.
-/
structure Supplied (fragments : List Bytes) (handed : Handed) : Prop where
  length
    : ∃ fragment ∈ fragments,
        (readFragmentHeader fragment).isLast = true
        ∧ handed.len = (readFragmentHeader fragment).packetLen
  octet
    : ∀ position : Fin etherMtu,
        position.val < handed.len
        → ∃ fragment ∈ fragments,
            ∃ k < (readFragmentHeader fragment).len,
              position.val
                = (readFragmentHeader fragment).pmtu * (readFragmentHeader fragment).part + k
              ∧ handed.buffer position = fragment.getD (lcFragHeaderLen + k) 0

def lastEnd? (fragments : List Bytes) : Option Bytes :=
  lastOf? (fun fragment => (readFragmentHeader fragment).isLast) fragments true

def lastFill? (fragments : List Bytes) (position : Nat) : Option Bytes :=
  lastOf? (fun fragment => decide ((readFragmentHeader fragment).Fills position)) fragments true

theorem lastEnd?_concat (fragments : List Bytes) (fragment : Bytes)
    : lastEnd? (fragments ++ [fragment])
      = if (readFragmentHeader fragment).isLast then some fragment else lastEnd? fragments :=
  lastOf?_concat _ fragments fragment true

theorem lastFill?_concat (fragments : List Bytes) (fragment : Bytes) (position : Nat)
    : lastFill? (fragments ++ [fragment]) position
      = if (readFragmentHeader fragment).Fills position then some fragment
        else lastFill? fragments position := by
  rw [lastFill?, lastOf?_concat]
  simp only [decide_eq_true_eq]
  rfl

theorem lastEnd?_spec {fragments : List Bytes} {ending : Bytes}
    (found : lastEnd? fragments = some ending)
    : ending ∈ fragments ∧ (readFragmentHeader ending).isLast = true := by
  unfold lastEnd? at found
  have key := key_of_lastOf? found
  exact ⟨mem_of_lastOf? found, key⟩

theorem lastFill?_spec {fragments : List Bytes} {position : Nat} {supplier : Bytes}
    (found : lastFill? fragments position = some supplier)
    : supplier ∈ fragments ∧ (readFragmentHeader supplier).Fills position := by
  unfold lastFill? at found
  have key := key_of_lastOf? found
  exact ⟨mem_of_lastOf? found, of_decide_eq_true key⟩

theorem exists_lastEnd? {fragments : List Bytes} {fragment : Bytes}
    (member : fragment ∈ fragments) (last : (readFragmentHeader fragment).isLast = true)
    : ∃ ending, lastEnd? fragments = some ending :=
  isSome_iff_exists.mp (lastOf?_isSome_iff.mpr ⟨fragment, member, last⟩)

theorem exists_lastFill? {fragments : List Bytes} {fragment : Bytes} {position : Nat}
    (member : fragment ∈ fragments) (fills : (readFragmentHeader fragment).Fills position)
    : ∃ supplier, lastFill? fragments position = some supplier :=
  isSome_iff_exists.mp
    (lastOf?_isSome_iff.mpr ⟨fragment, member, decide_eq_true fills⟩)

/-- The fragments give a length, and they fill every position below the length given last. -/
def FillsPacket (fragments : List Bytes) : Prop :=
  ∃ ending,
    lastEnd? fragments = some ending
    ∧ ∀ position < (readFragmentHeader ending).packetLen,
        ∃ fragment ∈ fragments, (readFragmentHeader fragment).Fills position

-- What fragments leave in a slot

def LanClientFragment.fill (slot : LanClientFragment) (fragments : List Bytes)
    : LanClientFragment :=
  fragments.foldl (fun slot fragment => slot.store (readFragmentHeader fragment) fragment) slot

variable (slot : LanClientFragment)

theorem LanClientFragment.fill_concat (fragments : List Bytes) (fragment : Bytes)
    : slot.fill (fragments ++ [fragment])
      = (slot.fill fragments).store (readFragmentHeader fragment) fragment := by
  rw [fill, foldl_append]
  rfl

def Accepted (fragments : List Bytes) : Prop :=
  ∀ fragment ∈ fragments, isRejected fragment (readFragmentHeader fragment) = false

def fragmentOctet (fragment : Bytes) (position : Nat) : UInt8 :=
  fragment.getD
    (lcFragHeaderLen
      + (position - (readFragmentHeader fragment).pmtu * (readFragmentHeader fragment).part))
    0

namespace LanClientFragment

/-- A stored part puts its octets where it fills the buffer. -/
theorem store_buffer {fragment : Bytes}
    (accepted : isRejected fragment (readFragmentHeader fragment) = false) (position : Fin etherMtu)
    : (slot.store (readFragmentHeader fragment) fragment).buffer position
      = if (readFragmentHeader fragment).Fills position.val then
          fragmentOctet fragment position.val
        else slot.buffer position := by
  obtain ⟨_, _, _, _, _, _, received, _⟩ := accepted_sizes accepted
  have copied
      : (slice fragment lcFragHeaderLen (readFragmentHeader fragment).len).length
        = (readFragmentHeader fragment).len := by
    rw [slice_length]
    omega
  simp only [store]
  by_cases fills : (readFragmentHeader fragment).Fills position.val
  · obtain ⟨low, high⟩ := fills
    have inside
        : position.val - (readFragmentHeader fragment).pmtu * (readFragmentHeader fragment).part
          < (readFragmentHeader fragment).len := by
      omega
    rw [if_pos ⟨low, high⟩, memcpy_inside _ low (by rw [copied]; exact high), slice, fragmentOctet]
    simp only [getD_eq_getElem?_getD]
    rw [getElem?_take_of_lt inside, getElem?_drop]
  · rw [if_neg fills]
    apply memcpy_outside
    rw [copied]
    unfold LanClientFragmentHeader.Fills at fills
    omega

/-- A stored part that ends its packet sets the length. -/
theorem store_totalLen {fragment : Bytes}
    (accepted : isRejected fragment (readFragmentHeader fragment) = false)
    : (slot.store (readFragmentHeader fragment) fragment).totalLen
      = if (readFragmentHeader fragment).isLast then (readFragmentHeader fragment).packetLen
        else slot.totalLen := by
  obtain ⟨_, _, _, _, _, _, _, fits⟩ := accepted_sizes accepted
  unfold LanClientFragmentHeader.isLast LanClientFragmentHeader.packetLen
  simp only [store, decide_eq_true_eq]
  split
  · rename_i last
    apply Nat.mod_eq_of_lt
    rw [last, Nat.mul_comm] at fits
    exact fits.trans_lt (by decide)
  · rfl

/-- Every position holds the octet of the last fragment that fills it, or what was there before. -/
theorem fill_buffer {fragments : List Bytes} (accepted : Accepted fragments)
    (position : Fin etherMtu)
    : (slot.fill fragments).buffer position
      = ((lastFill? fragments position.val).map
            (fun fragment => fragmentOctet fragment position.val)).getD
          (slot.buffer position) := by
  induction fragments using reverseRecOn with
  | nil => rfl
  | append_singleton fragments fragment ih =>
    have before := ih (fun other member => accepted other (by simp [member]))
    rw [fill_concat, store_buffer _ (accepted _ (by simp)),
      before, lastFill?_concat]
    split <;> rfl

/-- The length is that of the last fragment that ends a packet, or the one from before. -/
theorem fill_totalLen {fragments : List Bytes} (accepted : Accepted fragments)
    : (slot.fill fragments).totalLen
      = ((lastEnd? fragments).map (fun ending => (readFragmentHeader ending).packetLen)).getD
          slot.totalLen := by
  induction fragments using reverseRecOn with
  | nil => rfl
  | append_singleton fragments fragment ih =>
    have before := ih (fun other member => accepted other (by simp [member]))
    rw [fill_concat, store_totalLen _ (accepted _ (by simp)),
      before, lastEnd?_concat]
    split <;> rfl

/-- The packet in a slot is supplied by the fragments in it exactly if they fill it, whatever was in
the slot before.
-/
theorem supplied_fill_iff {fragments : List Bytes} (accepted : Accepted fragments)
    : Supplied fragments ⟨(slot.fill fragments).buffer, (slot.fill fragments).totalLen⟩
      ↔ FillsPacket fragments := by
  constructor
  · rintro ⟨⟨fragment, member, last, _⟩, octet⟩
    obtain ⟨ending, found⟩ := exists_lastEnd? member last
    refine ⟨ending, found, fun position below => ?_⟩
    have length := slot.fill_totalLen accepted
    rw [found, map_some, getD_some] at length
    obtain ⟨_, _, _, _, _, _, _, fits⟩ := accepted_sizes (accepted ending (lastEnd?_spec found).1)
    have isLast : (readFragmentHeader ending).part = (readFragmentHeader ending).totalPart - 1 :=
      of_decide_eq_true (lastEnd?_spec found).2
    have inside : position < etherMtu := by
      rw [isLast, Nat.mul_comm] at fits
      exact below.trans_le fits
    obtain ⟨supplier, listed, k, counted, place, _⟩ :=
      octet ⟨position, inside⟩ (by dsimp only; rwa [length])
    refine ⟨supplier, listed, ?_⟩
    dsimp only at place
    constructor <;> omega
  · rintro ⟨ending, found, filled⟩
    have length := slot.fill_totalLen accepted
    rw [found, map_some, getD_some] at length
    refine ⟨⟨ending, (lastEnd?_spec found).1, (lastEnd?_spec found).2, length⟩, ?_⟩
    intro position below
    dsimp only at below ⊢
    rw [length] at below
    obtain ⟨fragment, member, fills⟩ := filled position.val below
    obtain ⟨supplier, latest⟩ := exists_lastFill? member fills
    obtain ⟨listed, low, high⟩ := lastFill?_spec latest
    refine ⟨supplier, listed,
      position.val - (readFragmentHeader supplier).pmtu * (readFragmentHeader supplier).part,
      by omega, by omega, ?_⟩
    rw [slot.fill_buffer accepted, latest, map_some, getD_some]
    rfl

end LanClientFragment

-- The fragments of a slot

/-- The table with, for every key, the fragments that were stored in the slot of the key since it
was taken for the key. The source keeps no such record.
-/
structure Tracked where
  table : FragTable
  supply : FragKey → List Bytes

def Tracked.init : Tracked := ⟨.init, fun _ => []⟩

/-- A fragment with the record: one that is stored begins the record of its key when its slot is
taken and continues it otherwise. A packet is handed on with the fragments of its slot.
-/
def SlotSearch.track (search : SlotSearch) (tracked : Tracked) (packet : Bytes)
    : Tracked × Option (Handed × List Bytes) :=
  let key := (readFragmentHeader packet).key
  let collected := search.collect tracked.table packet
  if isRejected packet (readFragmentHeader packet)
      || (search.claim tracked.table (readFragmentHeader packet)).isNone then
    (⟨collected.1, tracked.supply⟩, none)
  else
    let fragments :=
      (if (fragView.content tracked.table.frags key).isSome then tracked.supply key else [])
        ++ [packet]
    (⟨collected.1, update tracked.supply key fragments⟩,
      collected.2.map (·, fragments))

def SlotSearch.tracker (search : SlotSearch)
    : Machine Tracked Bytes (Option (Handed × List Bytes)) := ⟨search.track⟩

/-- The record changes neither the table nor what is handed on. -/
theorem SlotSearch.track_collect (search : SlotSearch) (tracked : Tracked) (packet : Bytes)
    : (search.track tracked packet).1.table = (search.collect tracked.table packet).1
      ∧ (search.track tracked packet).2.map Prod.fst
        = (search.collect tracked.table packet).2 := by
  unfold track
  dsimp only
  split
  · rename_i refused
    rcases search.collect_cases tracked.table packet with
      ⟨_, unchanged⟩ | ⟨claimed, index, slot, accepted, claim, _⟩
    · rw [unchanged]
      exact ⟨rfl, rfl⟩
    · rw [accepted, claim] at refused
      cases refused
  · refine ⟨rfl, ?_⟩
    cases (search.collect tracked.table packet).2 <;> rfl

theorem SlotSearch.tracker_receiver (search : SlotSearch) (packets : List Bytes)
    : (search.tracker.run .init packets).table = search.receiver.run .init packets
      ∧ (search.tracker.outputs .init packets).map (Option.map Prod.fst)
        = search.receiver.outputs .init packets := by
  induction packets using reverseRecOn with
  | nil => exact ⟨rfl, rfl⟩
  | append_singleton packets packet ih =>
    obtain ⟨table, handed⟩ := search.track_collect (search.tracker.run .init packets) packet
    rw [Machine.run_concat, Machine.run_concat, Machine.outputs_concat, Machine.outputs_concat,
      map_append, ih.2, ← ih.1]
    exact ⟨table, by rw [map_singleton]; exact congrArg _ (congrArg (fun x => [x]) handed)⟩

/-- Every slot in use was filled with the fragments of its record, on top of something. -/
structure Tracked.Faithful (tracked : Tracked) : Prop where
  distinct : fragView.Distinct tracked.table.frags
  filled
    : ∀ key slot,
        fragView.content tracked.table.frags key = some slot
        → Accepted (tracked.supply key)
          ∧ ∃ base : LanClientFragment,
              slot.buffer = (base.fill (tracked.supply key)).buffer
              ∧ slot.totalLen = (base.fill (tracked.supply key)).totalLen

/-- The record of a fragment that is stored in `index` of the table, and what the slot holds. -/
theorem Tracked.Faithful.stored {tracked : Tracked} (faithful : tracked.Faithful)
    {packet : Bytes} (accepted : isRejected packet (readFragmentHeader packet) = false)
    {claimed : FragTable} {index : Fin lcFragCount}
    (claim : tracked.table.Claimed (readFragmentHeader packet) claimed index)
    {fragments : List Bytes}
    (record
      : fragments
        = (if (fragView.content tracked.table.frags (readFragmentHeader packet).key).isSome then
              tracked.supply (readFragmentHeader packet).key
            else [])
          ++ [packet])
    : Accepted fragments
      ∧ ∃ base : LanClientFragment,
          ((claimed.frags index).store (readFragmentHeader packet) packet).buffer
            = (base.fill fragments).buffer
          ∧ ((claimed.frags index).store (readFragmentHeader packet) packet).totalLen
            = (base.fill fragments).totalLen := by
  cases claim with
  | found matched =>
    have content
        : fragView.content tracked.table.frags (readFragmentHeader packet).key
          = some (tracked.table.frags index) := by
      rw [SlotView.content, matched, map_some]
    obtain ⟨earlier, base, buffer, totalLen⟩ := faithful.filled _ _ content
    rw [content, isSome_some, if_pos rfl] at record
    subst record
    refine ⟨?_, base, ?_, ?_⟩
    · intro fragment member
      rcases mem_append.mp member with before | last
      · exact earlier fragment before
      · rw [mem_singleton.mp last]
        exact accepted
    · rw [LanClientFragment.fill_concat]
      simp only [LanClientFragment.store, buffer]
    · rw [LanClientFragment.fill_concat]
      simp only [LanClientFragment.store, totalLen]
  | taken missing =>
    rw [SlotView.content, missing, map_none, isSome_none,
      if_neg Bool.false_ne_true, nil_append] at record
    subst record
    refine ⟨?_, _, rfl, rfl⟩
    intro fragment member
    rw [mem_singleton.mp member]
    exact accepted

/-- A step keeps the record faithful, and what it hands on is a filled slot. -/
theorem SlotSearch.track_faithful (search : SlotSearch) {tracked : Tracked}
    (faithful : tracked.Faithful) (packet : Bytes)
    : (search.track tracked packet).1.Faithful
      ∧ ∀ handed fragments,
          (search.track tracked packet).2 = some (handed, fragments)
          → Accepted fragments
            ∧ ∃ base : LanClientFragment,
                handed = ⟨(base.fill fragments).buffer, (base.fill fragments).totalLen⟩ := by
  have distinct := search.collect_distinct faithful.distinct packet
  unfold track
  dsimp only
  rcases search.collect_cases tracked.table packet with
    ⟨refused, unchanged⟩ | ⟨claimed, index, slot, accepted, claim, slotEq, result, output⟩
  · have skipped
        : (isRejected packet (readFragmentHeader packet)
            || (search.claim tracked.table (readFragmentHeader packet)).isNone)
          = true := by
      rcases refused with rejected | full
      · rw [rejected, Bool.true_or]
      · rw [full, isNone_none, Bool.or_true]
    rw [if_pos skipped, unchanged]
    refine ⟨faithful, fun handed fragments impossible => ?_⟩
    cases impossible
  · have sound := search.sound claim
    have taken
        : ¬ (isRejected packet (readFragmentHeader packet)
            || (search.claim tracked.table (readFragmentHeader packet)).isNone)
          = true := by
      rw [accepted, claim]
      exact Bool.false_ne_true
    rw [if_neg taken]
    generalize record
      : (if (fragView.content tracked.table.frags (readFragmentHeader packet).key).isSome then
            tracked.supply (readFragmentHeader packet).key
          else [])
        ++ [packet] = fragments
    obtain ⟨stored, base, buffer, totalLen⟩ := faithful.stored accepted sound record.symm
    rw [← slotEq] at buffer totalLen
    refine ⟨⟨distinct, ?_⟩, ?_⟩
    · intro key other content
      rw [distinct.content_eq_some_iff, result] at content
      obtain ⟨place, same, used, carries⟩ := content
      dsimp only at same used carries ⊢
      by_cases here : place = index
      · -- the slot of the fragment itself
        subst here
        rw [update_self] at same carries
        have key_eq : (readFragmentHeader packet).key = key := by
          rw [← carries, ← sound.key_eq.2, slotEq]
          rfl
        rw [← key_eq, update_self, ← same]
        exact ⟨stored, base, buffer, totalLen⟩
      · -- any other slot carries another key and was there before
        rw [update_of_ne here] at same used carries
        have other_key : key ≠ (readFragmentHeader packet).key := by
          rw [← carries]
          exact faithful.distinct.key_ne sound.claimable used here
        rw [update_of_ne other_key]
        exact faithful.filled key other
          (faithful.distinct.content_eq_some_iff.mpr ⟨place, same, used, carries⟩)
    · intro handed recorded same
      rw [output] at same
      split at same
      · cases same
        exact ⟨stored, base, by rw [buffer, totalLen]⟩
      · cases same

theorem Tracked.init_faithful : Tracked.init.Faithful where
  distinct := FragTable.init_distinct
  filled key slot content := by
    obtain ⟨index, _, used, _⟩ := FragTable.init_distinct.content_eq_some_iff.mp content
    cases used

/-- Along every sequence of fragments, a packet is supplied by the fragments that were stored in
its slot since the slot was taken exactly when these fill it.
-/
theorem SlotSearch.supplied_iff (search : SlotSearch) {packets : List Bytes} {handed : Handed}
    {fragments : List Bytes}
    (output : some (handed, fragments) ∈ search.tracker.outputs .init packets)
    : Supplied fragments handed ↔ FillsPacket fragments := by
  obtain ⟨before, packet, _, _, step⟩ := (Machine.mem_outputs_iff search.tracker).mp output
  have faithful : (search.tracker.run .init before).Faithful :=
    search.tracker.run_invariant Tracked.Faithful
      (fun _ packet faithful => (search.track_faithful faithful packet).1)
      Tracked.init_faithful before
  obtain ⟨accepted, base, rfl⟩ := (search.track_faithful faithful packet).2 handed fragments step
  exact base.supplied_fill_iff accepted

end SwitchLanPlay.Client
