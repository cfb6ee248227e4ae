import SwitchLanPlay.Client.PacketParts

/-! Fragmentation round trip: whatever the interleaving, reordering and repetition of the
fragments of several packets, the receiver hands on each packet once and intact.
-/

namespace SwitchLanPlay.Client

open List
open Foundation
open Packet

variable {count : Nat} (sendings : Fin count → Sending)

/-- Fragment `arrival.2` of packet `arrival.1`. -/
abbrev Arrival (count : Nat) := Fin count × Nat

variable {arrival : Arrival count} {arrivals : List (Arrival count)}

def datagram (arrival : Arrival count) : Bytes := (sendings arrival.1).fragments.getD arrival.2 []

def tableAfter (before : List (Arrival count)) : FragTable :=
  fragReceiver.run .init (before.map (datagram sendings))

def Complete (before : List (Arrival count)) (i : Fin count) : Prop :=
  ∀ j < (sendings i).fragments.length, (i, j) ∈ before

instance (before : List (Arrival count)) (i : Fin count)
    : Decidable (Complete sendings before i) := by
  unfold Complete
  infer_instance

/-- An order in which all fragments of all packets arrive, each possibly several times but
none after its packet is complete, with a matching or free slot at each arrival.
-/
structure Schedule (arrivals : List (Arrival count)) : Prop where
  known
    : ∀ arrival ∈ arrivals, arrival.2 < (sendings arrival.1).fragments.length
  all : ∀ i, Complete sendings arrivals i
  timely
    : ∀ before arrival after,
        arrivals = before ++ arrival :: after → ¬ Complete sendings before arrival.1
  room
    : ∀ before arrival after,
        arrivals = before ++ arrival :: after
        → (tableAfter sendings before).HasRoom
            (readFragmentHeader (datagram sendings arrival)).key

def DistinctKeys : Prop :=
  ∀ left right : Arrival count,
    left.2 < (sendings left.1).fragments.length
    → right.2 < (sendings right.1).fragments.length
    → left.1 ≠ right.1
    → (readFragmentHeader (datagram sendings left)).key
      ≠ (readFragmentHeader (datagram sendings right)).key

structure LastMissing (before : List (Arrival count)) (arrival : Arrival count) : Prop where
  missing : arrival ∉ before
  others
    : ∀ j < (sendings arrival.1).fragments.length, j ≠ arrival.2 → (arrival.1, j) ∈ before

def deliveries (arrivals : List (Arrival count)) : List Bytes :=
  (fragReceiver.outputs .init (arrivals.map (datagram sendings))).reduceOption.map Handed.bytes

theorem deliveries_concat (before : List (Arrival count)) (arrival : Arrival count)
    : deliveries sendings (before ++ [arrival])
      = deliveries sendings before
        ++ ((fragReceiver.step (tableAfter sendings before)
              (datagram sendings arrival)).2.map Handed.bytes).toList := by
  simp only [deliveries, map_append, map_singleton, Machine.outputs_concat,
    reduceOption_append, tableAfter]
  cases (fragReceiver.step (fragReceiver.run .init (before.map (datagram sendings)))
    (datagram sendings arrival)).2 <;> rfl

/-- The table agrees with the arrivals: a packet under way is in a slot that holds exactly
the parts that arrived, and a completed packet has no slot.
-/
structure Collected (before : List (Arrival count)) (table : FragTable) : Prop where
  distinct : fragView.Distinct table.frags
  pending
    : ∀ i,
        ¬ Complete sendings before i
        → (fragView.content table.frags (sendings i).key = none ∧ ∀ j, (i, j) ∉ before)
          ∨ ∃ slot,
              fragView.content table.frags (sendings i).key = some slot
              ∧ (sendings i).Holds (fun j => (i, j) ∈ before) slot
  released
    : ∀ i,
        Complete sendings before i → fragView.content table.frags (sendings i).key = none

structure Served (before : List (Arrival count)) (arrival : Arrival count) (table : FragTable)
    : Prop where
  collected
    : Collected sendings (before ++ [arrival])
        (fragReceiver.step table (datagram sendings arrival)).1
  handed
    : Complete sendings (before ++ [arrival]) arrival.1
      → ∃ handed,
          (fragReceiver.step table (datagram sendings arrival)).2 = some handed
          ∧ handed.bytes = (sendings arrival.1).packet
          ∧ handed.len = (sendings arrival.1).packet.length
  silent
    : ¬ Complete sendings (before ++ [arrival]) arrival.1
      → (fragReceiver.step table (datagram sendings arrival)).2 = none

section Cut

variable {sendings} (cut : ∀ i, (sendings i).IsCut)
include cut

theorem fragments_length (i : Fin count) : (sendings i).fragments.length = (sendings i).parts := by
  simp [(cut i).fits.fragments_eq]

theorem datagram_eq (known : arrival.2 < (sendings arrival.1).parts)
    : datagram sendings arrival = (sendings arrival.1).fragment arrival.2 := by
  simp [datagram, (cut arrival.1).fits.fragments_eq, getD_eq_getElem?_getD, known]

theorem key_datagram (known : arrival.2 < (sendings arrival.1).parts)
    : (readFragmentHeader (datagram sendings arrival)).key = (sendings arrival.1).key := by
  rw [datagram_eq cut known, (cut arrival.1).fits.readHeader known]
  rfl

/-- Different packets are collected under different keys, by their first fragments. -/
theorem DistinctKeys.key_ne (keys : DistinctKeys sendings) {i k : Fin count} (other : i ≠ k)
    : (sendings i).key ≠ (sendings k).key := by
  have known (i : Fin count) : 0 < (sendings i).parts :=
    Nat.lt_trans Nat.zero_lt_one (cut i).fits.several
  have differ := keys (i, 0) (k, 0) ((known i).trans_eq (fragments_length cut i).symm)
    ((known k).trans_eq (fragments_length cut k).symm) other
  rwa [key_datagram cut (known i), key_datagram cut (known k)] at differ

omit cut in
/-- An arrival of one packet does not complete another. -/
theorem complete_concat_other {before : List (Arrival count)} {k : Fin count}
    (other : k ≠ arrival.1)
    : Complete sendings (before ++ [arrival]) k ↔ Complete sendings before k := by
  have same (j : Nat) : (k, j) ∈ before ++ [arrival] ↔ (k, j) ∈ before := by
    simp only [mem_append, mem_singleton, or_iff_left_iff_imp]
    intro equal
    exact absurd (congrArg Prod.fst equal) other
  simp only [Complete, same]

omit cut in
/-- The slot a timely fragment is stored into holds the parts that arrived before it. -/
theorem Collected.base_holds {before : List (Arrival count)} {table : FragTable}
    (collected : Collected sendings before table) {i : Fin count}
    (unfinished : ¬ Complete sendings before i) {base : LanClientFragment}
    (origin : table.Base (sendings i).key base)
    : (sendings i).Holds (fun j => (i, j) ∈ before) base := by
  rcases collected.pending i unfinished with ⟨absent, nothing⟩ | ⟨slot, present, holds⟩
  · rcases origin.origin with found | ⟨_, empty⟩
    · rw [absent] at found
      cases found
    · simpa only [nothing] using (sendings i).holds_nothing empty
  · rcases origin.origin with found | ⟨missing, _⟩
    · rw [present] at found
      cases found
      exact holds
    · rw [present] at missing
      cases missing

/-- A timely arrival that finds room is served.
Witness: the stored slot holds the parts so far and the new one, so its mask is full
exactly when the packet is complete; no other packet has the key.
-/
theorem Collected.served (keys : DistinctKeys sendings) {before : List (Arrival count)}
    {table : FragTable} (collected : Collected sendings before table)
    (known : ∀ arrival ∈ before, arrival.2 < (sendings arrival.1).parts)
    (valid : arrival.2 < (sendings arrival.1).parts) (timely : ¬ Complete sendings before arrival.1)
    (room : table.HasRoom (readFragmentHeader (datagram sendings arrival)).key)
    : Served sendings before arrival table := by
  obtain ⟨i, j⟩ := arrival
  have accepted : isRejected (datagram sendings (i, j))
      (readFragmentHeader (datagram sendings (i, j))) = false := by
    rw [datagram_eq cut valid]
    exact (cut i).fits.accepted valid
  obtain ⟨base, origin, distinct, content, handed⟩ :=
    lanClientProcessFrag_stored collected.distinct accepted room
  have key := key_datagram cut valid
  rw [key] at origin content
  have holds := (cut i).fits.holds_store valid (collected.base_holds timely origin)
  have received : (fun k => k = j ∨ (i, k) ∈ before)
      = (fun k => (i, k) ∈ before ++ [(i, j)]) := by
    funext k
    simp [or_comm]
  have counted : ∀ k, (i, k) ∈ before ++ [(i, j)] → k < (sendings i).parts := by
    intro k member
    rcases mem_append.mp member with earlier | now
    · exact known _ earlier
    · cases mem_singleton.mp now
      exact valid
  rw [received] at holds
  have finished := (cut i).fits.isFinished_iff valid holds counted
  have whole := (cut i).fits.handed_eq holds
  rw [← datagram_eq cut valid] at holds finished whole
  rw [← fragments_length cut i] at finished whole
  generalize base.store (readFragmentHeader (datagram sendings (i, j)))
    (datagram sendings (i, j)) = slot at holds finished whole content handed
  refine ⟨⟨distinct, fun k unfinished => ?pending, fun k complete => ?released⟩,
    fun complete => ?handed, fun incomplete => ?silent⟩
  case pending =>
    have after := content (sendings k).key
    by_cases same : k = i
    · subst same
      rw [if_pos rfl, if_neg (fun done => unfinished (finished.mp done))] at after
      exact Or.inr ⟨slot, after, holds⟩
    · rw [if_neg (keys.key_ne cut same)] at after
      rw [complete_concat_other same] at unfinished
      have untouched (part : Nat) : (k, part) ∈ before ++ [(i, j)] ↔ (k, part) ∈ before := by
        simp [same]
      rcases collected.pending k unfinished with ⟨absent, nothing⟩ | ⟨held, present, parts⟩
      · exact Or.inl ⟨after.trans absent, fun part => by simpa only [untouched] using nothing part⟩
      · exact Or.inr ⟨held, after.trans present, by simpa only [untouched] using parts⟩
  case released =>
    have after := content (sendings k).key
    by_cases same : k = i
    · subst same
      rwa [if_pos rfl, if_pos (finished.mpr complete)] at after
    · rw [if_neg (keys.key_ne cut same)] at after
      exact after.trans (collected.released k ((complete_concat_other same).mp complete))
  case handed =>
    rw [if_pos (finished.mpr complete)] at handed
    exact ⟨_, handed, (whole complete).2, (whole complete).1⟩
  case silent =>
    rwa [if_neg (fun done => incomplete (finished.mp done))] at handed

omit cut in
theorem collected_init : Collected sendings [] .init := by
  have unused : ∀ index, fragView.used (FragTable.init.frags index) = true → False := by
    intro index used
    cases used
  have absent (key : FragKey) : fragView.content FragTable.init.frags key = none :=
    SlotView.content_none_iff.mpr (fun index used => (unused index used).elim)
  refine ⟨?_, ?_, fun i _ => absent _⟩
  · intro left right used
    exact (unused left used).elim
  · intro i _
    exact Or.inl ⟨absent _, fun j => not_mem_nil⟩

theorem Schedule.served_of_collected (keys : DistinctKeys sendings)
    (schedule : Schedule sendings arrivals) {before after : List (Arrival count)}
    (split : arrivals = before ++ arrival :: after)
    (collected : Collected sendings before (tableAfter sendings before))
    : Served sendings before arrival (tableAfter sendings before) := by
  have known (earlier : Arrival count) (member : earlier ∈ arrivals)
      : earlier.2 < (sendings earlier.1).parts :=
    (schedule.known earlier member).trans_eq (fragments_length cut earlier.1)
  exact collected.served cut keys
    (fun earlier member => known earlier (by simp [split, member]))
    (known arrival (by simp [split])) (schedule.timely _ _ _ split) (schedule.room _ _ _ split)

/-- Along a schedule the table agrees with every prefix of the arrivals.
Witness: by induction on the prefix, each arrival being timely and finding room.
-/
theorem Schedule.collected (keys : DistinctKeys sendings) (schedule : Schedule sendings arrivals)
    {before rest : List (Arrival count)} (split : arrivals = before ++ rest)
    : Collected sendings before (tableAfter sendings before) := by
  induction before using reverseRecOn generalizing rest with
  | nil => exact collected_init
  | append_singleton before arrival ih =>
    have here : arrivals = before ++ arrival :: rest := by simpa using split
    have served := schedule.served_of_collected cut keys here (ih here)
    simpa only [tableAfter, map_append, map_singleton, Machine.run_concat]
      using served.collected

/-- Every arrival of a schedule is served. -/
theorem Schedule.served (keys : DistinctKeys sendings) (schedule : Schedule sendings arrivals)
    {before after : List (Arrival count)} (split : arrivals = before ++ arrival :: after)
    : Served sendings before arrival (tableAfter sendings before) :=
  schedule.served_of_collected cut keys split (schedule.collected cut keys split)

/-- The packets handed on so far are the packets complete so far, in some order.
Witness: by induction on the arrivals; one arrival completes its own packet or none.
-/
theorem Schedule.deliveries_perm (keys : DistinctKeys sendings)
    (schedule : Schedule sendings arrivals) {before rest : List (Arrival count)}
    (split : arrivals = before ++ rest)
    : (deliveries sendings before).Perm
        (((finRange count).filter (fun i => Complete sendings before i)).map
          (fun i => (sendings i).packet)) := by
  induction before using reverseRecOn generalizing rest with
  | nil =>
    have none (i : Fin count) : ¬ Complete sendings [] i := by
      intro complete
      have several := (cut i).fits.several
      have member := complete 0 (by rw [fragments_length cut i]; omega)
      exact not_mem_nil member
    simp [deliveries, Machine.outputs, none]
  | append_singleton before arrival ih =>
    have here : arrivals = before ++ arrival :: rest := by simpa using split
    have served := schedule.served cut keys here
    have timely := schedule.timely _ _ _ here
    have extended := deliveries_concat sendings before arrival
    by_cases complete : Complete sendings (before ++ [arrival]) arrival.1
    · obtain ⟨handed, output, bytes, _⟩ := served.handed complete
      rw [output] at extended
      rw [extended]
      have gains : ((finRange count).filter
            (fun i => Complete sendings (before ++ [arrival]) i)).Perm
          (arrival.1 :: (finRange count).filter
            (fun i => Complete sendings before i)) := by
        refine (perm_ext_iff_of_nodup ((nodup_finRange count).filter _) ?_).mpr ?_
        · refine nodup_cons.mpr ⟨?_, (nodup_finRange count).filter _⟩
          simpa using timely
        · intro k
          by_cases same : k = arrival.1
          · subst same
            simpa using complete
          · simp [same, complete_concat_other same]
      refine List.Perm.trans ?_ (gains.map _).symm
      rw [map_cons, ← bytes]
      exact (perm_append_singleton _ _).trans ((ih here).cons _)
    · rw [served.silent complete] at extended
      rw [extended]
      have same : (fun i => decide (Complete sendings (before ++ [arrival]) i))
          = (fun i => decide (Complete sendings before i)) := by
        funext k
        by_cases here : k = arrival.1
        · subst here
          simp [complete, timely]
        · simp [complete_concat_other here]
      simpa only [same, Option.map_none, Option.toList_none, append_nil] using ih here

/-- Each packet has an arrival that supplies its last missing fragment, as the packet gains
completeness at one of the arrivals.
-/
theorem Schedule.exists_lastMissing (schedule : Schedule sendings arrivals) (i : Fin count)
    : ∃ before part after,
        arrivals = before ++ (i, part) :: after
        ∧ LastMissing sendings before (i, part)
        ∧ Complete sendings (before ++ [(i, part)]) i := by
  have several := (cut i).fits.several
  have absent : ¬ Complete sendings [] i := by
    intro complete
    exact not_mem_nil (complete 0 (by rw [fragments_length cut i]; omega))
  obtain ⟨before, ⟨k, part⟩, after, split, unfinished, complete⟩ :=
    exists_crossing (fun history => Complete sendings history i) absent (schedule.all i)
  have same : k = i := by
    by_contra other
    exact unfinished ((complete_concat_other (Ne.symm other)).mp complete)
  subst same
  refine ⟨before, part, after, split, ⟨?_, ?_⟩, complete⟩
  · intro already
    apply unfinished
    intro j below
    rcases mem_append.mp (complete j below) with earlier | now
    · exact earlier
    · rw [mem_singleton.mp now]
      exact already
  · intro j below other
    rcases mem_append.mp (complete j below) with earlier | now
    · exact earlier
    · exact absurd (congrArg Prod.snd (mem_singleton.mp now)) other

end Cut

/-- Fragmentation round trip. Each packet is handed on by the arrival of its last missing
fragment, with its octets and its length, and from then on no slot is in use for it; and
the packets handed on are exactly the packets sent.
-/
theorem lanClientProcessFrag_roundTrip (cut : ∀ i, (sendings i).IsCut)
    (keys : DistinctKeys sendings) {arrivals : List (Arrival count)}
    (schedule : Schedule sendings arrivals)
    : (∀ i,
        ∃ before part after handed,
          arrivals = before ++ (i, part) :: after
          ∧ LastMissing sendings before (i, part)
          ∧ (fragReceiver.step (tableAfter sendings before) (datagram sendings (i, part))).2
            = some handed
          ∧ handed.bytes = (sendings i).packet
          ∧ handed.len = (sendings i).packet.length
          ∧ ∀ later,
              later <+: after
              → ∀ index,
                  ((tableAfter sendings (before ++ (i, part) :: later)).frags index).used = true
                  → fragView.key
                      ((tableAfter sendings (before ++ (i, part) :: later)).frags index)
                    ≠ (readFragmentHeader (datagram sendings (i, part))).key)
      ∧ (deliveries sendings arrivals).Perm (List.ofFn (fun i => (sendings i).packet)) := by
  constructor
  · intro i
    obtain ⟨before, part, after, split, last, complete⟩ := schedule.exists_lastMissing cut i
    obtain ⟨handed, output, bytes, length⟩ :=
      (schedule.served cut keys split).handed complete
    refine ⟨before, part, after, handed, split, last, output, bytes, length, ?_⟩
    rintro later ⟨rest, rfl⟩ index used
    have reached : arrivals = (before ++ (i, part) :: later) ++ rest := by simp [split]
    have collected := schedule.collected cut keys reached
    have still : Complete sendings (before ++ (i, part) :: later) i := by
      intro j below
      rcases List.mem_append.mp (complete j below) with earlier | now
      · exact List.mem_append_left _ earlier
      · rw [List.mem_singleton.mp now]
        exact List.mem_append_right _ List.mem_cons_self
    have known : part < (sendings i).parts :=
      (schedule.known (i, part) (by simp [split])).trans_eq (fragments_length cut i)
    have key : (readFragmentHeader (datagram sendings (i, part))).key = (sendings i).key :=
      key_datagram cut known
    rw [key]
    exact SlotView.content_none_iff.mp (collected.released i still) index used
  · have all := schedule.deliveries_perm cut keys (List.append_nil arrivals).symm
    simpa only [schedule.all, decide_true, List.filter_true, ← List.ofFn_eq_map] using all

def twoSendings (i : Fin 2) : Sending := ⟨⟨500, i.val⟩, replicate 501 0⟩

def interleaved : List (Arrival 2) := [(0, 1), (1, 0), (0, 1), (0, 0), (1, 1)]

theorem twoSendings_isCut (i : Fin 2) : (twoSendings i).IsCut := by
  constructor <;> simp only [twoSendings, length_replicate, etherMtu] <;> decide

theorem twoSendings_fragments_length (i : Fin 2) : (twoSendings i).fragments.length = 2 := by
  rw [fragments_length twoSendings_isCut]
  simp only [Sending.parts, twoSendings, length_replicate]
  decide

theorem twoSendings_distinctKeys : DistinctKeys twoSendings := by
  intro left right leftKnown rightKnown other
  rw [fragments_length twoSendings_isCut] at leftKnown rightKnown
  rw [key_datagram twoSendings_isCut leftKnown, key_datagram twoSendings_isCut rightKnown]
  intro equal
  have ids := congrArg Prod.snd equal
  simp only [Sending.key, twoSendings] at ids
  omega

theorem interleaved_schedule : Schedule twoSendings interleaved := by
  have complete (before : List (Arrival 2)) (i : Fin 2)
      : Complete twoSendings before i ↔ (i, 0) ∈ before ∧ (i, 1) ∈ before := by
    rw [Complete, twoSendings_fragments_length]
    constructor
    · exact fun all => ⟨all 0 (by decide), all 1 (by decide)⟩
    · rintro ⟨first, second⟩ j below
      interval_cases j
      · exact first
      · exact second
  refine ⟨?_, ?_, ?_, ?_⟩
  · simp only [twoSendings_fragments_length]
    decide
  · simp only [complete]
    decide
  · intro before arrival after split
    rw [complete]
    have bound : before.length < 5 := by
      have total := congrArg List.length split
      simp only [interleaved, length_append, length_cons, length_nil] at total
      omega
    have front : before = interleaved.take before.length := by simp [split]
    have here : interleaved[before.length]? = some arrival := by simp [split]
    rw [front]
    generalize before.length = position at bound here
    interval_cases position <;> (cases here; decide)
  · intro before arrival after split
    have total := congrArg List.length split
    simp only [interleaved, length_append, length_cons, length_nil] at total
    apply hasRoom_of_few
    simp only [length_map, lcFragCount]
    omega

theorem lanClientProcessFrag_roundTrip_interleaved
    : (deliveries twoSendings interleaved).Perm
        [List.replicate 501 0, List.replicate 501 0] := by
  have served := lanClientProcessFrag_roundTrip twoSendings twoSendings_isCut
    twoSendings_distinctKeys interleaved_schedule
  exact served.2

end SwitchLanPlay.Client
