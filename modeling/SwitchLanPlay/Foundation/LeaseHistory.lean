import SwitchLanPlay.Foundation.Latest
import SwitchLanPlay.Foundation.LeaseTable
import SwitchLanPlay.Foundation.Machine

/-! Histories of leases that run for the same time, by a clock that does not go back. A lease
stands in front of the earlier ones of its key and ends no sooner, so a lookup finds the last one
entered.
-/

namespace SwitchLanPlay.Foundation

open Function
open Option

variable {size : Nat} {κ ν : Type*}

structure LeaseRequest (κ ν : Type*) where
  time : Nat
  key : κ
  value : ν
deriving DecidableEq, Repr

def LeaseRequest.lease (request : LeaseRequest κ ν) (ttl : Nat) : Lease κ ν :=
  ⟨request.key, request.value, request.time + ttl⟩

def Chronological (requests : List (LeaseRequest κ ν)) : Prop :=
  requests.Pairwise (fun earlier later => earlier.time ≤ later.time)

variable [DecidableEq κ]

def leasing (vacant : κ) (ttl : Nat)
    : Machine (Fin size → Lease κ ν) (LeaseRequest κ ν) (Option (Fin size)) where
  step table request :=
    (grantLease vacant table request.time (request.lease ttl),
      leaseSlot? vacant table request.time request.key)

def entered (vacant : κ) (ttl : Nat) (table : Fin size → Lease κ ν)
    (requests : List (LeaseRequest κ ν))
    : List (LeaseRequest κ ν) := (leasing vacant ttl).inputsWith Option.isSome table requests

-- What a history leaves

/-- What the requests that were met until `clock` leave in the table: no lease outlasts the last
one of its key, and that one is the first of its key as long as it has not ended.
-/
structure Settled (vacant : κ) (ttl : Nat) (met : List (LeaseRequest κ ν)) (clock : Nat)
    (table : Fin size → Lease κ ν)
    : Prop where
  dated : ∀ request ∈ met, request.time ≤ clock
  outlasted
    : ∀ index,
        (table index).key ≠ vacant
        → ∃ request,
            lastOf? LeaseRequest.key met (table index).key = some request
            ∧ (table index).expireAt ≤ request.time + ttl
  newest
    : ∀ key request,
        key ≠ vacant
        → lastOf? LeaseRequest.key met key = some request
        → clock ≤ request.time + ttl
        → ∃ index,
            table index = request.lease ttl
            ∧ ∀ earlier < index, (table earlier).key ≠ key

variable {vacant : κ} {ttl : Nat} {met : List (LeaseRequest κ ν)} {clock : Nat}
  {table : Fin size → Lease κ ν}

theorem Settled.start (empty : ∀ index, (table index).key = vacant)
    : Settled vacant ttl [] clock table where
  dated := by simp
  outlasted index keyed := absurd (empty index) keyed
  newest _ _ _ found := by cases found

/-- Time alone does not unsettle a table. -/
theorem Settled.later (settled : Settled vacant ttl met clock table) {now : Nat}
    (passed : clock ≤ now)
    : Settled vacant ttl met now table where
  dated request member := (settled.dated request member).trans passed
  outlasted := settled.outlasted
  newest key request keyed found running :=
    settled.newest key request keyed found (passed.trans running)

/-- No lease with a key runs longer than one entered now. -/
theorem Settled.expireAt_le (settled : Settled vacant ttl met clock table) {index : Fin size}
    (keyed : (table index).key ≠ vacant)
    : (table index).expireAt ≤ clock + ttl := by
  obtain ⟨request, found, ends⟩ := settled.outlasted index keyed
  have dated := settled.dated request (mem_of_lastOf? found)
  omega

/-- A request that is met. The slot in which it is entered lies before all leases of its key, and
held no lease of another key that still ran.
-/
theorem Settled.enter {request : LeaseRequest κ ν}
    (settled : Settled vacant ttl met request.time table) {slot : Fin size}
    (taken : leaseSlot? vacant table request.time request.key = some slot)
    : Settled vacant ttl (met ++ [request]) request.time
        (update table slot (request.lease ttl)) := by
  obtain ⟨free, first⟩ := leaseSlot?_eq_some_iff.mp taken
  refine ⟨?_, ?_, ?_⟩
  · intro other member
    rcases List.mem_append.mp member with earlier | last
    · exact settled.dated other earlier
    · rw [List.mem_singleton.mp last]
  · intro index keyed
    by_cases here : index = slot
    · subst here
      rw [update_self]
      have last := lastOf?_concat LeaseRequest.key met request request.key
      exact ⟨request, last.trans (if_pos rfl), le_rfl⟩
    · rw [update_of_ne here] at keyed ⊢
      rw [lastOf?_concat]
      by_cases same : request.key = (table index).key
      · exact ⟨request, if_pos same, settled.expireAt_le keyed⟩
      · rw [if_neg same]
        exact settled.outlasted index keyed
  · intro key other keyed found running
    rw [lastOf?_concat] at found
    by_cases same : request.key = key
    · rw [if_pos same, Option.some.injEq] at found
      subst found same
      refine ⟨slot, update_self .., fun earlier before => ?_⟩
      rw [update_of_ne before.ne]
      exact (first earlier before).2.1
    · rw [if_neg same] at found
      obtain ⟨index, held, front⟩ := settled.newest key other keyed found running
      have key_eq : other.key = key := key_of_lastOf? found
      have apart : index ≠ slot := by
        rintro rfl
        rw [held] at free
        rcases free with vacated | own | ended
        · exact keyed (key_eq.symm.trans vacated)
        · exact same (own.symm.trans key_eq)
        · exact absurd ended (Nat.not_lt.mpr running)
      refine ⟨index, by rw [update_of_ne apart, held], fun earlier before => ?_⟩
      by_cases here : earlier = slot
      · subst here
        rw [update_self]
        exact same
      · rw [update_of_ne here]
        exact front earlier before

/-- Every chronological history from an empty table leaves it settled. -/
theorem settled_run (empty : ∀ index, (table index).key = vacant)
    {requests : List (LeaseRequest κ ν)} (ordered : Chronological requests)
    (passed : ∀ request ∈ requests, request.time ≤ clock)
    : Settled vacant ttl (entered vacant ttl table requests) clock
        ((leasing vacant ttl).run table requests) := by
  induction requests using List.reverseRecOn generalizing clock with
  | nil => exact .start empty
  | append_singleton requests request ih =>
    obtain ⟨ordered, _, before⟩ := List.pairwise_append.mp ordered
    have settled := ih ordered (fun earlier member => before earlier member request (by simp))
    suffices step : Settled vacant ttl _ request.time _ from
      step.later (passed request (by simp))
    unfold entered at settled ⊢
    rw [Machine.run_concat, Machine.inputsWith_concat]
    generalize (leasing vacant ttl).run table requests = current at settled ⊢
    change Settled vacant ttl
      (_ ++ if (leaseSlot? vacant current request.time request.key).isSome then [request] else [])
      request.time (grantLease vacant current request.time (request.lease ttl))
    cases taken : leaseSlot? vacant current request.time request.key with
    | none =>
      rw [grantLease_of_full taken]
      simpa using settled
    | some slot =>
      rw [grantLease_of_slot taken]
      exact settled.enter taken

/-- A lookup finds the last lease that was entered under the key, while it runs. -/
theorem Settled.findLease_eq (settled : Settled vacant ttl met clock table) {key : κ}
    (keyed : key ≠ vacant)
    : findLease table clock key
      = ((lastOf? LeaseRequest.key met key).map (LeaseRequest.lease · ttl)).filter
          (fun lease => lease.runs clock) := by
  have ended (none_runs : ∀ index, (table index).key = key → (table index).expireAt ≤ clock)
      : findLease table clock key = none := by
    rw [← not_isSome_iff_eq_none, findLease_isSome_iff]
    rintro ⟨index, same, running⟩
    exact absurd (none_runs index same) (Nat.not_le.mpr running)
  cases found : lastOf? LeaseRequest.key met key with
  | none =>
    apply ended
    intro index same
    obtain ⟨_, last, _⟩ := settled.outlasted index (same ▸ keyed)
    rw [same, found] at last
    cases last
  | some request =>
    by_cases running : clock < request.time + ttl
    · obtain ⟨index, held, front⟩ := settled.newest key request keyed found running.le
      have key_eq : request.key = key := key_of_lastOf? found
      have runs : (request.lease ttl).runs clock = true := decide_eq_true running
      rw [map_some, filter_some, if_pos runs, findLease_eq_some_iff]
      exact ⟨index, held, key_eq, running,
        fun earlier before same => absurd same (front earlier before)⟩
    · have past : ¬ (request.lease ttl).runs clock = true :=
        fun runs => running (of_decide_eq_true runs)
      rw [map_some, filter_some, if_neg past]
      apply ended
      intro index same
      obtain ⟨_, last, ends⟩ := settled.outlasted index (same ▸ keyed)
      rw [same, found, Option.some.injEq] at last
      subst last
      omega

-- Leases that a walk meets

/-- Two running leases have the same key, which is not `vacant`. -/
def Doubled (vacant : κ) (table : Fin size → Lease κ ν) (now : Nat) : Prop :=
  ∃ left right,
    left < right
    ∧ (table left).key ≠ vacant
    ∧ (table left).key = (table right).key
    ∧ now < (table left).expireAt
    ∧ now < (table right).expireAt

/-- A walk meets each key that can be looked up once, with the value that is looked up, and nothing
else exactly when no key is doubled and no vacant slot runs.
-/
theorem walk_once_iff [DecidableEq ν] (vacant : κ) (table : Fin size → Lease κ ν) (now : Nat)
    : (∀ key value,
        (runningLeases table now).countP (fun lease => lease.key = key ∧ lease.value = value)
        = if key ≠ vacant ∧ (findLease table now key).map Lease.value = some value then 1 else 0)
      ↔ (∀ index, (table index).key = vacant → (table index).expireAt ≤ now)
        ∧ ¬ Doubled vacant table now := by
  have met (key : κ) (value : ν) (index : Fin size)
      : index
          ∈ Finset.univ.filter (fun index =>
              decide ((table index).key = key ∧ (table index).value = value) = true
              ∧ now < (table index).expireAt)
        ↔ (table index).key = key ∧ (table index).value = value ∧ now < (table index).expireAt := by
    simp [and_assoc]
  simp only [countP_runningLeases]
  constructor
  · intro once
    have looked (index : Fin size) (running : now < (table index).expireAt)
        : (table index).key ≠ vacant
          ∧ (findLease table now (table index).key).map Lease.value
            = some (table index).value := by
      by_contra otherwise
      have none := once (table index).key (table index).value
      rw [if_neg otherwise, Finset.card_eq_zero] at none
      exact Finset.notMem_empty index (none ▸ (met _ _ index).mpr ⟨rfl, rfl, running⟩)
    refine ⟨?_, ?_⟩
    · intro index free
      by_contra running
      exact (looked index (Nat.not_le.mp running)).1 free
    · rintro ⟨left, right, before, keyed, same, leftRuns, rightRuns⟩
      obtain ⟨_, leftLooked⟩ := looked left leftRuns
      obtain ⟨_, rightLooked⟩ := looked right rightRuns
      rw [← same, leftLooked, Option.some.injEq] at rightLooked
      have one := once (table left).key (table left).value
      rw [if_pos ⟨keyed, leftLooked⟩, Finset.card_eq_one] at one
      obtain ⟨only, single⟩ := one
      have first := (met _ _ left).mpr ⟨rfl, rfl, leftRuns⟩
      have second := (met _ _ right).mpr ⟨same.symm, rightLooked.symm, rightRuns⟩
      rw [single, Finset.mem_singleton] at first second
      exact absurd (first.trans second.symm) before.ne
  · rintro ⟨noVacant, single⟩ key value
    have unique {left right : Fin size} (keyed : (table left).key ≠ vacant)
        (same : (table left).key = (table right).key) (leftRuns : now < (table left).expireAt)
        (rightRuns : now < (table right).expireAt)
        : left = right := by
      rcases lt_trichotomy left right with before | here | behind
      · exact absurd ⟨left, right, before, keyed, same, leftRuns, rightRuns⟩ single
      · exact here
      · exact absurd ⟨right, left, behind, same ▸ keyed, same.symm, rightRuns, leftRuns⟩ single
    split
    · rename_i live
      obtain ⟨lease, found, held⟩ := map_eq_some_iff.mp live.2
      obtain ⟨index, rfl, rfl, running, _⟩ := findLease_eq_some_iff.mp found
      rw [Finset.card_eq_one]
      refine ⟨index, Finset.ext fun other => ?_⟩
      rw [met, Finset.mem_singleton]
      constructor
      · rintro ⟨same, _, runs⟩
        exact unique (same ▸ live.1) same runs running
      · rintro rfl
        exact ⟨rfl, held, running⟩
    · rename_i dead
      rw [Finset.card_eq_zero, Finset.eq_empty_iff_forall_notMem]
      intro index member
      obtain ⟨rfl, rfl, running⟩ := (met _ _ index).mp member
      have keyed : (table index).key ≠ vacant :=
        fun free => absurd (noVacant index free) (Nat.not_le.mpr running)
      obtain ⟨lease, found⟩ := isSome_iff_exists.mp
        (findLease_isSome_iff.mpr ⟨index, rfl, running⟩)
      obtain ⟨first, rfl, same, runs, _⟩ := findLease_eq_some_iff.mp found
      have here : first = index := unique (same ▸ keyed) same runs running
      exact dead ⟨keyed, by rw [found, map_some, here]⟩

/-- A request takes a slot in front of a lease of its key that still runs at `now`. -/
def Overtakes (vacant : κ) (table : Fin size → Lease κ ν) (now : Nat)
    (request : LeaseRequest κ ν)
    : Prop :=
  ∃ slot later,
    leaseSlot? vacant table request.time request.key = some slot
    ∧ slot < later
    ∧ (table later).key = request.key
    ∧ now < (table later).expireAt

/-- A key is doubled by the requests that overtake a running lease and by nothing else; once it is
doubled, it stays so until one of the leases ends.
-/
theorem Settled.doubled_step_iff {request : LeaseRequest κ ν}
    (settled : Settled vacant ttl met request.time table) {now : Nat}
    (passed : request.time ≤ now)
    : Doubled vacant (grantLease vacant table request.time (request.lease ttl)) now
      ↔ Doubled vacant table now
        ∨ (request.key ≠ vacant ∧ Overtakes vacant table now request) := by
  cases taken : leaseSlot? vacant table request.time request.key with
  | none =>
    rw [grantLease_of_full taken]
    simp [Overtakes, taken]
  | some slot =>
    obtain ⟨free, first⟩ := leaseSlot?_eq_some_iff.mp taken
    rw [grantLease_of_slot taken]
    -- a running lease of the slot has the key of the request and ends no later
    have replaced (keyed : (table slot).key ≠ vacant) (running : now < (table slot).expireAt)
        : (table slot).key = request.key ∧ now < (request.lease ttl).expireAt := by
      have ends := settled.expireAt_le keyed
      refine ⟨(free.resolve_left keyed).resolve_right (by omega), ?_⟩
      exact running.trans_le ends
    constructor
    · rintro ⟨left, right, before, keyed, same, leftRuns, rightRuns⟩
      by_cases hereLeft : left = slot
      · subst hereLeft
        rw [update_self] at keyed same
        rw [update_of_ne before.ne'] at same rightRuns
        exact Or.inr ⟨keyed, left, right, taken, before, same.symm, rightRuns⟩
      · rw [update_of_ne hereLeft] at keyed same leftRuns
        by_cases hereRight : right = slot
        · subst hereRight
          rw [update_self] at same
          exact absurd same (first left before).2.1
        · rw [update_of_ne hereRight] at same rightRuns
          exact Or.inl ⟨left, right, before, keyed, same, leftRuns, rightRuns⟩
    · have kept {index : Fin size} (keyed : (table index).key ≠ vacant)
          (running : now < (table index).expireAt)
          : (update table slot (request.lease ttl) index).key = (table index).key
            ∧ now < (update table slot (request.lease ttl) index).expireAt := by
        by_cases here : index = slot
        · subst here
          rw [update_self]
          exact ⟨(replaced keyed running).1.symm, (replaced keyed running).2⟩
        · rw [update_of_ne here]
          exact ⟨rfl, running⟩
      rintro (⟨left, right, before, keyed, same, leftRuns, rightRuns⟩
        | ⟨keyed, found, later, again, before, same, running⟩)
      · obtain ⟨leftKey, leftRuns⟩ := kept keyed leftRuns
        obtain ⟨rightKey, rightRuns⟩ := kept (same ▸ keyed) rightRuns
        exact ⟨left, right, before, leftKey ▸ keyed, by rw [leftKey, rightKey, same],
          leftRuns, rightRuns⟩
      · rw [taken, Option.some.injEq] at again
        subst again
        have ends := settled.expireAt_le (same ▸ keyed)
        refine ⟨slot, later, before, ?_⟩
        rw [update_self, update_of_ne before.ne']
        exact ⟨keyed, same.symm, running.trans_le ends, running⟩

/-- A chronological history doubles a key exactly when one of its requests overtakes a lease of the
key that still runs.
-/
theorem doubled_run_iff (empty : ∀ index, (table index).key = vacant)
    {requests : List (LeaseRequest κ ν)} (ordered : Chronological requests) {now : Nat}
    (passed : ∀ request ∈ requests, request.time ≤ now)
    : Doubled vacant ((leasing vacant ttl).run table requests) now
      ↔ ∃ before request after,
          requests = before ++ request :: after
          ∧ request.key ≠ vacant
          ∧ Overtakes vacant ((leasing vacant ttl).run table before) now request := by
  induction requests using List.reverseRecOn with
  | nil =>
    refine iff_of_false ?_ (by simp)
    rintro ⟨left, _, _, keyed, _⟩
    exact keyed (empty left)
  | append_singleton requests request ih =>
    obtain ⟨ordered, _, before⟩ := List.pairwise_append.mp ordered
    have settled
        : Settled vacant ttl (entered vacant ttl table requests) request.time
            ((leasing vacant ttl).run table requests) :=
      settled_run empty ordered
        (fun earlier member => before earlier member request (by simp))
    have step := settled.doubled_step_iff (passed request (by simp))
    have history := ih ordered (fun earlier member => passed earlier (by simp [member]))
    rw [exists_split_concat_iff, ← history, Machine.run_concat]
    exact step

end SwitchLanPlay.Foundation
