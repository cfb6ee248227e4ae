import Mathlib

/-! Fixed tables of leases: entries that are valid until a moment. Lookups see running leases
only; a new lease goes to the first slot that is vacant, carries the same key or has run out.
-/

namespace SwitchLanPlay.Foundation

variable {size : Nat} {κ ν : Type*}

structure Lease (κ ν : Type*) where
  key : κ
  value : ν
  expireAt : Nat
  deriving DecidableEq, Repr

def Lease.runs (lease : Lease κ ν) (now : Nat) : Bool := now < lease.expireAt

def runningLeases (table : Fin size → Lease κ ν) (now : Nat) : List (Lease κ ν) :=
  ((List.finRange size).map table).filter (fun lease => lease.runs now)

/-- How often a walk over the running leases meets a kind of lease. -/
theorem countP_runningLeases (table : Fin size → Lease κ ν) (now : Nat)
    (kind : Lease κ ν → Bool)
    : (runningLeases table now).countP kind
      = (Finset.univ.filter (fun index => kind (table index) ∧ now < (table index).expireAt)).card
      := by
  unfold runningLeases
  rw [List.countP_filter, List.countP_map, List.countP_eq_length_filter,
    ← List.toFinset_card_of_nodup ((List.nodup_finRange size).filter _)]
  congr 1
  ext index
  simp [Lease.runs]

variable [DecidableEq κ] {now : Nat} {table : Fin size → Lease κ ν} {vacant : κ}

def findLease (table : Fin size → Lease κ ν) (now : Nat) (key : κ) : Option (Lease κ ν) :=
  (Fin.find? (fun index => (table index).key == key && (table index).runs now)).map table

/-- The first slot that may take a lease of `key`. A slot with the key `vacant` is empty. -/
def leaseSlot? (vacant : κ) (table : Fin size → Lease κ ν) (now : Nat) (key : κ)
    : Option (Fin size) :=
  Fin.find? (fun index =>
    (table index).key == vacant || (table index).key == key || (table index).expireAt < now)

def grantLease (vacant : κ) (table : Fin size → Lease κ ν) (now : Nat) (lease : Lease κ ν)
    : Fin size → Lease κ ν :=
  match leaseSlot? vacant table now lease.key with
  | none => table
  | some index => Function.update table index lease

/-- A key is found exactly while one of its leases runs. -/
theorem findLease_isSome_iff {key : κ}
    : (findLease table now key).isSome = true
      ↔ ∃ index, (table index).key = key ∧ now < (table index).expireAt := by
  simp [findLease, Lease.runs]

/-- A slot holds what it held before, or the lease just entered. -/
theorem grantLease_slot (vacant : κ) (table : Fin size → Lease κ ν) (now : Nat)
    (lease : Lease κ ν) (index : Fin size)
    : grantLease vacant table now lease index = table index
      ∨ grantLease vacant table now lease index = lease := by
  unfold grantLease
  cases leaseSlot? vacant table now lease.key with
  | none => exact Or.inl rfl
  | some slot =>
    by_cases here : index = slot
    · exact Or.inr (by rw [here]; exact Function.update_self ..)
    · exact Or.inl (Function.update_of_ne here ..)

/-- The slot taken is vacant, of the same key or ended; no slot in front of it is. -/
theorem leaseSlot?_eq_some_iff {key : κ} {slot : Fin size}
    : leaseSlot? vacant table now key = some slot
      ↔ ((table slot).key = vacant ∨ (table slot).key = key ∨ (table slot).expireAt < now)
        ∧ ∀ earlier < slot,
            (table earlier).key ≠ vacant
            ∧ (table earlier).key ≠ key
            ∧ now ≤ (table earlier).expireAt := by
  simp [leaseSlot?, and_assoc, or_assoc]

/-- What entering does, by the slot that is taken. -/
theorem grantLease_of_slot {lease : Lease κ ν} {slot : Fin size}
    (taken : leaseSlot? vacant table now lease.key = some slot)
    : grantLease vacant table now lease = Function.update table slot lease := by
  rw [grantLease, taken]

theorem grantLease_of_full {lease : Lease κ ν} (full : leaseSlot? vacant table now lease.key = none)
    : grantLease vacant table now lease = table := by
  rw [grantLease, full]

/-- The first running lease of a key is found. -/
theorem findLease_eq_some_iff {key : κ} {lease : Lease κ ν}
    : findLease table now key = some lease
      ↔ ∃ index,
          table index = lease
          ∧ lease.key = key
          ∧ now < lease.expireAt
          ∧ ∀ earlier < index, (table earlier).key = key → (table earlier).expireAt ≤ now := by
  simp only [findLease, Option.map_eq_some_iff, Fin.find?_eq_some_iff, Lease.runs]
  constructor
  · rintro ⟨index, ⟨matched, first⟩, rfl⟩
    obtain ⟨same, running⟩ : (table index).key = key ∧ now < (table index).expireAt := by
      simpa using matched
    refine ⟨index, rfl, same, running, fun earlier before equal => ?_⟩
    simpa [equal] using first earlier before
  · rintro ⟨index, rfl, same, running, first⟩
    refine ⟨index, ⟨by simp [same, running], fun earlier before => ?_⟩, rfl⟩
    simpa using first earlier before

-- The elaborator would otherwise unroll the scans over a table of a given size.
attribute [irreducible] findLease leaseSlot? grantLease runningLeases

end SwitchLanPlay.Foundation
