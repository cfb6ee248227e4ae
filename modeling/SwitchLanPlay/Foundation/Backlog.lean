import Mathlib

/-! A consumer that serves at most one item in each round: how far it is behind the items
that have become available.
-/

namespace SwitchLanPlay.Foundation

/-- `served` follows `available` by at most one item a round and never overtakes it. -/
structure Follows (available served : Nat → Nat) : Prop where
  start : served 0 = available 0
  round : ∀ n, served (n + 1) = min (served n + 1) (available (n + 1))

theorem Follows.served_le {available served : Nat → Nat} (follows : Follows available served)
    (n : Nat)
    : served n ≤ available n := by
  cases n with
  | zero => exact follows.start.le
  | succ n =>
    rw [follows.round]
    exact Nat.min_le_right _ _

/-- No backlog of an earlier round can be worked off faster than one item a round. -/
theorem Follows.served_add_le {available served : Nat → Nat}
    (follows : Follows available served) (j rounds : Nat)
    : served (j + rounds) ≤ available j + rounds := by
  induction rounds with
  | zero => exact follows.served_le j
  | succ rounds ih =>
    rw [← Nat.add_assoc, follows.round]
    exact (Nat.min_le_left _ _).trans (Nat.succ_le_succ ih)

/-- Some earlier round accounts for all that has been served since. -/
theorem Follows.exists_caught_up {available served : Nat → Nat}
    (follows : Follows available served) (n : Nat)
    : ∃ j ≤ n, served n = available j + (n - j) := by
  induction n with
  | zero => exact ⟨0, Nat.le_refl 0, follows.start⟩
  | succ n ih =>
    rcases Nat.le_total (served n + 1) (available (n + 1)) with behind | caught
    · obtain ⟨j, before, equal⟩ := ih
      refine ⟨j, before.trans (Nat.le_succ n), ?_⟩
      rw [follows.round, Nat.min_eq_left behind, equal]
      omega
    · refine ⟨n + 1, Nat.le_refl _, ?_⟩
      rw [follows.round, Nat.min_eq_right caught, Nat.sub_self]
      rfl

/-- After round `n` everything available is served exactly when, from every earlier round
on, no more items became available than there were rounds.
-/
theorem Follows.served_eq_iff {available served : Nat → Nat}
    (follows : Follows available served) (n : Nat)
    : served n = available n ↔ ∀ j ≤ n, available n ≤ available j + (n - j) := by
  constructor
  · intro equal j before
    have bound := follows.served_add_le j (n - j)
    rwa [Nat.add_sub_cancel' before, equal] at bound
  · intro paced
    obtain ⟨j, before, equal⟩ := follows.exists_caught_up n
    exact Nat.le_antisymm (follows.served_le n) (equal ▸ paced j before)

end SwitchLanPlay.Foundation
