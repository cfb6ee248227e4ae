import Mathlib

/-! A lock that records its owner, shared by parties that know from their own state whether they
hold it.
-/

namespace SwitchLanPlay.Foundation

variable {π : Type*} {owner : Option π} {holds holds' : π → Prop} {party : π}

/-- Every party that holds the lock is its owner. -/
def Guarded (owner : Option π) (holds : π → Prop) : Prop :=
  ∀ party, holds party → owner = some party

/-- Two parties never hold the lock at once. -/
theorem Guarded.unique (guarded : Guarded owner holds) {first second : π} (one : holds first)
    (two : holds second)
    : first = second := Option.some.inj ((guarded first one).symm.trans (guarded second two))

/-- A party moves that neither takes the lock nor gives it back. -/
theorem Guarded.keep (guarded : Guarded owner holds) (own : holds' party → holds party)
    (others : ∀ other, other ≠ party → holds' other → holds other)
    : Guarded owner holds' := by
  intro other held
  by_cases same : other = party
  · rw [same] at held ⊢
    exact guarded party (own held)
  · exact guarded other (others other same held)

/-- A party takes the free lock. -/
theorem Guarded.acquire (free : Guarded none holds)
    (others : ∀ other, other ≠ party → holds' other → holds other)
    : Guarded (some party) holds' := by
  intro other held
  by_cases same : other = party
  · rw [same]
  · exact absurd (free other (others other same held)).symm (Option.some_ne_none other)

/-- The party that holds the lock gives it back. -/
theorem Guarded.release (guarded : Guarded owner holds) (held : holds party)
    (done : ¬ holds' party) (others : ∀ other, other ≠ party → holds' other → holds other)
    : Guarded none holds' := by
  intro other held'
  by_cases same : other = party
  · rw [same] at held'
    exact absurd held' done
  · exact absurd (guarded.unique (others other same held') held) same

end SwitchLanPlay.Foundation
