import Mathlib

/-! The first and the last item of each key in a list, and what is taken from a list that is walked
in an unspecified order.
-/

namespace SwitchLanPlay.Foundation

open List

variable {α κ : Type*} [DecidableEq κ]

def firstOf? (key : α → κ) (items : List α) (wanted : κ) : Option α :=
  items.find? (fun item => key item = wanted)

def lastOf? (key : α → κ) (items : List α) (wanted : κ) : Option α :=
  firstOf? key items.reverse wanted

def latest (key : α → κ) (items : List α) : List α :=
  (items.map key).dedup.filterMap (lastOf? key items)

variable {key : α → κ} {items : List α} {wanted : κ} {item : α}

theorem firstOf?_cons (key : α → κ) (item : α) (items : List α) (wanted : κ)
    : firstOf? key (item :: items) wanted
      = (if key item = wanted then some item else none).or (firstOf? key items wanted) := by
  by_cases same : key item = wanted <;> simp [firstOf?, same]

theorem key_of_firstOf? (found : firstOf? key items wanted = some item) : key item = wanted := by
  unfold firstOf? at found
  simpa using find?_some found

theorem mem_of_firstOf? (found : firstOf? key items wanted = some item) : item ∈ items :=
  mem_of_find?_eq_some found

theorem key_of_lastOf? (found : lastOf? key items wanted = some item) : key item = wanted :=
  key_of_firstOf? found

theorem mem_of_lastOf? (found : lastOf? key items wanted = some item) : item ∈ items :=
  mem_reverse.mp (mem_of_firstOf? found)

theorem lastOf?_isSome_iff
    : (lastOf? key items wanted).isSome = true ↔ ∃ item ∈ items, key item = wanted := by
  simp [lastOf?, firstOf?]

/-- The last item of a key after one more. -/
theorem lastOf?_concat (key : α → κ) (items : List α) (item : α) (wanted : κ)
    : lastOf? key (items ++ [item]) wanted
      = if key item = wanted then some item else lastOf? key items wanted := by
  rw [lastOf?, reverse_append, reverse_singleton, singleton_append, firstOf?_cons]
  split <;> rfl

theorem mem_latest : item ∈ latest key items ↔ lastOf? key items (key item) = some item := by
  simp only [latest, mem_filterMap, mem_dedup, mem_map]
  constructor
  · rintro ⟨_, _, found⟩
    rw [key_of_lastOf? found]
    exact found
  · exact fun found => ⟨key item, ⟨item, mem_of_lastOf? found, rfl⟩, found⟩

/-- There is one item for every key. -/
theorem nodup_latest (key : α → κ) (items : List α) : (latest key items).Nodup := by
  refine (items.map key).nodup_dedup.filterMap ?_
  intro left right item leftFound rightFound
  exact (key_of_lastOf? leftFound).symm.trans (key_of_lastOf? rightFound)

/-- An order in which the items of a collection may be walked. -/
abbrev Walk (α : Type*) := { order : List α → List α // ∀ items, (order items).Perm items }

/-- What is taken does not depend on the order if and only if all is taken, or nothing. -/
theorem forall_walk_take_perm_iff (distinct : items.Nodup) (keep : α → Bool) {count : Nat}
    {expected : List α} (fits : expected.length ≤ count)
    : (∀ walk : Walk α, (((walk.val items).filter keep).take count).Perm expected)
      ↔ count = 0 ∨ (items.filter keep).Perm expected := by
  constructor
  · intro always
    rw [or_iff_not_imp_left]
    intro some_
    have forward := always ⟨id, fun _ => .rfl⟩
    have backward := always ⟨reverse, reverse_perm⟩
    dsimp only [id] at forward backward
    rw [filter_reverse] at backward
    have distinct := distinct.filter keep
    generalize items.filter keep = kept at distinct forward backward ⊢
    rcases Nat.lt_or_ge count kept.length with more | all
    · -- the last item is taken from behind and not from the front
      obtain rfl | ⟨front, last, rfl⟩ := eq_nil_or_concat kept
      · exact absurd more (Nat.not_lt_zero count)
      · rw [concat_eq_append] at distinct forward backward more
        rw [length_append, length_singleton] at more
        rw [take_append_of_le_length (Nat.le_of_lt_succ more)] at forward
        rw [reverse_append, reverse_singleton, singleton_append] at backward
        obtain ⟨rest, rfl⟩ := Nat.exists_eq_succ_of_ne_zero some_
        have taken : last ∈ front.take (rest + 1) :=
          forward.mem_iff.mpr (backward.mem_iff.mp (mem_cons_self ..))
        exact absurd rfl ((nodup_append.mp distinct).2.2 last (mem_of_mem_take taken) last
          (mem_singleton_self last))
    · rwa [take_of_length_le all] at forward
  · rintro (rfl | same) walk
    · rw [eq_nil_of_length_eq_zero (Nat.le_zero.mp fits)]
      exact .rfl
    · have walked := ((walk.property items).filter keep).trans same
      rwa [take_of_length_le (walked.length_eq.trans_le fits)]

end SwitchLanPlay.Foundation
