import Mathlib

/-! Fixed arrays of slots that stand for finite maps. Lookups scan from the first index, and
writers reuse a matching slot before a free one. Every slot update is an update of the map at a
single key.
-/

namespace SwitchLanPlay.Foundation

open Function
open Option

variable {size : Nat} {σ κ : Type*}

variable {table : Fin size → σ} {index : Fin size} {slot : σ}

structure SlotView (σ κ : Type*) where
  used : σ → Bool
  key : σ → κ

namespace SlotView

def free? (view : SlotView σ κ) (table : Fin size → σ) : Option (Fin size) :=
  Fin.find? (fun index => !view.used (table index))

theorem free?_some {view : SlotView σ κ} (found : view.free? table = some index)
    : view.used (table index) = false := by
  simpa using (Fin.find?_eq_some_iff.mp found).1

theorem free?_isSome {view : SlotView σ κ} (unused : view.used (table index) = false)
    : ∃ found, view.free? table = some found := by
  apply isSome_iff_exists.mp
  apply Fin.isSome_find?_iff.mpr
  exact ⟨index, by simp [unused]⟩

theorem free?_none {view : SlotView σ κ} (full : view.free? table = none) (index : Fin size)
    : view.used (table index) = true := by
  by_contra unused
  obtain ⟨found, free⟩ := free?_isSome (Bool.not_eq_true _ ▸ unused)
  rw [full] at free
  cases free

def usedCount (view : SlotView σ κ) (table : Fin size → σ) : Nat :=
  (Finset.univ.filter (fun index => view.used (table index) = true)).card

/-- Writing one slot adds at most one to the number of slots in use. -/
theorem usedCount_update_le (view : SlotView σ κ) (table : Fin size → σ)
    (index : Fin size) (slot : σ)
    : view.usedCount (Function.update table index slot) ≤ view.usedCount table + 1 := by
  unfold usedCount
  refine (Finset.card_le_card ?_).trans (Finset.card_insert_le index _)
  intro position member
  simp only [Finset.mem_filter, Finset.mem_univ, true_and, Finset.mem_insert] at member ⊢
  by_cases here : position = index
  · exact Or.inl here
  · exact Or.inr (by simpa only [update_of_ne here] using member)

/-- A table with fewer used slots than slots has a free one. -/
theorem exists_free {view : SlotView σ κ} (few : view.usedCount table < size)
    : ∃ index, view.used (table index) = false := by
  by_contra full
  have all : ∀ index, view.used (table index) = true := by
    intro index
    by_contra unused
    exact full ⟨index, by simpa using unused⟩
  have count : view.usedCount table = size := by
    simp [usedCount, all]
  omega

end SlotView

variable [DecidableEq κ]

namespace SlotView

def match? (view : SlotView σ κ) (table : Fin size → σ) (key : κ)
    : Option (Fin size) :=
  Fin.find? (fun index => view.used (table index) && view.key (table index) == key)

def content (view : SlotView σ κ) (table : Fin size → σ) (key : κ) : Option σ :=
  (view.match? table key).map table

def Distinct (view : SlotView σ κ) (table : Fin size → σ) : Prop :=
  ∀ left right,
    view.used (table left) = true
    → view.used (table right) = true
    → view.key (table left) = view.key (table right)
    → left = right

theorem match?_some {view : SlotView σ κ} {key : κ} (found : view.match? table key = some index)
    : view.used (table index) = true ∧ view.key (table index) = key := by
  have holds := (Fin.find?_eq_some_iff.mp found).1
  simpa using holds

theorem match?_none_iff {view : SlotView σ κ} {key : κ}
    : view.match? table key = none
      ↔ ∀ index, view.used (table index) = true → view.key (table index) ≠ key := by
  simp [match?]

/-- Distinct keys make the scan order irrelevant: any used slot with the key is the match. -/
theorem Distinct.match?_eq {view : SlotView σ κ} {key : κ} (distinct : view.Distinct table)
    (used : view.used (table index) = true) (carries : view.key (table index) = key)
    : view.match? table key = some index := by
  cases found : view.match? table key with
  | none => exact absurd carries (match?_none_iff.mp found index used)
  | some other =>
    obtain ⟨otherUsed, otherKey⟩ := match?_some found
    rw [distinct other index otherUsed used (otherKey.trans carries.symm)]

/-- A key has no content exactly when no used slot carries it. -/
theorem content_none_iff {view : SlotView σ κ} {key : κ}
    : view.content table key = none
      ↔ ∀ index, view.used (table index) = true → view.key (table index) ≠ key := by
  rw [content, map_eq_none_iff, match?_none_iff]

/-- With distinct keys the content of a key is the slot in use that carries it. -/
theorem Distinct.content_eq_some_iff {view : SlotView σ κ} {key : κ}
    (distinct : view.Distinct table)
    : view.content table key = some slot
      ↔ ∃ index,
          table index = slot
          ∧ view.used (table index) = true
          ∧ view.key (table index) = key := by
  rw [content, map_eq_some_iff]
  constructor
  · rintro ⟨index, matched, same⟩
    exact ⟨index, same, match?_some matched⟩
  · rintro ⟨index, same, used, carries⟩
    exact ⟨index, distinct.match?_eq used carries, same⟩

end SlotView

-- Writing one slot updates the map at one key

namespace SlotView

/-- Slot `index` may be written for `key`: it already carries the key, or no slot does
and it is free.
-/
def Writable (view : SlotView σ κ) (table : Fin size → σ) (key : κ)
    (index : Fin size)
    : Prop :=
  view.match? table key = some index
  ∨ (view.match? table key = none ∧ view.used (table index) = false)

/-- Slot `index` may be written for `key` with the loss of what it carried: it is the match,
or there is none.
-/
def Claimable (view : SlotView σ κ) (table : Fin size → σ) (key : κ)
    (index : Fin size)
    : Prop := view.match? table key = some index ∨ view.match? table key = none

theorem Writable.claimable {view : SlotView σ κ} {key : κ}
    (writable : view.Writable table key index)
    : view.Claimable table key index := writable.imp_right And.left

/-- Every other used slot carries another key than the one being written.
Witness: distinctness when the slot matched, the failed scan when none did.
-/
theorem Distinct.key_ne {view : SlotView σ κ} {key : κ} {other : Fin size}
    (distinct : view.Distinct table) (claimable : view.Claimable table key index)
    (used : view.used (table other) = true) (ne : other ≠ index)
    : view.key (table other) ≠ key := by
  rcases claimable with matched | missing
  · intro same
    obtain ⟨indexUsed, indexKey⟩ := match?_some matched
    exact ne (distinct other index used indexUsed (same.trans indexKey.symm))
  · exact match?_none_iff.mp missing other used

theorem Distinct.update {view : SlotView σ κ} {key : κ} (distinct : view.Distinct table)
    (claimable : view.Claimable table key index) (carries : view.key slot = key)
    : view.Distinct (Function.update table index slot) := by
  intro left right leftUsed rightUsed same
  by_cases leftHere : left = index <;> by_cases rightHere : right = index
  · exact leftHere.trans rightHere.symm
  · subst leftHere
    rw [update_self, update_of_ne rightHere] at same
    rw [update_of_ne rightHere] at rightUsed
    exact absurd (same.symm.trans carries) (distinct.key_ne claimable rightUsed rightHere)
  · subst rightHere
    rw [update_self, update_of_ne leftHere] at same
    rw [update_of_ne leftHere] at leftUsed
    exact absurd (same.trans carries) (distinct.key_ne claimable leftUsed leftHere)
  · simp only [update_of_ne leftHere, update_of_ne rightHere] at *
    exact distinct left right leftUsed rightUsed same

/-- A written slot is the content of its key while it stays in use. -/
theorem Distinct.content_update_self {view : SlotView σ κ} {key : κ}
    (distinct : view.Distinct table) (claimable : view.Claimable table key index)
    (carries : view.key slot = key)
    : view.content (Function.update table index slot) key
      = if view.used slot then some slot else none := by
  cases used : view.used slot with
  | true =>
    have matched : view.match? (Function.update table index slot) key = some index :=
      (distinct.update claimable carries).match?_eq
        (by rw [update_self]; exact used)
        (by rw [update_self]; exact carries)
    simp [content, matched]
  | false =>
    simp only [Bool.false_eq_true, if_false]
    apply content_none_iff.mpr
    intro position positionUsed
    by_cases here : position = index
    · subst here
      rw [update_self, used] at positionUsed
      exact absurd positionUsed (by simp)
    · rw [update_of_ne here] at positionUsed ⊢
      exact distinct.key_ne claimable positionUsed here

/-- Writing a slot changes the map at its key only: to the new slot when it stays in use,
and to nothing when it is released.
-/
theorem Distinct.content_update {view : SlotView σ κ} {key : κ} (distinct : view.Distinct table)
    (writable : view.Writable table key index) (carries : view.key slot = key) (other : κ)
    : view.content (Function.update table index slot) other
      = if other = key then (if view.used slot then some slot else none)
        else view.content table other := by
  by_cases same : other = key
  · rw [same, if_pos rfl]
    exact distinct.content_update_self writable.claimable carries
  · rw [if_neg same]
    cases found : view.match? table other with
    | none =>
      have absent : view.content table other = none := by simp [content, found]
      rw [absent]
      apply content_none_iff.mpr
      intro position positionUsed
      by_cases here : position = index
      · subst here
        rw [update_self, carries]
        exact fun carried => same carried.symm
      · rw [update_of_ne here] at positionUsed ⊢
        exact match?_none_iff.mp found position positionUsed
    | some position =>
      obtain ⟨positionUsed, positionKey⟩ := match?_some found
      have elsewhere : position ≠ index := by
        intro here
        subst here
        rcases writable with matched | ⟨_, unused⟩
        · exact same (positionKey.symm.trans (match?_some matched).2)
        · rw [unused] at positionUsed
          exact absurd positionUsed (by simp)
      have kept : view.match? (Function.update table index slot) other = some position :=
        (distinct.update writable.claimable carries).match?_eq
          (by rw [update_of_ne elsewhere]; exact positionUsed)
          (by rw [update_of_ne elsewhere]; exact positionKey)
      simp [content, found, kept, update_of_ne elsewhere]

end SlotView

/-- A count of slots that can only be one and the same slot. -/
theorem countP_finRange_at (keep : Fin size → Bool) (index : Fin size)
    : (List.finRange size).countP (fun position => decide (index = position) && keep position)
      = if keep index then 1 else 0 := by
  by_cases kept : keep index = true
  · rw [if_pos kept, ← List.count_eq_one_of_mem (List.nodup_finRange size)
      (List.mem_finRange index), List.count]
    refine List.countP_congr ?_
    intro position _
    rw [Bool.and_eq_true_iff, decide_eq_true_iff, beq_iff_eq]
    constructor
    · exact fun both => both.1.symm
    · rintro rfl
      exact ⟨rfl, kept⟩
  · rw [if_neg kept]
    refine List.countP_eq_zero.mpr ?_
    intro position _ both
    obtain ⟨same, keeps⟩ := Bool.and_eq_true_iff.mp both
    cases of_decide_eq_true same
    exact kept keeps

/-- A sum over all slots after one of them is written. -/
theorem sum_update_add (measure : σ → Nat) (table : Fin size → σ) (index : Fin size) (slot : σ)
    : ∑ position, measure (Function.update table index slot position) + measure (table index)
      = ∑ position, measure (table position) + measure slot := by
  have written (position : Fin size)
      : measure (Function.update table index slot position)
        = Function.update (fun position => measure (table position)) index (measure slot)
            position := by
    by_cases here : position = index
    · rw [here, update_self, update_self]
    · rw [update_of_ne here, update_of_ne here]
  simp only [written]
  rw [Finset.sum_update_of_mem (Finset.mem_univ index), Finset.sdiff_singleton_eq_erase,
    ← Finset.add_sum_erase Finset.univ _ (Finset.mem_univ index)]
  omega

end SwitchLanPlay.Foundation
