import Mathlib

/-! Insertion-ordered maps: writing a present key keeps its place, a new key goes last. -/

namespace SwitchLanPlay.Foundation

open List

variable {κ β : Type*}

/-- Entries in insertion order, at most one for a key. -/
structure OrderedMap (κ β : Type*) where
  entries : List (κ × β)
  nodup : (entries.map Prod.fst).Nodup

def OrderedMap.empty : OrderedMap κ β := ⟨[], nodup_nil⟩

/-- Entries of one key are equal. -/
theorem OrderedMap.unique (map : OrderedMap κ β) {key : κ} {left right : β}
    (leftMember : (key, left) ∈ map.entries) (rightMember : (key, right) ∈ map.entries)
    : left = right := congrArg Prod.snd (inj_on_of_nodup_map map.nodup leftMember rightMember rfl)

def OrderedMap.retain (map : OrderedMap κ β) (keep : β → Bool) : OrderedMap κ β :=
  ⟨map.entries.filter (fun entry => keep entry.2),
    map.nodup.sublist (filter_sublist.map Prod.fst)⟩

theorem OrderedMap.nodup_concat (map : OrderedMap κ β) {key : κ} (value : β)
    (absent : key ∉ map.entries.map Prod.fst)
    : ((map.entries ++ [(key, value)]).map Prod.fst).Nodup := by
  rw [map_append, map_singleton, ← concat_eq_append]
  exact map.nodup.concat absent

variable [DecidableEq κ]

namespace OrderedMap

def get? (map : OrderedMap κ β) (key : κ) : Option β :=
  (map.entries.find? (fun entry => entry.1 = key)).map Prod.snd

def delete (map : OrderedMap κ β) (key : κ) : OrderedMap κ β :=
  ⟨map.entries.filter (fun entry => entry.1 ≠ key),
    map.nodup.sublist (filter_sublist.map Prod.fst)⟩

/-- Overwriting a present key does not change the keys. -/
theorem map_fst_overwrite (entries : List (κ × β)) (key : κ) (value : β)
    : (entries.map (fun entry => if entry.1 = key then (key, value) else entry)).map Prod.fst
      = entries.map Prod.fst := by
  rw [map_map]
  apply map_congr_left
  intro entry _
  simp only [Function.comp_apply]
  split
  · rename_i same
    exact same.symm
  · rfl

def set (map : OrderedMap κ β) (key : κ) (value : β) : OrderedMap κ β :=
  if present : key ∈ map.entries.map Prod.fst then
    ⟨map.entries.map (fun entry => if entry.1 = key then (key, value) else entry),
      by rw [OrderedMap.map_fst_overwrite]; exact map.nodup⟩
  else
    ⟨map.entries ++ [(key, value)], map.nodup_concat value present⟩

/-- Reading a key finds its entry. -/
theorem get?_eq_some {map : OrderedMap κ β} {key : κ} {value : β}
    : map.get? key = some value ↔ (key, value) ∈ map.entries := by
  constructor
  · intro found
    obtain ⟨⟨other, stored⟩, first, rfl⟩ := Option.map_eq_some_iff.mp found
    have same : other = key := by simpa using find?_some first
    rw [← same]
    exact mem_of_find?_eq_some first
  · intro member
    cases first : map.entries.find? (fun entry => entry.1 = key) with
    | none =>
      have absent := find?_eq_none.mp first _ member
      simp at absent
    | some entry =>
      obtain ⟨other, stored⟩ := entry
      have same : other = key := by simpa using find?_some first
      subst same
      have equal := map.unique (mem_of_find?_eq_some first) member
      simp only [get?, first, Option.map_some, equal]

theorem mem_set {map : OrderedMap κ β} {key other : κ} {value stored : β}
    : (other, stored) ∈ (map.set key value).entries
      ↔ (other = key ∧ stored = value) ∨ (other ≠ key ∧ (other, stored) ∈ map.entries) := by
  unfold set
  split
  · rename_i present
    simp only [mem_map] at present ⊢
    constructor
    · rintro ⟨entry, member, equal⟩
      split at equal
      · cases equal
        exact Or.inl ⟨rfl, rfl⟩
      · rename_i differs
        subst equal
        exact Or.inr ⟨differs, member⟩
    · rintro (⟨rfl, rfl⟩ | ⟨differs, member⟩)
      · obtain ⟨entry, member, same⟩ := present
        exact ⟨entry, member, by rw [if_pos same]⟩
      · exact ⟨_, member, by rw [if_neg differs]⟩
  · rename_i absent
    simp only [mem_append, mem_singleton, Prod.mk.injEq]
    constructor
    · rintro (member | equal)
      · refine Or.inr ⟨?_, member⟩
        rintro rfl
        exact absent (mem_map_of_mem member)
      · exact Or.inl equal
    · rintro (equal | ⟨_, member⟩)
      · exact Or.inr equal
      · exact Or.inl member

theorem get?_set (map : OrderedMap κ β) (key : κ) (value : β) (other : κ)
    : (map.set key value).get? other = if other = key then some value else map.get? other := by
  apply Option.ext
  intro stored
  rw [get?_eq_some, mem_set]
  by_cases same : other = key
  · simp [same, eq_comm]
  · simp [same, get?_eq_some]

theorem get?_delete (map : OrderedMap κ β) (key other : κ)
    : (map.delete key).get? other = if other = key then none else map.get? other := by
  apply Option.ext
  intro stored
  rw [get?_eq_some]
  by_cases same : other = key
  · simp [delete, same]
  · simp [delete, same, get?_eq_some]

theorem overwrite_filter_ne (entries : List (κ × β)) (key : κ) (value : β)
    : (entries.map (fun entry => if entry.1 = key then (key, value) else entry)).filter
        (fun entry => entry.1 ≠ key)
      = entries.filter (fun entry => entry.1 ≠ key) := by
  induction entries with
  | nil => rfl
  | cons entry rest ih => by_cases same : entry.1 = key <;> simpa [same] using ih

/-- Writing a key leaves the entries of the other keys and their order alone. -/
theorem set_filter_ne (map : OrderedMap κ β) (key : κ) (value : β)
    : (map.set key value).entries.filter (fun entry => entry.1 ≠ key)
      = map.entries.filter (fun entry => entry.1 ≠ key) := by
  unfold set
  split
  · exact overwrite_filter_ne map.entries key value
  · simp

/-- Retaining entries can only lose keys. -/
theorem get?_retain {map : OrderedMap κ β} {keep : β → Bool} {key : κ} {value : β}
    : (map.retain keep).get? key = some value
      ↔ map.get? key = some value ∧ keep value = true := by
  simp only [get?_eq_some, retain, mem_filter]

@[simp] theorem get?_empty (key : κ) : (OrderedMap.empty : OrderedMap κ β).get? key = none := rfl

end OrderedMap

end SwitchLanPlay.Foundation
