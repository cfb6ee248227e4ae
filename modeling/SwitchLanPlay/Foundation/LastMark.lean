import Mathlib

/-! What a list of inputs said last: the most recent input that carries a mark, as long as no
later input ended it. What an input raised is outstanding until a later input settles it.
-/

namespace SwitchLanPlay.Foundation

open List

variable {ι α : Type*}

-- Outstanding

/-- Some input of the history raised it, seen from the inputs before, and no later one settled
it.
-/
def Outstanding (raises : List ι → ι → Prop) (settles : ι → Prop) (history : List ι) : Prop :=
  ∃ before input after,
    history = before ++ input :: after
    ∧ raises before input
    ∧ ∀ later ∈ after, ¬ settles later

theorem not_outstanding_nil (raises : List ι → ι → Prop) (settles : ι → Prop)
    : ¬ Outstanding raises settles [] := by
  rintro ⟨before, input, after, split, _⟩
  simp at split

theorem forall_mem_concat {holds : ι → Prop} {inputs : List ι} {input : ι}
    : (∀ each ∈ inputs ++ [input], holds each) ↔ (∀ each ∈ inputs, holds each) ∧ holds input := by
  rw [forall_mem_append, forall_mem_singleton]

/-- An input raises it, or leaves it outstanding unless it settles it. -/
theorem outstanding_concat_iff {raises : List ι → ι → Prop} {settles : ι → Prop}
    {history : List ι} {input : ι}
    : Outstanding raises settles (history ++ [input])
      ↔ raises history input ∨ (¬ settles input ∧ Outstanding raises settles history) := by
  constructor
  · rintro ⟨before, raised, after, split, raise, quiet⟩
    rcases eq_nil_or_concat after with rfl | ⟨rest, last, rfl⟩
    · obtain ⟨rfl, same⟩ := append_inj' split rfl
      cases same
      exact Or.inl raise
    · rw [concat_eq_append] at split quiet
      rw [← cons_append, ← append_assoc] at split
      obtain ⟨same, equal⟩ := append_inj' split rfl
      cases equal
      obtain ⟨earlier, kept⟩ := forall_mem_concat.mp quiet
      exact Or.inr ⟨kept, before, raised, rest, same, raise, earlier⟩
  · rintro (raise | ⟨kept, before, raised, after, rfl, raise, quiet⟩)
    · exact ⟨history, input, [], rfl, raise, fun _ member => absurd member not_mem_nil⟩
    · exact ⟨before, raised, after ++ [input], by simp, raise, forall_mem_concat.mpr ⟨quiet, kept⟩⟩

-- The last mark

/-- The last mark of the history is `value`, and no input behind it ended it. -/
def LastMark (mark : ι → Option α) (ends : α → ι → Prop) (history : List ι) (value : α) : Prop :=
  ∃ before input after,
    history = before ++ input :: after
    ∧ mark input = some value
    ∧ ∀ later ∈ after, mark later = none ∧ ¬ ends value later

/-- A mark is outstanding until another one is set or it is ended. -/
theorem lastMark_iff_outstanding (mark : ι → Option α) (ends : α → ι → Prop) (history : List ι)
    (value : α)
    : LastMark mark ends history value
      ↔ Outstanding (fun _ input => mark input = some value)
          (fun later => ¬ (mark later = none ∧ ¬ ends value later)) history := by
  simp only [LastMark, Outstanding, not_not]

theorem not_lastMark_nil (mark : ι → Option α) (ends : α → ι → Prop) (value : α)
    : ¬ LastMark mark ends [] value := by
  rw [lastMark_iff_outstanding]
  exact not_outstanding_nil _ _

/-- An input sets the mark, or it leaves the mark alone unless it ends it. -/
theorem lastMark_concat_iff {mark : ι → Option α} {ends : α → ι → Prop} {history : List ι}
    {input : ι} {value : α}
    : LastMark mark ends (history ++ [input]) value
      ↔ mark input = some value
        ∨ (mark input = none ∧ ¬ ends value input ∧ LastMark mark ends history value) := by
  rw [lastMark_iff_outstanding, lastMark_iff_outstanding, outstanding_concat_iff, not_not,
    and_assoc]

/-- A record that every input treats as the last mark is the last mark of the history. -/
theorem lastMark_iff_of_step {mark : ι → Option α} {ends : α → ι → Prop}
    (recorded : List ι → α → Prop) (initially : ∀ value, ¬ recorded [] value)
    (step
      : ∀ history input value,
          recorded (history ++ [input]) value
          ↔ mark input = some value
            ∨ (mark input = none ∧ ¬ ends value input ∧ recorded history value))
    (history : List ι) (value : α)
    : LastMark mark ends history value ↔ recorded history value := by
  induction history using reverseRecOn with
  | nil => exact iff_of_false (not_lastMark_nil mark ends value) (initially value)
  | append_singleton history input ih => rw [lastMark_concat_iff, step, ih]

end SwitchLanPlay.Foundation
