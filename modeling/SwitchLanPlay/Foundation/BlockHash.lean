import Mathlib.Data.List.Basic

/-! Hashing block by block. What matters of the data so far is the state behind its whole blocks
and the items behind them, in whatever pieces the data came.
-/

namespace SwitchLanPlay.Foundation

open List

variable {σ α : Type} (compress : σ → List α → σ) (size : Nat)

/-- The state behind the whole blocks of the data, and the rest of the data. -/
def absorb (state : σ) (data : List α) : σ × List α :=
  if 0 < size ∧ size ≤ data.length then
    absorb (compress state (data.take size)) (data.drop size)
  else (state, data)
termination_by data.length
decreasing_by
  rw [length_drop]
  omega

theorem absorb_append (state : σ) (data more : List α)
    : absorb compress size state (data ++ more)
      = absorb compress size (absorb compress size state data).1
          ((absorb compress size state data).2 ++ more) := by
  fun_induction absorb compress size state data with
  | case1 state data whole ih =>
    rw [absorb, if_pos ⟨whole.1, by rw [length_append]; omega⟩, take_append_of_le_length whole.2,
      drop_append_of_le_length whole.2]
    exact ih
  | case2 => rfl

theorem absorb_block {block : List α} (positive : 0 < size) (whole : block.length = size)
    (state : σ) (rest : List α)
    : absorb compress size state (block ++ rest)
      = absorb compress size (compress state block) rest := by
  rw [absorb, if_pos ⟨positive, by rw [length_append]; omega⟩, ← whole, take_left, drop_left]

theorem absorb_short {data : List α} (short : data.length < size) (state : σ)
    : absorb compress size state data = (state, data) := by
  rw [absorb, if_neg (by omega)]

theorem length_absorb (positive : 0 < size) (state : σ) (data : List α)
    : (absorb compress size state data).2.length = data.length % size := by
  fun_induction absorb compress size state data with
  | case1 state data whole ih => rw [ih, length_drop, ← Nat.mod_eq_sub_mod whole.2]
  | case2 state data short =>
    rw [Nat.mod_eq_of_lt]
    omega

end SwitchLanPlay.Foundation
