import SwitchLanPlay.Rpc.Decoding

/-! `BufferList` as a queue of octets. Its counters have 32 bits, so the calls are considered as
long as these have room for the chunks of the list.
-/

namespace SwitchLanPlay.Rpc

open Foundation

variable {bl next : BufferList} {list : List Bytes} {k n offset start : Nat}

inductive BufferCall where
  | add (buf : Bytes)
  | advance (n : Nat)
  | copyTo (start n : Nat)
  | get (k : Nat)
deriving DecidableEq, Repr

def BufferList.call (bl : BufferList) : BufferCall → Option (BufferList × Bytes × Nat)
  | .add buf => some (bl.add buf, [], (bl.add buf).size)
  | .advance n => (bl.advance n).map fun next => (next, [], next.size)
  | .copyTo start n => (bl.copyTo start n).map fun octets => (bl, octets, bl.size)
  | .get k => (bl.get k).map fun octet => (bl, [octet], bl.size)

def bufferMachine : Machine (Option BufferList) BufferCall (Bytes × Nat) :=
  .failing BufferList.call ([], 0)

/-- What a call does to a queue of octets, and what is to be seen of it. -/
def byteQueue : Machine Bytes BufferCall (Bytes × Nat) where
  step
    | queue, .add buf => (queue ++ buf, [], (queue ++ buf).length)
    | queue, .advance n => (queue.drop n, [], (queue.drop n).length)
    | queue, .copyTo start n => (queue, (queue.drop start).take n, queue.length)
    | queue, .get k => (queue, (queue.drop k).take 1, queue.length)

def EachCall (meets : BufferList → BufferCall → Prop) (bl : BufferList) : List BufferCall → Prop
  | [] => True
  | call :: calls => meets bl call ∧ ∀ next ∈ bl.call call, EachCall meets next.1 calls

/-- A call within the octets of the queue; 32 bits have room for the chunks of the list. -/
def BufferCall.Within (bl : BufferList) : BufferCall → Prop
  | .add buf => buf ≠ [] ∧ bl.list.flatten.length + buf.length < 4294967296
  | .advance n => n ≤ bl.size
  | .copyTo start n => start + n ≤ bl.size
  | .get k => k < bl.size

/-- The octet is the first one of a chunk behind another one. -/
def StartsLater (chunks : List Bytes) (k : Nat) : Prop :=
  ∃ front chunk back, chunks = front ++ chunk :: back ∧ front ≠ [] ∧ front.flatten.length = k

/-- A call that keeps to the chunks: `advance` leaves an octet, and no octet is read that is the
first one of a chunk behind another one.
-/
def BufferCall.KeepsInside (bl : BufferList) : BufferCall → Prop
  | .add _ => True
  | .advance n => n < bl.size
  | .copyTo start n => ∀ i < n, ¬ StartsLater bl.list (start + i + bl.offset)
  | .get k => ¬ StartsLater bl.list (k + bl.offset)

namespace BufferList

def queue (bl : BufferList) : Bytes := bl.list.flatten.drop bl.offset

def Inside (bl : BufferList) : Prop := bl.offset ≤ bl.list.flatten.length

theorem size_eq (bl : BufferList) : bl.size = bl.list.flatten.length - bl.offset := by
  rw [size, List.length_flatten]

theorem length_queue (bl : BufferList) : bl.queue.length = bl.size := by
  rw [queue, List.length_drop, size_eq]

end BufferList

theorem startsLater_cons_iff {chunk : Bytes} {rest : List Bytes} {k : Nat}
    : StartsLater (chunk :: rest) k
      ↔ rest ≠ [] ∧ k = chunk.length
        ∨ chunk.length ≤ k ∧ StartsLater rest (k - chunk.length) := by
  constructor
  · rintro ⟨front, next, back, split, some_, rfl⟩
    obtain ⟨first, front, rfl⟩ := List.exists_cons_of_ne_nil some_
    obtain ⟨rfl, rfl⟩ := List.cons.inj split
    rw [List.flatten_cons, List.length_append, Nat.add_sub_cancel_left]
    rcases front with - | ⟨second, front⟩
    · exact Or.inl ⟨by simp, by simp⟩
    · exact Or.inr ⟨Nat.le_add_right _ _, _, next, back, rfl, by simp, rfl⟩
  · rintro (⟨some_, rfl⟩ | ⟨passed, front, next, back, rfl, -, length⟩)
    · obtain ⟨next, back, rfl⟩ := List.exists_cons_of_ne_nil some_
      exact ⟨[chunk], next, back, rfl, by simp, by simp⟩
    · refine ⟨chunk :: front, next, back, rfl, by simp, ?_⟩
      rw [List.flatten_cons, List.length_append, length]
      omega

/-- `get` finds an octet unless it is the first of a chunk behind another one: it looks for that
one at the end of the chunk in front.
-/
theorem getFrom_spec {chunks : List Bytes} {k : Nat} (below : k < chunks.flatten.length)
    : (StartsLater chunks k → getFrom chunks k = none)
      ∧ (¬ StartsLater chunks k → getFrom chunks k = chunks.flatten[k]?) := by
  induction chunks generalizing k with
  | nil => exact absurd below (Nat.not_lt_zero k)
  | cons chunk rest ih =>
    rw [List.flatten_cons, List.length_append] at below
    rw [startsLater_cons_iff, getFrom, List.flatten_cons]
    rcases Nat.lt_trichotomy k chunk.length with here | here | later
    · rw [if_pos here.le, List.getElem?_append_left here]
      exact ⟨fun starts => by omega, fun _ => rfl⟩
    · have some_ : rest ≠ [] := by
        rintro rfl
        simp [here] at below
      rw [if_pos here.le]
      exact ⟨fun _ => by simp [here], fun inside => absurd (Or.inl ⟨some_, here⟩) inside⟩
    · rw [if_neg (by omega), List.getElem?_append_right later.le]
      obtain ⟨starts, inside⟩ := @ih (k - chunk.length) (by omega)
      refine ⟨fun found => starts ?_, fun found => inside fun starts => found ?_⟩
      · exact found.resolve_left (by omega) |>.2
      · exact Or.inr ⟨later.le, starts⟩

theorem advanceFrom_of_lt (less : offset < list.flatten.length)
    : ∃ next,
        advanceFrom list offset = some next
        ∧ next.queue = list.flatten.drop offset
        ∧ next.Inside := by
  induction list generalizing offset with
  | nil => exact absurd less (Nat.not_lt_zero offset)
  | cons item rest ih =>
    rw [List.flatten_cons, List.length_append] at less
    rw [advanceFrom]
    split
    · next passed =>
        rw [List.flatten_cons, List.drop_append, List.drop_of_length_le passed, List.nil_append]
        exact ih (by omega)
    · next here => exact ⟨_, rfl, rfl, by simp [BufferList.Inside]; omega⟩

-- Runs

namespace BufferList

theorem get_spec (below : k < bl.size)
    : (StartsLater bl.list (k + bl.offset) → bl.get k = none)
      ∧ (¬ StartsLater bl.list (k + bl.offset) → bl.get k = bl.queue[k]?) := by
  rw [size_eq] at below
  rw [queue, List.getElem?_drop, Nat.add_comm bl.offset]
  exact getFrom_spec (by omega)

theorem copyTo_spec (below : start + n ≤ bl.size)
    : ((∀ i < n, ¬ StartsLater bl.list (start + i + bl.offset))
        → bl.copyTo start n = some ((bl.queue.drop start).take n))
      ∧ (bl.copyTo start n ≠ none → ∀ i < n, ¬ StartsLater bl.list (start + i + bl.offset)) := by
  induction n generalizing start with
  | zero => exact ⟨fun _ => rfl, fun _ i inside => absurd inside (Nat.not_lt_zero i)⟩
  | succ n ih =>
    obtain ⟨read, inside⟩ := @ih (start + 1) (by omega)
    obtain ⟨outside, found⟩ := get_spec (show start < bl.size by omega)
    rw [copyTo]
    constructor
    · intro all
      have first : start < bl.queue.length := by
        rw [length_queue]
        omega
      have octet := found (all 0 (Nat.zero_lt_succ n))
      rw [List.getElem?_eq_getElem first] at octet
      have later := read fun i below => Nat.add_right_comm start 1 i ▸ all (i + 1) (by omega)
      rw [octet, later, List.drop_eq_getElem_cons first, List.take_succ_cons]
      rfl
    · intro some_ i below
      cases i with
      | zero =>
        intro starts
        exact some_ (by rw [outside starts]; rfl)
      | succ i =>
        rw [← Nat.add_assoc, Nat.add_right_comm start]
        refine inside (fun none => some_ ?_) i (by omega)
        rw [none]
        cases bl.get start <;> rfl

/-- One call: it fails unless it keeps to the chunks, and then does what it does to the queue. -/
theorem call_spec (inside : bl.Inside) {call : BufferCall} (within : call.Within bl)
    : (call.KeepsInside bl
        → ∃ next,
            bl.call call = some (next, (byteQueue.step bl.queue call).2)
            ∧ next.Inside
            ∧ (byteQueue.step bl.queue call).1 = next.queue)
      ∧ (bl.call call ≠ none → call.KeepsInside bl) := by
  cases call with
  | add buf =>
    have octets : (bl.add buf).queue = bl.queue ++ buf := by
      rw [queue, queue, add, List.flatten_append, List.flatten_singleton,
        List.drop_append_of_le_length inside]
    refine ⟨fun _ => ⟨bl.add buf, ?_, ?_, octets.symm⟩, fun _ => trivial⟩
    · rw [call, ← length_queue, octets]
      rfl
    · simpa [Inside, add] using Nat.le_add_right_of_le inside
  | advance n =>
    constructor
    · intro less
      rw [BufferCall.KeepsInside, size_eq] at less
      obtain ⟨next, found, octets, inside⟩ := advanceFrom_of_lt
        (show bl.offset + n < bl.list.flatten.length by omega)
      have dropped : next.queue = bl.queue.drop n := by rw [octets, queue, List.drop_drop]
      refine ⟨next, ?_, inside, dropped.symm⟩
      rw [call, advance, found, Option.map_some, ← length_queue, dropped]
      rfl
    · intro some_
      cases found : bl.advance n with
      | none => exact absurd (by rw [call, found]; rfl) some_
      | some next =>
        have := advance_spec found
        rw [BufferCall.KeepsInside]
        omega
  | copyTo start n =>
    obtain ⟨copies, keeps⟩ := copyTo_spec within
    constructor
    · intro keeps
      refine ⟨bl, ?_, inside, rfl⟩
      rw [call, copies keeps, Option.map_some, ← length_queue]
      rfl
    · exact fun some_ => keeps fun none => some_ (by rw [call, none]; rfl)
  | get k =>
    obtain ⟨outside, found⟩ := get_spec within
    constructor
    · intro keeps
      have below : k < bl.queue.length := bl.length_queue ▸ within
      refine ⟨bl, ?_, inside, rfl⟩
      rw [call, found keeps, List.getElem?_eq_getElem below, Option.map_some, ← length_queue]
      simp only [byteQueue]
      rw [List.drop_eq_getElem_cons below]
      rfl
    · exact fun some_ starts => some_ (by rw [call, outside starts]; rfl)

/-- By induction on the calls, whose steps are `call_spec`. -/
theorem run_iff (inside : bl.Inside) {calls : List BufferCall}
    (within : EachCall BufferCall.Within bl calls)
    : ((bufferMachine.run (some bl) calls).isSome
        ∧ bufferMachine.outputs (some bl) calls = byteQueue.outputs bl.queue calls)
      ↔ EachCall BufferCall.KeepsInside bl calls := by
  induction calls generalizing bl with
  | nil => exact iff_of_true ⟨rfl, rfl⟩ trivial
  | cons call calls ih =>
    obtain ⟨does, keepsInside⟩ := call_spec inside within.1
    rw [EachCall]
    by_cases keeps : call.KeepsInside bl
    · obtain ⟨next, called, left, octets⟩ := does keeps
      have step : bufferMachine.step (some bl) call
          = (some next, (byteQueue.step bl.queue call).2) := by
        simp [bufferMachine, Machine.failing, called]
      rw [Machine.run_cons, Machine.outputs, Machine.outputs, step, octets, List.cons.injEq, called]
      simp [keeps, ← ih left (within.2 _ called)]
    · have failed : bl.call call = none := by
        by_contra some_
        exact keeps (keepsInside some_)
      have step : (bufferMachine.step (some bl) call).1 = none := by
        simp [bufferMachine, Machine.failing, failed]
      rw [Machine.run_cons, step, bufferMachine, Machine.failing_run_none]
      simp [keeps]

end BufferList

/-- The octets and sizes seen are those of the queue, without an access outside of a chunk or of
the list, if and only if every call keeps to the chunks.
-/
theorem bufferList_exact_iff {calls : List BufferCall}
    (within : EachCall BufferCall.Within .init calls)
    : ((bufferMachine.run (some .init) calls).isSome
        ∧ bufferMachine.outputs (some .init) calls = byteQueue.outputs [] calls)
      ↔ EachCall BufferCall.KeepsInside .init calls :=
  @BufferList.run_iff .init (Nat.le_refl 0) calls within

theorem bufferList_exact_iff_twoChunks
    : EachCall BufferCall.Within .init [.add [1, 2], .add [3], .get 1, .copyTo 0 2]
      ∧ ((bufferMachine.run (some .init) [.add [1, 2], .add [3], .get 1, .copyTo 0 2]).isSome
          ∧ bufferMachine.outputs (some .init) [.add [1, 2], .add [3], .get 1, .copyTo 0 2]
            = byteQueue.outputs [] [.add [1, 2], .add [3], .get 1, .copyTo 0 2]
        ↔ EachCall BufferCall.KeepsInside .init
          [.add [1, 2], .add [3], .get 1, .copyTo 0 2]) := by
  have within
      : EachCall BufferCall.Within .init [.add [1, 2], .add [3], .get 1, .copyTo 0 2] := by
    simp [EachCall, BufferCall.Within, BufferList.call, BufferList.init, BufferList.add,
      BufferList.size]
  exact ⟨within, bufferList_exact_iff within⟩

/-- The first octet of the second chunk, the last octet of the queue, and an empty queue. -/
theorem chunk_ends_missed
    : bufferMachine.run (some .init) [.add [1, 2], .add [3], .get 2] = none
      ∧ bufferMachine.run (some .init) [.add [1, 2], .advance 2] = none
      ∧ bufferMachine.run (some .init) [.advance 0] = none := by
  decide

end SwitchLanPlay.Rpc
