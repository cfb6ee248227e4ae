import SwitchLanPlay.Rpc.WebSocket

/-! Lines of a stream that comes in parts (`read-line.hpp`), whatever the parts are. -/

namespace SwitchLanPlay.Rpc

open List
open Foundation

/-- A line as the callback gets it; `line[len - 1]` lies outside of an empty line. -/
def rawLine (line : Bytes) : Option Bytes :=
  line.getLast?.map fun last => if last = 13 then line.dropLast else line

def readLineFeed (buffer data : Bytes) : Option (Bytes × List Bytes) :=
  let found := splitLines [] (buffer ++ data)
  (found.1.mapM rawLine).map (found.2, ·)

def readLine : Machine (Option Bytes) Bytes (List Bytes) := .failing readLineFeed []

/-- What follows the last newline of a stream, and the pieces each newline ends. -/
structure IsLines (stream : Bytes) (lines : List Bytes) (rest : Bytes) : Prop where
  whole : stream = lines.flatMap (· ++ [10]) ++ rest
  ended : ∀ line ∈ lines, 10 ∉ line
  unended : 10 ∉ rest

def withoutReturn (line : Bytes) : Bytes := if line.getLast? = some 13 then line.dropLast else line

theorem isLines_splitLines (stream : Bytes)
    : IsLines stream (splitLines [] stream).1 (splitLines [] stream).2 := by
  refine ⟨?_, ?_, notMem_splitLines_snd not_mem_nil stream⟩
  · simpa using (flatMap_splitLines [] stream).symm
  · exact notMem_of_mem_splitLines not_mem_nil stream

theorem rawLine_of_ne_nil {line : Bytes} (some_ : line ≠ [])
    : rawLine line = some (withoutReturn line) := by
  rcases eq_nil_or_concat' line with rfl | ⟨front, last, rfl⟩
  · exact absurd rfl some_
  · simp [rawLine, withoutReturn]

theorem mapM_rawLine (lines : List Bytes)
    : lines.mapM rawLine = if [] ∈ lines then none else some (lines.map withoutReturn) := by
  induction lines with
  | nil => rfl
  | cons line lines ih =>
    rw [mapM_cons, ih]
    by_cases empty : line = []
    · rw [empty, if_pos mem_cons_self]
      rfl
    · have later : [] ∈ line :: lines ↔ [] ∈ lines := by simp [Ne.symm empty]
      rw [rawLine_of_ne_nil empty, map_cons]
      by_cases member : [] ∈ lines
      · rw [if_pos member, if_pos (later.mpr member)]
        rfl
      · rw [if_neg member, if_neg (mt later.mp member)]
        rfl

theorem readLine_step (buffer data : Bytes)
    : readLine.step (some buffer) data
      = if [] ∈ (splitLines [] (buffer ++ data)).1 then (none, [])
        else
          (some (splitLines [] (buffer ++ data)).2,
            (splitLines [] (buffer ++ data)).1.map withoutReturn) := by
  simp only [readLine, Machine.failing, Option.bind_some, readLineFeed, mapM_rawLine]
  by_cases empty : [] ∈ (splitLines [] (buffer ++ data)).1
  · rw [if_pos empty, if_pos empty]
    rfl
  · rw [if_neg empty, if_neg empty]
    rfl

/-- The run over the parts of a stream. Witness: along the parts, since what is left of one stands
in front of the next.
-/
theorem readLine_run {buffer : Bytes} (noEnd : 10 ∉ buffer) (chunks : List Bytes)
    : readLine.run (some buffer) chunks
        = (if [] ∈ (splitLines [] (buffer ++ chunks.flatten)).1 then none
          else some (splitLines [] (buffer ++ chunks.flatten)).2)
      ∧ ([] ∉ (splitLines [] (buffer ++ chunks.flatten)).1
        → (readLine.outputs (some buffer) chunks).flatten
          = (splitLines [] (buffer ++ chunks.flatten)).1.map withoutReturn) := by
  induction chunks generalizing buffer with
  | nil =>
    rw [flatten_nil, append_nil, splitLines_of_notMem noEnd]
    exact ⟨rfl, fun _ => rfl⟩
  | cons chunk chunks ih =>
    rw [flatten_cons, ← append_assoc, splitLines_kept, Machine.run_cons,
      Machine.outputs, readLine_step]
    dsimp only
    by_cases empty : [] ∈ (splitLines [] (buffer ++ chunk)).1
    · rw [if_pos empty, if_pos (mem_append_left _ empty)]
      refine ⟨Machine.failing_run_none chunks, fun none => ?_⟩
      exact absurd (mem_append_left _ empty) none
    · obtain ⟨run, outputs⟩ := ih (notMem_splitLines_snd not_mem_nil (buffer ++ chunk))
      rw [if_neg empty, map_append, flatten_cons]
      simp only [mem_append, empty, false_or]
      exact ⟨run, fun none => congrArg _ (outputs none)⟩

/-- The callback gets the lines of the stream, whatever its parts are, if and only if none of them
is empty.
-/
theorem readLine_exact_iff (chunks : List Bytes)
    : (∃ lines rest,
        IsLines chunks.flatten lines rest
        ∧ readLine.run (some []) chunks = some rest
        ∧ (readLine.outputs (some []) chunks).flatten = lines.map withoutReturn)
      ↔ ¬ ([10] <+: chunks.flatten ∨ [10, 10] <:+: chunks.flatten) := by
  obtain ⟨run, outputs⟩ := readLine_run List.not_mem_nil chunks
  rw [List.nil_append] at run outputs
  rw [← nil_mem_splitLines_iff]
  constructor
  · rintro ⟨lines, rest, -, reached, -⟩ empty
    rw [run, if_pos empty] at reached
    cases reached
  · intro none
    refine ⟨_, _, isLines_splitLines _, ?_, outputs none⟩
    rw [run, if_neg none]

/-- The request line GET, a line end cut in two, and an empty line. -/
theorem empty_line_inspected
    : readLine.run (some []) [[71], [13, 10, 10]] = none := by
  decide

end SwitchLanPlay.Rpc
