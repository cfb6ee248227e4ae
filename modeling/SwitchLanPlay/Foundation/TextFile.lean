import SwitchLanPlay.Foundation.Bytes

/-! Text files as C code reads them: successive calls of `fgets` cut a file into lines that fit a
buffer, and the lines written back give a file that is cut the same way. A stream that arrives in
parts is cut into lines by keeping what follows the last newline.
-/

namespace SwitchLanPlay.Foundation

open List

variable {lines : List Bytes} {text : Bytes}

/-- The octets of a C string, up to the NUL. -/
def cString (octets : Bytes) : Bytes := octets.takeWhile (· ≠ 0)

theorem cString_eq_self {octets : Bytes} (nulFree : 0 ∉ octets) : cString octets = octets := by
  refine takeWhile_eq_self_iff.mpr fun octet member => decide_eq_true ?_
  rintro rfl
  exact nulFree member

/-- What calls of `fgets` return that take at most `limit` octets each; the present call has read
`line`.
-/
def fgetsFrom (limit : Nat) (line : Bytes) : Bytes → List Bytes
  | [] => if line = [] then [] else [line]
  | octet :: rest =>
    if octet = 10 ∨ line.length + 1 = limit then
      (line ++ [octet]) :: fgetsFrom limit [] rest
    else fgetsFrom limit (line ++ [octet]) rest

/-- What the calls of `fgets` return for a file, until its end. -/
def fgetsAll (limit : Nat) (content : Bytes) : List Bytes := fgetsFrom limit [] content

/-- A line behind which a call of `fgets` ends, whatever follows: it ends with a newline, or it
fills the buffer.
-/
def FullLine (limit : Nat) (line : Bytes) : Prop :=
  ∃ body last,
    line = body ++ [last]
    ∧ 10 ∉ body
    ∧ body.length < limit
    ∧ (last = 10 ∨ body.length + 1 = limit)

/-- Lines that `fgets` returns: only the last may end without filling the buffer. -/
inductive Readable (limit : Nat) : List Bytes → Prop where
  | nil : Readable limit []
  | unended {line : Bytes} (some_ : line ≠ []) (noEnd : 10 ∉ line) (short : line.length < limit)
      : Readable limit [line]
  | cons {line : Bytes} {lines : List Bytes} (full : FullLine limit line)
      (rest : Readable limit lines)
      : Readable limit (line :: lines)

section Lines

variable {limit : Nat} {line : Bytes}

/-- Octets that do not end the call. -/
theorem fgetsFrom_append {front : Bytes} (noEnd : 10 ∉ front)
    (short : line.length + front.length < limit) (rest : Bytes)
    : fgetsFrom limit line (front ++ rest) = fgetsFrom limit (line ++ front) rest := by
  induction front generalizing line with
  | nil => rw [nil_append, append_nil]
  | cons octet front ih =>
    rw [length_cons] at short
    have going : ¬ (octet = 10 ∨ line.length + 1 = limit) := by
      rintro (rfl | fills)
      · exact noEnd mem_cons_self
      · omega
    rw [cons_append, fgetsFrom, if_neg going,
      ih (fun member => noEnd (mem_cons_of_mem _ member)), append_assoc,
      singleton_append]
    rw [length_append, length_singleton]
    omega

theorem FullLine.fgetsAll_append (full : FullLine limit line) (rest : Bytes)
    : fgetsAll limit (line ++ rest) = line :: fgetsAll limit rest := by
  obtain ⟨body, last, rfl, noEnd, short, ends⟩ := full
  rw [fgetsAll, append_assoc, fgetsFrom_append noEnd (by simpa using short),
    nil_append, singleton_append, fgetsFrom, if_pos ends]
  rfl

theorem fgetsAll_unended (some_ : line ≠ []) (noEnd : 10 ∉ line) (short : line.length < limit)
    : fgetsAll limit line = [line] := by
  have read := @fgetsFrom_append limit [] line noEnd (by simpa using short) []
  rw [append_nil, nil_append] at read
  rw [fgetsAll, read, fgetsFrom, if_neg some_]

theorem FullLine.of_length (noEnd : 10 ∉ line) (some_ : 0 < limit) (length : line.length = limit)
    : FullLine limit line := by
  rcases eq_nil_or_concat' line with rfl | ⟨body, last, rfl⟩
  · exact absurd length (Nat.ne_of_lt some_)
  · rw [length_append, length_singleton] at length
    refine ⟨body, last, rfl, fun member => noEnd (mem_append_left _ member), ?_, .inr length⟩
    omega

theorem not_fullLine (noEnd : 10 ∉ line) (short : line.length < limit) : ¬ FullLine limit line := by
  rintro ⟨body, last, rfl, -, -, rfl | fills⟩
  · exact noEnd (mem_append_right _ (mem_singleton_self _))
  · rw [length_append, length_singleton] at short
    omega

/-- A line that fits two buffers. -/
theorem fgetsAll_append_newline (noEnd : 10 ∉ line) (short : line.length < limit + limit)
    : fgetsAll limit (line ++ [10])
      = if line.length < limit then [line ++ [10]]
        else [line.take limit, line.drop limit ++ [10]] := by
  have ended : ∀ {text}, 10 ∉ text → text.length < limit
      → fgetsAll limit (text ++ [10]) = [text ++ [10]] := by
    intro text noEnd short
    have full : FullLine limit (text ++ [10]) := ⟨text, 10, rfl, noEnd, short, .inl rfl⟩
    have read := full.fgetsAll_append []
    rwa [append_nil] at read
  split
  · next fits => exact ended noEnd fits
  · next long =>
      have front : FullLine limit (line.take limit) := by
        refine .of_length (fun member => noEnd (mem_of_mem_take member)) (by omega) ?_
        rw [length_take]
        omega
      have rest : (line.drop limit).length < limit := by
        rw [length_drop]
        omega
      rw [← ended (fun member => noEnd (mem_of_mem_drop member)) rest,
        ← front.fgetsAll_append, ← append_assoc, take_append_drop]

/-- Full lines are read back as they were written. -/
theorem fgetsAll_flatten_append (full : ∀ line ∈ lines, FullLine limit line) (rest : Bytes)
    : fgetsAll limit (lines.flatten ++ rest) = lines ++ fgetsAll limit rest := by
  induction lines with
  | nil => rfl
  | cons line lines ih =>
    obtain ⟨first, later⟩ := forall_mem_cons.mp full
    rw [flatten_cons, append_assoc, first.fgetsAll_append, ih later, cons_append]

theorem fgetsAll_flatten (full : ∀ line ∈ lines, FullLine limit line)
    : fgetsAll limit lines.flatten = lines := by
  have read := fgetsAll_flatten_append full []
  have nothing : fgetsAll limit [] = [] := rfl
  rwa [nothing, append_nil, append_nil] at read

theorem Readable.fgetsAll_flatten (readable : Readable limit lines)
    : fgetsAll limit lines.flatten = lines := by
  induction readable with
  | nil => rfl
  | unended some_ noEnd short => rw [flatten_singleton, fgetsAll_unended some_ noEnd short]
  | cons full _ ih => rw [flatten_cons, full.fgetsAll_append, ih]

theorem readable_fgetsFrom (noEnd : 10 ∉ line) (short : line.length < limit) (content : Bytes)
    : Readable limit (fgetsFrom limit line content) := by
  induction content generalizing line with
  | nil =>
    rw [fgetsFrom]
    split
    · exact .nil
    · next some_ => exact .unended some_ noEnd short
  | cons octet rest ih =>
    rw [fgetsFrom]
    split
    · next ends =>
        exact .cons ⟨line, octet, rfl, noEnd, short, ends⟩
          (ih not_mem_nil (Nat.zero_lt_of_lt short))
    · next going =>
        rw [not_or] at going
        refine ih ?_ (by rw [length_append, length_singleton]; omega)
        rw [mem_append, mem_singleton]
        exact not_or.mpr ⟨noEnd, fun same => going.1 same.symm⟩

theorem readable_fgetsAll (some_ : 0 < limit) (content : Bytes)
    : Readable limit (fgetsAll limit content) := readable_fgetsFrom not_mem_nil some_ content

theorem flatten_fgetsFrom (limit : Nat) (line content : Bytes)
    : (fgetsFrom limit line content).flatten = line ++ content := by
  induction content generalizing line with
  | nil =>
    rw [fgetsFrom, append_nil]
    split
    · next none => rw [none, flatten_nil]
    · exact flatten_singleton
  | cons octet rest ih =>
    rw [fgetsFrom]
    split
    · rw [flatten_cons, ih, nil_append, append_assoc, singleton_append]
    · rw [ih, append_assoc, singleton_append]

/-- The lines together are the file. -/
theorem flatten_fgetsAll (limit : Nat) (content : Bytes)
    : (fgetsAll limit content).flatten = content := flatten_fgetsFrom limit [] content

theorem Readable.of_append {front back : List Bytes} (readable : Readable limit (front ++ back))
    : Readable limit front
      ∧ Readable limit back
      ∧ (back ≠ [] → ∀ line ∈ front, FullLine limit line) := by
  induction front with
  | nil => exact ⟨.nil, readable, fun _ => forall_mem_nil _⟩
  | cons line front ih =>
    rw [cons_append] at readable
    generalize split : front ++ back = lines at readable
    cases readable with
    | unended some_ noEnd short =>
      obtain ⟨rfl, rfl⟩ := append_eq_nil_iff.mp split
      exact ⟨.unended some_ noEnd short, .nil, fun more => absurd rfl more⟩
    | cons full rest =>
      obtain ⟨left, right, ended⟩ := ih (split ▸ rest)
      exact ⟨.cons full left, right,
        fun more => forall_mem_cons.mpr ⟨full, ended more⟩⟩

theorem Readable.take (readable : Readable limit lines) (count : Nat)
    : Readable limit (lines.take count) := (of_append (take_append_drop count lines ▸ readable)).1

/-- Lines that are replaced by full ones. -/
theorem Readable.map {edit : Bytes → Bytes} (readable : Readable limit lines)
    (edits : ∀ line, edit line = line ∨ FullLine limit (edit line))
    : Readable limit (lines.map edit) := by
  induction readable with
  | nil => exact .nil
  | @unended line some_ noEnd short =>
    rcases edits line with same | full
    · rw [map_singleton, same]
      exact .unended some_ noEnd short
    · exact .cons full .nil
  | @cons line lines full _ ih =>
    refine .cons ?_ ih
    rcases edits line with same | full
    · rwa [same]
    · exact full

theorem Readable.full_or_unended (readable : Readable limit lines)
    : (∀ line ∈ lines, FullLine limit line)
      ∨ ∃ front last,
          lines = front ++ [last]
          ∧ (∀ line ∈ front, FullLine limit line)
          ∧ last ≠ []
          ∧ 10 ∉ last
          ∧ last.length < limit := by
  induction readable with
  | nil => exact .inl (forall_mem_nil _)
  | @unended line some_ noEnd short =>
    exact .inr ⟨[], line, rfl, forall_mem_nil _, some_, noEnd, short⟩
  | @cons line lines full _ ih =>
    rcases ih with all | ⟨front, last, rfl, rest, unended⟩
    · exact .inl (forall_mem_cons.mpr ⟨full, all⟩)
    · exact .inr ⟨line :: front, last, rfl, forall_mem_cons.mpr ⟨full, rest⟩, unended⟩

/-- A newline stands at the end of a line only. -/
theorem Readable.noEnd_dropLast (readable : Readable limit lines) (member : line ∈ lines)
    : 10 ∉ line.dropLast := by
  induction readable with
  | nil => exact absurd member not_mem_nil
  | unended _ noEnd _ =>
    rw [mem_singleton] at member
    exact fun inside => noEnd (member ▸ mem_of_mem_dropLast inside)
  | cons full _ ih =>
    rcases mem_cons.mp member with rfl | later
    · obtain ⟨body, last, rfl, noEnd, -⟩ := full
      rwa [dropLast_concat]
    · exact ih later

end Lines

/-- The lines that end in a text, without their newlines, and what follows the last of them; the
line the text begins in has `line` in front.
-/
def splitLines (line : Bytes) : Bytes → List Bytes × Bytes
  | [] => ([], line)
  | octet :: rest =>
    if octet = 10 then (line :: (splitLines [] rest).1, (splitLines [] rest).2)
    else splitLines (line ++ [octet]) rest

/-- What is left of the front stands in front of the first line of the back. -/
theorem splitLines_append (line front back : Bytes)
    : splitLines line (front ++ back)
      = ((splitLines line front).1 ++ (splitLines (splitLines line front).2 back).1,
        (splitLines (splitLines line front).2 back).2) := by
  induction front generalizing line with
  | nil => rfl
  | cons octet front ih =>
    rw [cons_append, splitLines, splitLines]
    split
    · rw [ih, cons_append]
    · exact ih _

theorem splitLines_of_notMem (noEnd : 10 ∉ text) (line : Bytes)
    : splitLines line text = ([], line ++ text) := by
  induction text generalizing line with
  | nil => rw [splitLines, append_nil]
  | cons octet text ih =>
    have going : octet ≠ 10 := fun same => noEnd (same ▸ mem_cons_self)
    rw [splitLines, if_neg going, ih (fun member => noEnd (mem_cons_of_mem _ member)),
      append_assoc, singleton_append]

theorem splitLines_line (noEnd : 10 ∉ text) (rest : Bytes)
    : splitLines [] (text ++ 10 :: rest)
      = (text :: (splitLines [] rest).1, (splitLines [] rest).2) := by
  rw [splitLines_append, splitLines_of_notMem noEnd, nil_append, splitLines, if_pos rfl]
  rfl

theorem notMem_splitLines_snd {line : Bytes} (noEnd : 10 ∉ line) (text : Bytes)
    : 10 ∉ (splitLines line text).2 := by
  induction text generalizing line with
  | nil => exact noEnd
  | cons octet text ih =>
    rw [splitLines]
    split
    · exact ih not_mem_nil
    · next going =>
        refine ih ?_
        rw [mem_append, mem_singleton]
        exact not_or.mpr ⟨noEnd, fun same => going same.symm⟩

/-- A text in which no line ends is left as it is. -/
theorem splitLines_snd_of_fst {line : Bytes} (none : (splitLines line text).1 = [])
    : (splitLines line text).2 = line ++ text := by
  induction text generalizing line with
  | nil => rw [splitLines, append_nil]
  | cons octet text ih =>
    rw [splitLines] at none ⊢
    split at none
    · exact absurd none (cons_ne_nil _ _)
    · next going => rw [if_neg going, ih none, append_assoc, singleton_append]

/-- No line holds a newline. -/
theorem notMem_of_mem_splitLines {line : Bytes} (noEnd : 10 ∉ line) (text : Bytes)
    : ∀ found ∈ (splitLines line text).1, 10 ∉ found := by
  induction text generalizing line with
  | nil => exact fun _ member => absurd member not_mem_nil
  | cons octet text ih =>
    rw [splitLines]
    split
    · exact forall_mem_cons.mpr ⟨noEnd, ih not_mem_nil⟩
    · next going =>
        refine ih ?_
        rw [mem_append, mem_singleton]
        exact not_or.mpr ⟨noEnd, fun same => going same.symm⟩

/-- The lines with their newlines and what follows them are the text. -/
theorem flatMap_splitLines (line text : Bytes)
    : (splitLines line text).1.flatMap (· ++ [10]) ++ (splitLines line text).2 = line ++ text := by
  induction text generalizing line with
  | nil => simp [splitLines]
  | cons octet text ih =>
    rw [splitLines]
    split
    · next same => simp [ih, same]
    · simp [ih]

/-- An empty line ends where the text begins, or right behind another line. -/
theorem nil_mem_splitLines_iff
    : [] ∈ (splitLines [] text).1 ↔ [10] <+: text ∨ [10, 10] <:+: text := by
  constructor
  · intro member
    obtain ⟨front, back, split⟩ := append_of_mem member
    have whole := flatMap_splitLines [] text
    rw [split] at whole
    rcases eq_nil_or_concat' front with rfl | ⟨front, line, rfl⟩
    · exact Or.inl ⟨back.flatMap (· ++ [10]) ++ (splitLines [] text).2, by simpa using whole⟩
    · refine Or.inr ⟨front.flatMap (· ++ [10]) ++ line,
        back.flatMap (· ++ [10]) ++ (splitLines [] text).2, ?_⟩
      simpa using whole
  · rintro (⟨rest, rfl⟩ | ⟨front, rest, rfl⟩)
    · exact mem_cons_self
    · rw [append_assoc, splitLines_append]
      exact mem_append_right _ (mem_cons_of_mem _ mem_cons_self)

/-- Keeping what is left and putting the next part behind it finds the lines of the whole. -/
theorem splitLines_kept (front back : Bytes)
    : splitLines [] (front ++ back)
      = ((splitLines [] front).1 ++ (splitLines [] ((splitLines [] front).2 ++ back)).1,
        (splitLines [] ((splitLines [] front).2 ++ back)).2) := by
  have kept : splitLines [] ((splitLines [] front).2 ++ back)
      = splitLines (splitLines [] front).2 back := by
    rw [splitLines_append, splitLines_of_notMem (notMem_splitLines_snd not_mem_nil front)]
    rfl
  rw [kept, splitLines_append]

end SwitchLanPlay.Foundation
