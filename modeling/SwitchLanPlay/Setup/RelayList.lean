import SwitchLanPlay.Sysmodule.Config

/-! The list of relays of the setup app. `relaylist_add` moves the rows of two arrays, and
`relaylist_load` reads back what `relaylist_save` has written. A label of 47 characters in the
first row is not terminated and runs on into the next one.
-/

namespace SwitchLanPlay.Setup

open List Option
open Foundation
open Server (utf8)
open Sysmodule

def maxRelays : Nat := 32

/-- A row of `entries` and `labels`. Of the 48 octets of a label these are the ones in front of the
NUL, as far as it is among the first 47, and the last one; the others are never read.
-/
structure RelayRow where
  entry : Bytes
  label : Bytes
  last : UInt8
deriving DecidableEq, Repr, Inhabited

structure RelayList where
  rows : List RelayRow
  count : Nat
deriving DecidableEq, Repr

def RelayRow.Ends (row : RelayRow) : Prop := row.label.length < 47 ∨ row.last = 0

instance (row : RelayRow) : Decidable row.Ends := inferInstanceAs (Decidable (_ ∨ _))

/-- The label of the first row; without a NUL it goes on with the next one. -/
def labelText : List RelayRow → Bytes
  | [] => []
  | row :: rows => if row.Ends then row.label else row.label ++ row.last :: labelText rows

def relayTexts : List RelayRow → List (Bytes × Bytes)
  | [] => []
  | row :: rows => (row.entry, labelText (row :: rows)) :: relayTexts rows

def RelayList.relays (list : RelayList) : List (Bytes × Bytes) :=
  (relayTexts list.rows).take list.count

def isLineEnd (octet : UInt8) : Bool := octet = 10 || octet = 13

def splitRelay (text : Bytes) : Bytes × Option Bytes :=
  if charHash ∈ text then
    ((text.takeWhile (· ≠ charHash)).rdropWhile isBlank,
      some (((text.dropWhile (· ≠ charHash)).drop 1).dropWhile isBlank))
  else (text, none)

/-- A label that is loaded; its NUL is written only if there is one. -/
def RelayRow.setLabel (row : RelayRow) : Option Bytes → RelayRow
  | none => { row with label := [] }
  | some label => { row with label := label.take 47, last := 0 }

def RelayList.loadLine (list : RelayList) (line : Bytes) : RelayList :=
  let text := (cString line).rdropWhile isLineEnd
  if maxRelays ≤ list.count ∨ text = [] then list
  else
    let row := (list.rows.getD list.count default).setLabel (splitRelay text).2
    let entry := (splitRelay text).1
    if entry = [] then { list with rows := list.rows.set list.count row }
    else ⟨list.rows.set list.count { row with entry := entry.take 63 }, list.count + 1⟩

def RelayList.seed (list : RelayList) (seed : Bytes × Bytes) : RelayList :=
  let row := list.rows.getD list.count default
  ⟨list.rows.set list.count ⟨seed.1.take 63, seed.2.take 47, row.last⟩, list.count + 1⟩

def RelayList.load (held : RelayList) (seeds : List (Bytes × Bytes)) (file : Option Bytes)
    : RelayList :=
  let list := (file.elim [] (fgetsAll 127)).foldl loadLine { held with count := 0 }
  if list.count = 0 then (seeds.take maxRelays).foldl RelayList.seed list else list

def listedText (relay : Bytes × Bytes) : Bytes :=
  if relay.2 = [] then relay.1 else relay.1 ++ (utf8 "  # " ++ relay.2)

def RelayList.save (list : RelayList) : Bytes :=
  (list.relays.map fun relay => listedText relay ++ [10]).flatten

/-- `relaylist_add`; the rows in front of the one that is given up move by one. -/
def RelayList.add (list : RelayList) (ipPort : Bytes) : RelayList :=
  let last := (list.rows.headD default).last
  match (list.relays.map Prod.fst).idxOf? ipPort with
  | some i =>
    let saved := (list.relays.getD i default).2.take 47
    ⟨⟨ipPort.take 63, saved, last⟩ :: list.rows.eraseIdx i, list.count⟩
  | none =>
    let keep := if list.count < maxRelays then list.count else maxRelays - 1
    ⟨⟨ipPort.take 63, [], last⟩ :: list.rows.eraseIdx keep, keep + 1⟩

-- What the list is to be

/-- An entry comes first, with the label it had; the others follow in their order, and of a list
that is full and does not have the entry the last one is dropped.
-/
def promoted (ipPort : Bytes) (relays : List (Bytes × Bytes)) : List (Bytes × Bytes) :=
  (ipPort, (relays.lookup ipPort).getD [])
    :: (relays.filter (·.1 ≠ ipPort)).take (maxRelays - 1)

structure IsEntry (text : Bytes) : Prop where
  some_ : text ≠ []
  length : text.length ≤ 62
  nulFree : 0 ∉ text
  noHash : charHash ∉ text
  noNewline : 10 ∉ text
  noReturn : 13 ∉ text
  last : ∀ octet ∈ text.getLast?, isBlank octet = false

structure IsLabel (text : Bytes) : Prop where
  length : text.length ≤ 47
  nulFree : 0 ∉ text
  noNewline : 10 ∉ text
  noReturn : 13 ∉ text
  first : ∀ octet ∈ text.head?, isBlank octet = false

structure RelayList.Valid (list : RelayList) : Prop where
  rows : list.rows.length = maxRelays
  count : list.count ≤ maxRelays
  relays : ∀ row ∈ list.rows.take list.count, IsEntry row.entry ∧ IsLabel row.label ∧ row.Ends
  distinct : (list.relays.map Prod.fst).Nodup

/-- A label of 47 characters comes to the first row, whose last octet is not the NUL. -/
def RelayList.RunsOn (list : RelayList) (ipPort : Bytes) : Prop :=
  ∃ label,
    (ipPort, label) ∈ list.relays
    ∧ label.length = 47
    ∧ (list.rows.headD default).last ≠ 0

/-- Rows that end are read one by one. -/
theorem take_relayTexts {rows : List RelayRow} {count : Nat}
    (ends : ∀ row ∈ rows.take count, row.Ends)
    : (relayTexts rows).take count = (rows.take count).map fun row => (row.entry, row.label) := by
  induction rows generalizing count with
  | nil => rw [take_nil, relayTexts, take_nil, map_nil]
  | cons row rows ih =>
    cases count with
    | zero => rfl
    | succ count =>
      rw [take_succ_cons, forall_mem_cons] at ends
      rw [relayTexts, take_succ_cons, take_succ_cons, map_cons, ih ends.2,
        labelText, if_pos ends.1]

-- The list that is added to

variable {list : RelayList} {relays : List (Bytes × Bytes)} {ipPort label : Bytes} {i : Nat}

structure RelayList.Reads (list : RelayList) (relays : List (Bytes × Bytes)) : Prop where
  ends : ∀ row ∈ list.rows.take list.count, row.Ends
  texts : (list.rows.take list.count).map (fun row => (row.entry, row.label)) = relays

theorem RelayList.Reads.relays_eq (reads : list.Reads relays) : list.relays = relays :=
  (take_relayTexts reads.ends).trans reads.texts

theorem take_eraseIdx {α : Type*} (rows : List α) {k count : Nat} (inside : k ≤ count)
    : (rows.eraseIdx k).take (if k < count then count - 1 else count)
      = (rows.take count).eraseIdx k := by
  refine ext_getElem? fun j => ?_
  simp only [getElem?_take, getElem?_eraseIdx]
  grind

/-- The first row is written, and the rows in front of one move by one. -/
theorem RelayList.Reads.move (reads : list.Reads relays) {row : RelayRow} (ends : row.Ends)
    {k kept : Nat} (inside : k ≤ list.count)
    (counted : kept = if k < list.count then list.count - 1 else list.count)
    : RelayList.Reads ⟨row :: list.rows.eraseIdx k, kept + 1⟩
        ((row.entry, row.label) :: relays.eraseIdx k) := by
  have rows : (row :: list.rows.eraseIdx k).take (kept + 1)
      = row :: (list.rows.take list.count).eraseIdx k := by
    rw [take_succ_cons, counted, take_eraseIdx _ inside]
  constructor
  · rw [rows]
    exact forall_mem_cons.mpr
      ⟨ends, fun row member => reads.ends row (mem_of_mem_eraseIdx member)⟩
  · rw [rows, map_cons, ← eraseIdx_map, reads.texts]

/-- Taking an entry out of a list without duplicates. -/
theorem lookup_filter_of_getElem? (distinct : (relays.map Prod.fst).Nodup)
    (found : relays[i]? = some (ipPort, label))
    : relays.lookup ipPort = some label ∧ relays.filter (·.1 ≠ ipPort) = relays.eraseIdx i := by
  induction relays generalizing i with
  | nil => cases found
  | cons relay relays ih =>
    rw [map_cons, nodup_cons] at distinct
    cases i with
    | zero =>
      cases found
      refine ⟨by simp, ?_⟩
      rw [filter_cons_of_neg (by simp), eraseIdx_cons_zero, filter_eq_self]
      refine fun other member => decide_eq_true fun same => distinct.1 ?_
      exact mem_map.mpr ⟨other, member, same⟩
    | succ i =>
      rw [getElem?_cons_succ] at found
      have apart : relay.1 ≠ ipPort := by
        rintro rfl
        exact distinct.1 (mem_map.mpr ⟨_, mem_of_getElem? found, rfl⟩)
      obtain ⟨looked, rest⟩ := ih distinct.2 found
      constructor
      · rw [lookup_cons, beq_false_of_ne (Ne.symm apart)]
        exact looked
      · rw [filter_cons_of_pos (by simpa using apart), rest, eraseIdx_cons_succ]

theorem promoted_of_getElem? (distinct : (relays.map Prod.fst).Nodup)
    (room : relays.length ≤ maxRelays) (found : relays[i]? = some (ipPort, label))
    : promoted ipPort relays = (ipPort, label) :: relays.eraseIdx i := by
  obtain ⟨looked, rest⟩ := lookup_filter_of_getElem? distinct found
  obtain ⟨inside, -⟩ := List.getElem?_eq_some_iff.mp found
  rw [promoted, looked, rest, take_of_length_le, getD_some]
  rw [length_eraseIdx_of_lt inside]
  exact Nat.sub_le_sub_right room 1

theorem promoted_of_notMem (room : relays.length ≤ maxRelays) (new : ipPort ∉ relays.map Prod.fst)
    : promoted ipPort relays
      = (ipPort, [])
        :: relays.eraseIdx
          (if relays.length < maxRelays then relays.length else maxRelays - 1) := by
  have others : ∀ relay ∈ relays, relay.1 ≠ ipPort :=
    fun relay member same => new (mem_map.mpr ⟨relay, member, same⟩)
  have missing : relays.lookup ipPort = none :=
    lookup_eq_none_iff.mpr fun relay member => by simpa using (others relay member).symm
  rw [promoted, missing, getD_none, filter_eq_self.mpr (by simpa using others)]
  refine congrArg _ ?_
  split
  · next partly =>
      rw [eraseIdx_of_length_le (Nat.le_refl _), take_of_length_le]
      exact Nat.le_sub_one_of_lt partly
  · next full =>
      rw [eraseIdx_eq_take_drop_succ, drop_eq_nil_of_le (by simpa [maxRelays] using room),
        append_nil]

section Valid

variable (valid : list.Valid)
include valid

namespace RelayList

theorem Valid.reads : list.Reads list.relays :=
  have ends : ∀ row ∈ list.rows.take list.count, row.Ends :=
    fun row member => (valid.relays row member).2.2
  ⟨ends, (take_relayTexts ends).symm⟩

theorem Valid.length_relays : list.relays.length = list.count := by
  rw [← valid.reads.texts, length_map, length_take, valid.rows]
  exact Nat.min_eq_left valid.count

theorem Valid.isRelay {relay : Bytes × Bytes} (member : relay ∈ list.relays)
    : IsEntry relay.1 ∧ IsLabel relay.2 := by
  rw [← valid.reads.texts] at member
  obtain ⟨row, used, rfl⟩ := mem_map.mp member
  obtain ⟨entry, label, -⟩ := valid.relays row used
  exact ⟨entry, label⟩

theorem Valid.add_eq (listed : list.relays[i]? = some (ipPort, label))
    : list.add ipPort
      = ⟨⟨ipPort, label, (list.rows.headD default).last⟩ :: list.rows.eraseIdx i, list.count⟩ := by
  obtain ⟨inside, found⟩ := List.getElem?_eq_some_iff.mp listed
  obtain ⟨isEntry, isLabel⟩ := valid.isRelay (mem_of_getElem? listed)
  have at_ : (list.relays.map Prod.fst).idxOf? ipPort = some i := by
    have bound : i < (list.relays.map Prod.fst).length := by simpa using inside
    have here : (list.relays.map Prod.fst)[i] = ipPort := by simp [found]
    refine idxOf?_eq_some_iff.mpr ⟨bound, here, fun j before same => ?_⟩
    exact before.ne (valid.distinct.getElem_inj_iff.mp (same.trans here.symm))
  have entry := take_of_length_le (Nat.le_succ_of_le isEntry.length)
  have saved := take_of_length_le isLabel.length
  simp only [RelayList.add, at_, List.getD, listed, getD_some, entry, saved]

/-- What `relaylist_add` leaves, unless a label runs on. -/
theorem Valid.add_reads (isEntry : IsEntry ipPort) (fits : ¬ list.RunsOn ipPort)
    : ∃ label k,
        IsLabel label
        ∧ (list.add ipPort).Reads ((ipPort, label) :: list.relays.eraseIdx k)
        ∧ promoted ipPort list.relays = (ipPort, label) :: list.relays.eraseIdx k := by
  have counted := valid.length_relays
  have room := valid.count
  by_cases known : ipPort ∈ list.relays.map Prod.fst
  · obtain ⟨⟨name, label⟩, member, rfl⟩ := mem_map.mp known
    obtain ⟨i, listed⟩ := mem_iff_getElem?.mp member
    obtain ⟨inside, -⟩ := List.getElem?_eq_some_iff.mp listed
    have isLabel := (valid.isRelay member).2
    have ends : RelayRow.Ends ⟨name, label, (list.rows.headD default).last⟩ := by
      refine (Nat.lt_or_eq_of_le isLabel.length).imp_right fun full => ?_
      by_contra other
      exact fits ⟨label, member, full, other⟩
    refine ⟨label, i, isLabel, ?_, promoted_of_getElem? valid.distinct (counted ▸ room) listed⟩
    have moved := @RelayList.Reads.move _ _ valid.reads _ ends i (list.count - 1) (by omega)
      (by rw [if_pos (by omega)])
    rwa [show list.count - 1 + 1 = list.count by omega, ← valid.add_eq listed] at moved
  · refine ⟨[], _, ⟨by decide, by decide, by decide, by decide, nofun⟩, ?_,
      promoted_of_notMem (counted ▸ room) known⟩
    have entry := take_of_length_le (Nat.le_succ_of_le isEntry.length)
    simp only [RelayList.add, idxOf?_eq_none_iff.mpr known, entry, counted]
    have ends : RelayRow.Ends ⟨ipPort, [], (list.rows.headD default).last⟩ := .inl (Nat.succ_pos 46)
    refine valid.reads.move ends ?_ ?_
    · split <;> omega
    · grind [maxRelays]

/-- A label that runs on is not the one the entry had. -/
theorem Valid.add_ne (runs : list.RunsOn ipPort)
    : (list.add ipPort).relays ≠ promoted ipPort list.relays := by
  obtain ⟨label, member, full, last⟩ := runs
  obtain ⟨i, listed⟩ := mem_iff_getElem?.mp member
  have counted := valid.length_relays
  rw [promoted_of_getElem? valid.distinct (counted ▸ valid.count) listed, valid.add_eq listed]
  obtain ⟨count, some_⟩ : ∃ count, list.count = count + 1 := 
      ⟨list.count - 1, by have := length_pos_of_mem member; omega⟩
  have runsOn : ¬ RelayRow.Ends ⟨ipPort, label, (list.rows.headD default).last⟩ :=
    not_or.mpr ⟨full.not_lt, last⟩
  intro same
  simp only [RelayList.relays, relayTexts, labelText, if_neg runsOn, some_, take_succ_cons,
    List.cons.injEq, Prod.mk.injEq, append_right_eq_self] at same
  cases same.1.2

end RelayList

end Valid

-- The file that is read back

variable {relay : Bytes × Bytes}

theorem not_mem_listedText {octet : UInt8} (entry : octet ∉ relay.1) (label : octet ∉ relay.2)
    (other : octet ∉ utf8 "  # ")
    : octet ∉ listedText relay := by
  unfold listedText
  split
  · exact entry
  · simp only [mem_append, not_or]
    exact ⟨entry, other, label⟩

section Listed

variable (isEntry : IsEntry relay.1) (isLabel : IsLabel relay.2)
include isEntry isLabel

/-- What is left of a line without its end. -/
theorem rdropWhile_listedText
    : (cString (listedText relay ++ [10])).rdropWhile isLineEnd = listedText relay := by
  have nulFree : 0 ∉ listedText relay ++ [10] := by
    rw [mem_append, not_or]
    exact ⟨not_mem_listedText isEntry.nulFree isLabel.nulFree (by decide), by decide⟩
  rw [cString_eq_self nulFree, rdropWhile_concat_pos _ _ _ rfl, rdropWhile_eq_self_iff]
  intro some_ ends
  have last := getLast_mem some_
  simp only [isLineEnd, Bool.or_eq_true, decide_eq_true_eq] at ends
  rcases ends with newline | ret
  · rw [newline] at last
    exact not_mem_listedText isEntry.noNewline isLabel.noNewline (by decide) last
  · rw [ret] at last
    exact not_mem_listedText isEntry.noReturn isLabel.noReturn (by decide) last

theorem fullLine_listedText : FullLine 127 (listedText relay ++ [10]) := by
  refine ⟨_, 10, rfl, not_mem_listedText isEntry.noNewline isLabel.noNewline (by decide), ?_,
    .inl rfl⟩
  have long := isEntry.length
  have most := isLabel.length
  have blanks : (utf8 "  # ").length = 4 := rfl
  unfold listedText
  split
  · omega
  · rw [length_append, length_append]
    omega

theorem splitRelay_listedText
    : splitRelay (listedText relay)
      = (relay.1, if relay.2 = [] then none else some relay.2) := by
  by_cases labelled : relay.2 = []
  · rw [listedText, if_pos labelled, splitRelay, if_neg isEntry.noHash, if_pos labelled]
  · have text : listedText relay = relay.1 ++ [32] ++ [32] ++ charHash :: 32 :: relay.2 := by
      rw [listedText, if_neg labelled, append_assoc, append_assoc]
      rfl
    have others : ∀ octet ∈ relay.1 ++ [32] ++ [32], decide (octet ≠ charHash) = true := by
      intro octet member
      refine decide_eq_true ?_
      rintro rfl
      rw [append_assoc] at member
      exact (mem_append.mp member).elim isEntry.noHash (by decide)
    have entry : (relay.1 ++ [32] ++ [32]).rdropWhile isBlank = relay.1 := by
      rw [rdropWhile_concat_pos _ _ _ rfl, rdropWhile_concat_pos _ _ _ rfl,
        rdropWhile_eq_self_iff]
      intro some_ blank
      rw [isEntry.last _ (getLast?_eq_getLast_of_ne_nil some_)] at blank
      cases blank
    have label : (32 :: relay.2).dropWhile isBlank = relay.2 := by
      rw [dropWhile_cons_of_pos rfl, dropWhile_eq_self_iff]
      intro inside blank
      rw [isLabel.first _ (head?_eq_getElem?.trans (getElem?_eq_getElem inside))] at blank
      cases blank
    rw [text, splitRelay, if_pos (by simp), takeWhile_append_of_pos others,
      takeWhile_cons_of_neg (by decide), append_nil, entry,
      dropWhile_append_of_pos others, dropWhile_cons_of_neg (by decide), drop_one,
      tail_cons, label, if_neg labelled]

end Listed

theorem setLabel_ends (row : RelayRow) (isLabel : IsLabel label)
    : (row.setLabel (if label = [] then none else some label)).Ends
      ∧ (row.setLabel (if label = [] then none else some label)).label = label := by
  split
  · next empty => exact ⟨.inl (Nat.succ_pos 46), empty.symm⟩
  · exact ⟨.inr rfl, take_of_length_le isLabel.length⟩

/-- A line of the file fills the next row. -/
theorem RelayList.Reads.loadLine (reads : list.Reads relays) (sized : list.rows.length = maxRelays)
    (room : list.count < maxRelays) (isEntry : IsEntry relay.1) (isLabel : IsLabel relay.2)
    : (list.loadLine (listedText relay ++ [10])).Reads (relays ++ [relay])
      ∧ (list.loadLine (listedText relay ++ [10])).rows.length = maxRelays
      ∧ (list.loadLine (listedText relay ++ [10])).count = list.count + 1 := by
  have some_ : listedText relay ≠ [] := by
    unfold listedText
    split
    · exact isEntry.some_
    · simp [isEntry.some_]
  obtain ⟨ends, label⟩ := setLabel_ends (list.rows.getD list.count default) isLabel
  have entry := take_of_length_le (Nat.le_succ_of_le isEntry.length)
  rw [RelayList.loadLine, rdropWhile_listedText isEntry isLabel,
    if_neg (not_or.mpr ⟨Nat.not_le.mpr room, some_⟩), splitRelay_listedText isEntry isLabel]
  dsimp only
  rw [if_neg isEntry.some_, entry]
  have rows (row : RelayRow)
      : (list.rows.set list.count row).take (list.count + 1)
        = list.rows.take list.count ++ [row] := by
    rw [take_add_one, take_set_of_le (Nat.le_refl _),
      getElem?_set_self (sized ▸ room)]
    rfl
  refine ⟨⟨?_, ?_⟩, by rw [length_set, sized], rfl⟩
  · rw [rows, forall_mem_append]
    exact ⟨reads.ends, forall_mem_singleton.mpr ends⟩
  · rw [rows, map_append, reads.texts, map_singleton, label]

theorem RelayList.Reads.foldl_loadLine {front back : List (Bytes × Bytes)}
    (reads : list.Reads front) (sized : list.rows.length = maxRelays)
    (valid : ∀ relay ∈ back, IsEntry relay.1 ∧ IsLabel relay.2)
    (room : list.count + back.length ≤ maxRelays)
    : ((back.map fun relay => listedText relay ++ [10]).foldl RelayList.loadLine list).Reads
          (front ++ back)
      ∧ ((back.map fun relay => listedText relay ++ [10]).foldl RelayList.loadLine list).count
        = list.count + back.length := by
  induction back generalizing list front with
  | nil => exact ⟨by rwa [append_nil], rfl⟩
  | cons relay back ih =>
    obtain ⟨⟨isEntry, isLabel⟩, others⟩ := forall_mem_cons.mp valid
    rw [length_cons] at room ⊢
    obtain ⟨next, sized, count⟩ := reads.loadLine sized (by omega) isEntry isLabel
    rw [map_cons, foldl_cons, append_cons front]
    obtain ⟨read, total⟩ := ih next sized others (by omega)
    exact ⟨read, by omega⟩

/-- `relaylist_load` reads back what `relaylist_save` writes. -/
theorem RelayList.load_save {held : RelayList} (sized : held.rows.length = maxRelays)
    (seeds : List (Bytes × Bytes))
    (valid : ∀ relay ∈ list.relays, IsEntry relay.1 ∧ IsLabel relay.2) (some_ : list.relays ≠ [])
    (room : list.relays.length ≤ maxRelays)
    : (held.load seeds (some list.save)).relays = list.relays := by
  have lines : fgetsAll 127 list.save = list.relays.map fun relay => listedText relay ++ [10] := by
    refine fgetsAll_flatten (forall_mem_map.mpr fun relay member => ?_)
    exact fullLine_listedText (valid relay member).1 (valid relay member).2
  have empty : RelayList.Reads { held with count := 0 } [] := ⟨forall_mem_nil _, rfl⟩
  obtain ⟨reads, count⟩ := empty.foldl_loadLine sized valid (by rwa [Nat.zero_add])
  have loaded := length_pos_iff.mpr some_
  rw [RelayList.load, elim_some, lines, if_neg (by rw [count]; omega), reads.relays_eq,
    nil_append]

theorem promoted_nodup (distinct : (relays.map Prod.fst).Nodup)
    : ((promoted ipPort relays).map Prod.fst).Nodup := by
  rw [promoted, map_cons, nodup_cons]
  constructor
  · intro member
    obtain ⟨relay, listed, same⟩ := mem_map.mp member
    have other := (mem_filter.mp (mem_of_mem_take listed)).2
    exact of_decide_eq_true other same
  · refine distinct.sublist ?_
    exact ((take_sublist _ _).trans filter_sublist).map Prod.fst

end SwitchLanPlay.Setup
