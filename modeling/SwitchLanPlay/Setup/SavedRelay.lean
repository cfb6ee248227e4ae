import SwitchLanPlay.Setup.SaveRelay

/-! What the sysmodule loads from the file that the setup app has written. A relay that is appended
behind a line without a newline becomes part of that line, and `fgets` may cut the two in another
place.
-/

namespace SwitchLanPlay.Setup

open List Option
open Foundation
open Server (utf8)
open Sysmodule

-- A relay behind a line without a newline

section Merged

variable {last norm : Bytes}

theorem LoadableAddress.nul_not_mem_relayText (address : LoadableAddress norm)
    : 0 ∉ relayText norm := by
  rw [relayText, mem_append]
  exact not_or.mpr ⟨by decide, address.nulFree⟩

/-- A part of the relay's line without its first character has no relay. -/
theorem LoadableAddress.iniValue_drop (address : LoadableAddress norm) {count : Nat}
    (cut : 0 < count)
    : iniValue (utf8 "relay_addr") ((relayText norm).drop count) = none := by
  rw [eq_none_iff_forall_not_mem]
  intro value found
  have dropFree : 0 ∉ (relayText norm).drop count :=
    fun member => address.nul_not_mem_relayText (mem_of_mem_drop member)
  obtain ⟨member, rest, isFront⟩ :=
    (isRelayLine_iff dropFree).mp (isRelayLine_of_iniValue dropFree found)
  have short : count < 12 := by
    by_contra long
    have split : relayText norm = utf8 "relay_addr =" ++ (utf8 " " ++ norm) := rfl
    rw [split, drop_append, drop_eq_nil_of_le (Nat.le_of_not_lt long)] at member
    have member := mem_of_mem_drop member
    rw [mem_append] at member
    exact member.elim (by decide) address.noEquals
  interval_cases count <;> cases isFront

/-- The front of the relay's line, cut behind `=`. -/
theorem take_relayText {room : Nat} (long : 12 ≤ room)
    : (relayText norm).take room
      = utf8 "relay_addr " ++ charEquals :: (utf8 " " ++ norm).take (room - 12) := by
  have split : relayText norm = utf8 "relay_addr =" ++ (utf8 " " ++ norm) := rfl
  have whole : (utf8 "relay_addr =").length = 12 := rfl
  rw [split, take_append, take_of_length_le long, whole]
  rfl

theorem twelve_le_of_mem_take {room : Nat} (member : charEquals ∈ (relayText norm).take room)
    : 12 ≤ room := by
  by_contra short
  have split : relayText norm = utf8 "relay_addr " ++ charEquals :: (utf8 " " ++ norm) := rfl
  have whole : (utf8 "relay_addr ").length = 11 := rfl
  rw [split, take_append_of_le_length (by omega)] at member
  exact absurd (mem_of_mem_take member) (by decide)

/-- The name of a line that a relay is appended to. -/
theorem beforeEquals_append_relayText (noEquals : charEquals ∉ last) (value : Bytes)
    : beforeEquals (last ++ (utf8 "relay_addr " ++ charEquals :: value))
        = last.dropWhile isBlank ++ utf8 "relay_addr "
      ∧ behindEquals (last ++ (utf8 "relay_addr " ++ charEquals :: value)) = value := by
  have split : last ++ (utf8 "relay_addr " ++ charEquals :: value)
      = last.takeWhile isBlank
        ++ ((last.dropWhile isBlank ++ utf8 "relay_addr ") ++ charEquals :: value) := by
    rw [← append_assoc, ← append_assoc, ← append_assoc,
      takeWhile_append_dropWhile]
  rw [split]
  refine equals_parts (fun octet front => mem_takeWhile_imp front) ?_ ?_ value
  · intro octet head
    cases text : last.dropWhile isBlank with
    | nil =>
      rw [text] at head
      obtain rfl : 114 = octet := Option.some.inj head
      rfl
    | cons first rest =>
      rw [text] at head
      have isFront : first :: rest <+: last.dropWhile isBlank := text ▸ prefix_rfl
      exact isBlank_head?_eq_false isFront octet head
  · rw [mem_append]
    exact not_or.mpr
      ⟨fun member => noEquals ((dropWhile_sublist _).mem member), by decide⟩

/-- A line that a relay is appended to has that relay if and only if the line is blank and the relay
is not cut.
-/
theorem LoadableAddress.iniValue_append_iff (address : LoadableAddress norm) (lastFree : 0 ∉ last)
    (other : isRelayLine last = false) (room : Nat)
    : iniValue (utf8 "relay_addr") (last ++ (relayText norm).take room) = some norm
      ↔ (∀ octet ∈ last, isBlank octet) ∧ (relayText norm).length ≤ room := by
  have textFree := address.nul_not_mem_relayText
  have lineFree : 0 ∉ last ++ (relayText norm).take room := by
    rw [mem_append]
    exact not_or.mpr ⟨lastFree, fun member => textFree (mem_of_mem_take member)⟩
  constructor
  · intro found
    obtain ⟨member, name, value⟩ := iniValue_eq_some lineFree found
    have noEquals : charEquals ∉ last := by
      intro inside
      rw [beforeEquals_append inside] at name
      have relay := (isRelayLine_iff lastFree).mpr ⟨inside, name ▸ rdropWhile_prefix _ _⟩
      rw [other] at relay
      cases relay
    have long := twelve_le_of_mem_take ((mem_append.mp member).resolve_left noEquals)
    obtain ⟨before, behind⟩ :=
      beforeEquals_append_relayText noEquals ((utf8 " " ++ norm).take (room - 12))
    rw [take_relayText long, before] at name
    rw [take_relayText long, behind] at value
    constructor
    · -- nothing but blanks can stand in front of the name
      have cut : (last.dropWhile isBlank ++ utf8 "relay_addr ").rdropWhile isTrailing
          = last.dropWhile isBlank ++ utf8 "relay_addr" := by
        have split : last.dropWhile isBlank ++ utf8 "relay_addr "
            = (last.dropWhile isBlank ++ utf8 "relay_add") ++ 114 :: utf8 " " := by
          rw [append_assoc]
          rfl
        rw [split, rdropWhile_append_cons _ _ (by decide), append_assoc]
        rfl
      rw [cut] at name
      exact dropWhile_eq_nil_iff.mp (append_left_eq_self.mp name.symm)
    · have start : utf8 " " ++ norm = 32 :: norm := rfl
      obtain ⟨more, rfl⟩ : ∃ more, room = 13 + more := by
        refine Nat.exists_eq_add_of_le (Nat.lt_of_le_of_ne long fun exact_ => ?_)
        rw [← exact_] at value
        exact address.ne_nil value
      rw [start, show 13 + more - 12 = more + 1 by omega, take_succ_cons] at value
      have length : norm.length ≤ more := by
        calc norm.length = (trim (32 :: norm.take more)).length := congrArg _ value
          _ = (trim (norm.take more)).length :=
              congrArg _ (trim_blank_append (forall_mem_singleton.mpr rfl) _)
          _ ≤ (norm.take more).length := (trim_sublist _).length_le
          _ ≤ more := length_take_le _ _
      rw [relayText, length_append]
      exact Nat.add_le_add_left length 13
  · rintro ⟨blank, fits⟩
    rw [take_of_length_le fits]
    have entry := iniEntry_relayText blank (forall_mem_nil _) address.trimmed
      (by rwa [append_nil, mem_append, not_or, and_iff_right lastFree])
    rw [append_nil] at entry
    rw [iniValue, entry]
    rfl

def RelayOnly (lines : List Bytes) (norm : Bytes) : Prop :=
  ∀ key : ConfigKey, iniValues key.name lines = if key = .relayAddr then [norm] else []

theorem relayOnly_of_entry {line : Bytes} (entry : iniEntry line = some (utf8 "relay_addr", norm))
    : RelayOnly [line] norm := by
  intro key
  have value : iniValue key.name line = if key = .relayAddr then some norm else none := by
    rw [iniValue, entry]
    cases key <;> rfl
  unfold iniValues
  split at value
  · next relay => rw [filterMap_cons_some value, if_pos relay, filterMap_nil]
  · next other => rw [filterMap_cons_none value, if_neg other, filterMap_nil]

theorem RelayOnly.append_none {lines more : List Bytes} (only : RelayOnly lines norm)
    (none : ∀ line ∈ more, iniEntry line = none)
    : RelayOnly (lines ++ more) norm ∧ RelayOnly (more ++ lines) norm := by
  have empty : ∀ key, iniValues key more = [] := by
    intro key
    refine filterMap_eq_nil_iff.mpr fun line member => ?_
    rw [iniValue, none line member]
  constructor <;> intro key
  · rw [← only key, iniValues, filterMap_append, ← iniValues, ← iniValues, empty,
      append_nil]
  · rw [← only key, iniValues, filterMap_append, ← iniValues, ← iniValues, empty,
      nil_append]

/-- The lines that become of a line without a newline and a relay behind it. -/
theorem LoadableAddress.fgetsAll_relayLine (address : LoadableAddress norm) (noEnd : 10 ∉ last)
    (short : last.length < 511)
    : fgetsAll 511 (last ++ relayLine norm)
      = if (last ++ relayText norm).length < 511 then [last ++ relayText norm ++ [10]]
        else
          [last ++ (relayText norm).take (511 - last.length),
            (relayText norm).drop (511 - last.length) ++ [10]] := by
  have noEnd : 10 ∉ last ++ relayText norm := by
    rw [relayText, mem_append, mem_append]
    exact not_or.mpr ⟨noEnd, not_or.mpr ⟨by decide, address.noNewline⟩⟩
  have length : (relayText norm).length = 13 + norm.length := by
    rw [relayText, length_append]
    rfl
  have bound : (last ++ relayText norm).length < 511 + 511 := by
    have fits := address.length_le
    rw [length_append, length]
    omega
  rw [relayLine, ← append_assoc, fgetsAll_append_newline noEnd bound, take_append,
    take_of_length_le (Nat.le_of_lt short), drop_append,
    drop_eq_nil_of_le (Nat.le_of_lt short), nil_append]

/-- Of these lines only the first can have a relay. -/
theorem LoadableAddress.iniValues_relayLine (address : LoadableAddress norm) (lastFree : 0 ∉ last)
    (noEnd : 10 ∉ last) (short : last.length < 511)
    : iniValues (utf8 "relay_addr") (fgetsAll 511 (last ++ relayLine norm))
      = (iniValue (utf8 "relay_addr")
          (last ++ (relayText norm).take (511 - last.length))).toList := by
  rw [address.fgetsAll_relayLine noEnd short]
  unfold iniValues
  split
  · next whole =>
      rw [length_append] at whole
      have lineFree : 0 ∉ last ++ relayText norm := by
        rw [mem_append]
        exact not_or.mpr ⟨lastFree, address.nul_not_mem_relayText⟩
      rw [take_of_length_le (by omega), filterMap_cons, filterMap_nil,
        iniValue_append_newline lineFree]
      cases iniValue (utf8 "relay_addr") (last ++ relayText norm) <;> rfl
  · have dropFree : 0 ∉ (relayText norm).drop (511 - last.length) :=
      fun member => address.nul_not_mem_relayText (mem_of_mem_drop member)
    have none : iniValue (utf8 "relay_addr") ((relayText norm).drop (511 - last.length) ++ [10])
        = none := by
      rw [iniValue_append_newline dropFree]
      exact address.iniValue_drop (by omega)
    rw [filterMap_cons, filterMap_cons_none none, filterMap_nil]
    cases iniValue (utf8 "relay_addr") (last ++ (relayText norm).take (511 - last.length)) <;> rfl

theorem not_mem_of_blank (blank : ∀ octet ∈ last, isBlank octet) {octet : UInt8}
    (other : isBlank octet = false)
    : octet ∉ last := by
  intro member
  have isBlank := blank octet member
  rw [other] at isBlank
  cases isBlank

/-- The relay's line, behind blanks. -/
theorem LoadableAddress.relayOnly_line (address : LoadableAddress norm)
    (blank : ∀ octet ∈ last, isBlank octet) {back : Bytes}
    (trailing : ∀ octet ∈ back, isTrailing octet)
    : RelayOnly [last ++ relayText norm ++ back] norm := by
  refine relayOnly_of_entry (iniEntry_relayText blank trailing address.trimmed ?_)
  simp only [mem_append, not_or]
  refine ⟨⟨not_mem_of_blank blank rfl, address.nul_not_mem_relayText⟩, fun member => ?_⟩
  cases trailing 0 member

/-- A relay behind a blank line without a newline. -/
theorem LoadableAddress.relayOnly_blank (address : LoadableAddress norm)
    (blank : ∀ octet ∈ last, isBlank octet) (short : last.length < 511)
    (room : last.length + (relayText norm).length ≤ 511)
    : RelayOnly (fgetsAll 511 (last ++ relayLine norm)) norm := by
  rw [address.fgetsAll_relayLine (not_mem_of_blank blank rfl) short]
  split
  · exact address.relayOnly_line blank (forall_mem_singleton.mpr rfl)
  · rw [take_of_length_le (by omega), drop_eq_nil_of_le (by omega)]
    have only := address.relayOnly_line blank (forall_mem_nil _)
    rw [append_nil] at only
    exact (only.append_none (forall_mem_singleton.mpr rfl)).1

end Merged

-- What is loaded

theorem iniValues_append (key : Bytes) (front back : List Bytes)
    : iniValues key (front ++ back) = iniValues key front ++ iniValues key back := filterMap_append

/-- The relay is changed and nothing else. -/
theorem ofLines_eq_iff {norm : Bytes} (some_ : norm ≠ []) (short : norm.length ≤ 127)
    {saved old : List Bytes}
    : NxConfig.ofLines saved = { NxConfig.ofLines old with relayAddr := norm }
      ↔ (iniValues (utf8 "relay_addr") saved).getLast? = some norm
        ∧ ∀ key ≠ ConfigKey.relayAddr,
            (NxConfig.ofLines saved).get key = (NxConfig.ofLines old).get key := by
  have relay : (NxConfig.ofLines saved).relayAddr = norm
      ↔ (iniValues (utf8 "relay_addr") saved).getLast? = some norm := by
    have field := NxConfig.get_ofLines saved .relayAddr
    change (NxConfig.ofLines saved).relayAddr
      = ((iniValues (utf8 "relay_addr") saved).getLast?.map (·.take 255)).getD [] at field
    rw [field]
    cases (iniValues (utf8 "relay_addr") saved).getLast? with
    | none => simpa using some_.symm
    | some value =>
      rw [map_some, getD_some, Option.some.injEq]
      constructor
      · intro same
        have length := congrArg List.length same
        rw [length_take] at length
        rwa [take_of_length_le (by omega)] at same
      · rintro rfl
        exact take_of_length_le (by omega)
  constructor
  · intro same
    refine ⟨relay.mp (congrArg NxConfig.relayAddr same), fun key other => ?_⟩
    rw [same]
    cases key with
    | relayAddr => exact absurd rfl other
    | _ => rfl
  · rintro ⟨last, same⟩
    exact NxConfig.ext (relay.mpr last) (same .ip nofun) (same .subnetNet nofun)
      (same .subnetMask nofun) (same .username nofun) (same .password nofun)

/-- Lines with nothing but a relay change nothing but the relay. -/
theorem RelayOnly.ofLines_append {lines more : List Bytes} {norm : Bytes}
    (only : RelayOnly more norm) (address : LoadableAddress norm)
    : NxConfig.ofLines (lines ++ more)
      = { NxConfig.ofLines lines with relayAddr := norm } := by
  refine (ofLines_eq_iff address.ne_nil address.length_le).mpr ⟨?_, fun key other => ?_⟩
  · have relay : iniValues (utf8 "relay_addr") more = [norm] := only .relayAddr
    rw [iniValues_append, relay, getLast?_concat]
  · rw [NxConfig.get_ofLines, NxConfig.get_ofLines, iniValues_append, only key, if_neg other,
      append_nil]

section Saved

variable {lines : List Bytes} {norm : Bytes}

/-- A relay is replaced: no line behind it brings another one, and the lines that are not kept
change no other key.
-/
def ReplacesRelay (lines : List Bytes) (norm : Bytes) : Prop :=
  ∃ before line after,
    lines.take maxCfgLines = before ++ line :: after
    ∧ (∀ other ∈ before, isRelayLine other = false)
    ∧ isRelayLine line
    ∧ (∀ value ∈ (iniValues (utf8 "relay_addr") after).getLast?, value = norm)
    ∧ ∀ key ≠ ConfigKey.relayAddr,
        (NxConfig.ofLines (lines.take maxCfgLines)).get key = (NxConfig.ofLines lines).get key

/-- A relay is appended: there is room for its line, and the last line has a newline, fills the
buffer, or is blank and leaves room.
-/
def AppendsRelay (lines : List Bytes) (norm : Bytes) : Prop :=
  lines.length < maxCfgLines
  ∧ (∀ line ∈ lines, isRelayLine line = false)
  ∧ ∀ last ∈ lines.getLast?,
      FullLine 511 last
      ∨ ((∀ octet ∈ last, isBlank octet) ∧ last.length + (relayText norm).length ≤ 511)

theorem LoadableAddress.fullLine_relayLine (address : LoadableAddress norm)
    : FullLine 511 (relayLine norm) := by
  refine ⟨relayText norm, 10, rfl, ?_, ?_, .inl rfl⟩
  · rw [relayText, mem_append]
    exact not_or.mpr ⟨by decide, address.noNewline⟩
  · have length : (relayText norm).length = 13 + norm.length := by
      rw [relayText, length_append]
      rfl
    have short := address.length_le
    omega

theorem LoadableAddress.relayOnly_relayLine (address : LoadableAddress norm)
    : RelayOnly [relayLine norm] norm :=
  address.relayOnly_line (forall_mem_nil _) (forall_mem_singleton.mpr rfl)

/-- There is one first relay. -/
theorem first_relay_unique {before before' after after' : List Bytes} {line line' : Bytes}
    (same : before ++ line :: after = before' ++ line' :: after')
    (others : ∀ other ∈ before, isRelayLine other = false) (relay : isRelayLine line)
    (others' : ∀ other ∈ before', isRelayLine other = false) (relay' : isRelayLine line')
    : after = after' := by
  have rest : ∀ {front back : List Bytes} {first : Bytes},
      (∀ other ∈ front, isRelayLine other = false) → isRelayLine first = true
      → (front ++ first :: back).dropWhile (fun other => !isRelayLine other) = first :: back := by
    intro front back first none found
    rw [dropWhile_append_of_pos fun other member => by rw [none other member]; rfl]
    exact dropWhile_cons_of_neg (by simp [found])
  have tails := congrArg (dropWhile fun other => !isRelayLine other) same
  rw [rest others relay, rest others' relay'] at tails
  exact (List.cons.inj tails).2

/-- The file behind a replaced relay. -/
theorem LoadableAddress.replaced_iff (address : LoadableAddress norm)
    (readable : Readable 511 lines) (nulFree : ∀ line ∈ lines, 0 ∉ line)
    {before after : List Bytes} {line : Bytes}
    (kept : lines.take maxCfgLines = before ++ line :: after)
    (others : ∀ other ∈ before, isRelayLine other = false) (relay : isRelayLine line)
    : NxConfig.ofLines (fgetsAll 511 (before ++ relayLine norm :: after).flatten)
        = { NxConfig.ofLines lines with relayAddr := norm }
      ↔ ReplacesRelay lines norm := by
  have lineFree : 0 ∉ line := by
    have member : line ∈ lines.take maxCfgLines := by
      rw [kept]
      exact mem_append_right _ mem_cons_self
    exact nulFree line (mem_of_mem_take member)
  obtain ⟨-, rest, full⟩ := (kept ▸ readable.take maxCfgLines).of_append
  have rest : Readable 511 ([line] ++ after) := rest
  obtain ⟨-, behind, -⟩ := rest.of_append
  have read : fgetsAll 511 (before ++ relayLine norm :: after).flatten
      = before ++ ([relayLine norm] ++ after) := by
    rw [flatten_append, fgetsAll_flatten_append (full (cons_ne_nil _ _)),
      flatten_cons, address.fullLine_relayLine.fgetsAll_append, behind.fgetsAll_flatten,
      singleton_append]
  have relays : (iniValues (utf8 "relay_addr") (before ++ ([relayLine norm] ++ after))).getLast?
        = some norm
      ↔ ∀ value ∈ (iniValues (utf8 "relay_addr") after).getLast?, value = norm := by
    have own : iniValues (utf8 "relay_addr") [relayLine norm] = [norm] :=
      address.relayOnly_relayLine .relayAddr
    rw [iniValues_append, iniValues_append, own, getLast?_append, getLast?_append]
    cases (iniValues (utf8 "relay_addr") after).getLast? <;> simp
  have fields : ∀ key ≠ ConfigKey.relayAddr,
      (NxConfig.ofLines (before ++ ([relayLine norm] ++ after))).get key
        = (NxConfig.ofLines (lines.take maxCfgLines)).get key := by
    intro key other
    have own := address.relayOnly_relayLine key
    have none : iniValues key.name [line] = [] := by
      rw [iniValues, filterMap_cons_none (iniValue_of_isRelayLine lineFree relay other),
        filterMap_nil]
    rw [if_neg other] at own
    have kept : lines.take maxCfgLines = before ++ ([line] ++ after) := kept
    rw [NxConfig.get_ofLines, NxConfig.get_ofLines, kept, iniValues_append, iniValues_append,
      iniValues_append, iniValues_append, own, none]
  rw [read, ofLines_eq_iff address.ne_nil address.length_le, relays]
  constructor
  · rintro ⟨later, same⟩
    exact ⟨before, line, after, kept, others, relay, later,
      fun key other => (fields key other).symm.trans (same key other)⟩
  · rintro ⟨before', line', after', kept', others', relay', later, same⟩
    obtain rfl := first_relay_unique (kept.symm.trans kept') others relay others' relay'
    exact ⟨later, fun key other => (fields key other).trans (same key other)⟩

theorem iniValues_of_not_isRelayLine (nulFree : ∀ line ∈ lines, 0 ∉ line)
    (others : ∀ line ∈ lines, isRelayLine line = false)
    : iniValues (utf8 "relay_addr") lines = [] := by
  refine filterMap_eq_nil_iff.mpr fun line member => ?_
  rw [eq_none_iff_forall_not_mem]
  intro value found
  have relay := isRelayLine_of_iniValue (nulFree line member) found
  rw [others line member] at relay
  cases relay

/-- A relay that is appended to a file. -/
theorem LoadableAddress.concat_iff (address : LoadableAddress norm) {init : List Bytes}
    {last : Bytes} (readable : Readable 511 (init ++ [last]))
    (nulFree : ∀ line ∈ init ++ [last], 0 ∉ line)
    (others : ∀ line ∈ init ++ [last], isRelayLine line = false)
    : NxConfig.ofLines (fgetsAll 511 (init ++ [last] ++ [relayLine norm]).flatten)
        = { NxConfig.ofLines (init ++ [last]) with relayAddr := norm }
      ↔ FullLine 511 last
        ∨ ((∀ octet ∈ last, isBlank octet)
          ∧ last.length + (relayText norm).length ≤ 511) := by
  obtain ⟨-, final, full⟩ := readable.of_append
  obtain ⟨initFree, lastFree⟩ := forall_mem_append.mp nulFree
  obtain ⟨initOthers, lastOther⟩ := forall_mem_append.mp others
  have read : fgetsAll 511 (init ++ [last] ++ [relayLine norm]).flatten
      = init ++ fgetsAll 511 (last ++ relayLine norm) := by
    rw [append_assoc, flatten_append,
      fgetsAll_flatten_append (full (cons_ne_nil _ _))]
    simp
  rw [read]
  cases final with
  | cons ended _ =>
    have single := address.fullLine_relayLine.fgetsAll_append []
    rw [append_nil] at single
    rw [ended.fgetsAll_append, single]
    refine iff_of_true ?_ (.inl ended)
    rw [← singleton_append, ← append_assoc]
    exact address.relayOnly_relayLine.ofLines_append address
  | unended _ noEnd short =>
    rw [or_iff_right (not_fullLine noEnd short)]
    constructor
    · intro same
      obtain ⟨relay, -⟩ := (ofLines_eq_iff address.ne_nil address.length_le).mp same
      rw [iniValues_append, iniValues_of_not_isRelayLine initFree initOthers, nil_append,
        address.iniValues_relayLine (lastFree last (mem_singleton_self _)) noEnd short]
        at relay
      have found : iniValue (utf8 "relay_addr")
          (last ++ (relayText norm).take (511 - last.length)) = some norm := by
        revert relay
        cases iniValue (utf8 "relay_addr")
          (last ++ (relayText norm).take (511 - last.length)) <;> simp
      obtain ⟨blank, room⟩ := (address.iniValue_append_iff
        (lastFree last (mem_singleton_self _))
        (lastOther last (mem_singleton_self _)) _).mp found
      exact ⟨blank, by omega⟩
    · rintro ⟨blank, room⟩
      have none : iniEntry last = none := by
        unfold iniEntry
        rw [cString_eq_self (lastFree last (mem_singleton_self _)),
          trim_eq_nil fun octet member => isTrailing_of_isBlank (blank octet member)]
        rfl
      have same : NxConfig.ofLines (init ++ [last]) = NxConfig.ofLines init := by
        rw [NxConfig.ofLines, foldl_concat, NxConfig.readLine, none]
        rfl
      rw [same]
      exact (address.relayOnly_blank blank short room).ofLines_append address

/-- A relay in a new file. -/
theorem LoadableAddress.ofLines_editRelay_nil (address : LoadableAddress norm)
    : NxConfig.ofLines (fgetsAll 511 (editRelay norm []).flatten)
      = { NxConfig.ofLines [] with relayAddr := norm } := by
  have edited : editRelay norm [] = [utf8 "; switch-lan-play\n", utf8 "[server]\n"]
      ++ [relayLine norm] := rfl
  have full : ∀ line ∈ [utf8 "; switch-lan-play\n", utf8 "[server]\n"] ++ [relayLine norm],
      FullLine 511 line := by
    refine forall_mem_append.mpr ⟨?_, forall_mem_singleton.mpr address.fullLine_relayLine⟩
    exact forall_mem_cons.mpr
      ⟨⟨utf8 "; switch-lan-play", 10, rfl, by decide, by decide, .inl rfl⟩,
        forall_mem_singleton.mpr ⟨utf8 "[server]", 10, rfl, by decide, by decide, .inl rfl⟩⟩
  have read := fgetsAll_flatten_append full []
  rw [append_nil] at read
  rw [edited, read, fgetsAll, fgetsFrom, if_pos rfl, append_nil]
  have header : ∀ line ∈ [utf8 "; switch-lan-play\n", utf8 "[server]\n"],
      iniEntry line = none := by decide
  have only := (address.relayOnly_relayLine.append_none header).2
  exact @RelayOnly.ofLines_append [] _ norm only address

theorem editRelay_eq (replaced : replaceRelay norm lines = none) (some_ : lines ≠ [])
    : editRelay norm lines
      = if lines.length < maxCfgLines then lines ++ [relayLine norm] else lines := by
  rw [editRelay, replaced]
  dsimp only
  rw [if_neg some_]

/-- The file behind an appended relay. -/
theorem LoadableAddress.appended_iff (address : LoadableAddress norm)
    (readable : Readable 511 lines) (nulFree : ∀ line ∈ lines, 0 ∉ line)
    (replaced : replaceRelay norm (lines.take maxCfgLines) = none)
    : NxConfig.ofLines (fgetsAll 511 (editRelay norm (lines.take maxCfgLines)).flatten)
        = { NxConfig.ofLines lines with relayAddr := norm }
      ↔ AppendsRelay lines norm := by
  have others := replaceRelay_eq_none replaced
  rcases eq_nil_or_concat' lines with rfl | ⟨init, last, rfl⟩
  · refine iff_of_true address.ofLines_editRelay_nil ⟨by decide, forall_mem_nil _, ?_⟩
    exact fun last final => nomatch final
  by_cases room : (init ++ [last]).length < maxCfgLines
  · rw [take_of_length_le (Nat.le_of_lt room)] at others replaced ⊢
    rw [editRelay_eq replaced (by simp), if_pos room, address.concat_iff readable nulFree others,
      AppendsRelay, and_iff_right room, and_iff_right others, getLast?_concat]
    simp
  · have length : ((init ++ [last]).take maxCfgLines).length = maxCfgLines := by
      rw [length_take]
      omega
    have some_ : (init ++ [last]).take maxCfgLines ≠ [] := by
      intro none
      rw [none] at length
      cases length
    rw [editRelay_eq replaced some_, if_neg (by omega),
      (readable.take maxCfgLines).fgetsAll_flatten]
    refine iff_of_false ?_ fun appends => room appends.1
    rw [ofLines_eq_iff address.ne_nil address.length_le,
      iniValues_of_not_isRelayLine (fun line member => nulFree line (mem_of_mem_take member))
        others]
    exact fun ⟨relay, _⟩ => nomatch relay

end Saved

-- The saved file

section File

variable {file saved : Option Bytes} {addr norm : Bytes} {writable : Bool}

theorem nulFree_configLines (nulFree : ∀ content ∈ file, 0 ∉ content)
    : ∀ line ∈ configLines file, 0 ∉ line := by
  cases file with
  | none => exact forall_mem_nil _
  | some content =>
    intro line member inside
    have whole := mem_flatten_of_mem member inside
    rw [configLines, flatten_fgetsAll] at whole
    exact nulFree content rfl whole

theorem readable_configLines (file : Option Bytes) : Readable 511 (configLines file) := by
  cases file with
  | none => exact .nil
  | some content => exact readable_fgetsAll (by decide) content

theorem SavedAddress.nulFree_editRelay (address : SavedAddress addr norm) {lines : List Bytes}
    (nulFree : ∀ line ∈ lines, 0 ∉ line)
    : ∀ line ∈ editRelay norm lines, 0 ∉ line := by
  have own : 0 ∉ relayLine norm := by
    have normFree : 0 ∉ norm := address.not_mem rfl (by decide)
    simp only [relayLine, relayText, mem_append, not_or]
    exact ⟨⟨by decide, normFree⟩, by decide⟩
  cases replaced : replaceRelay norm lines with
  | some edited =>
    obtain ⟨before, line, after, rfl, -, -, rfl⟩ := replaceRelay_eq_some replaced
    obtain ⟨front, rest⟩ := forall_mem_append.mp nulFree
    rw [editRelay, replaced]
    exact forall_mem_append.mpr
      ⟨front, forall_mem_cons.mpr ⟨own, (forall_mem_cons.mp rest).2⟩⟩
  | none =>
    by_cases empty : lines = []
    · subst empty
      have header : ∀ line ∈ [utf8 "; switch-lan-play\n", utf8 "[server]\n"], 0 ∉ line := by
        decide
      exact forall_mem_append.mpr ⟨header, forall_mem_singleton.mpr own⟩
    · rw [editRelay_eq replaced empty]
      split
      · exact forall_mem_append.mpr ⟨nulFree, forall_mem_singleton.mpr own⟩
      · exact nulFree

theorem nulFree_kept (nulFree : ∀ content ∈ file, 0 ∉ content)
    (accepted : normalizeRelayForSave addr 128 = some norm)
    : ∀ line ∈ editRelay norm ((configLines file).take maxCfgLines), 0 ∉ line :=
  (savedAddress_of_normalize accepted).nulFree_editRelay
    fun line member => nulFree_configLines nulFree line (mem_of_mem_take member)

/-- A relay that is loaded starts with no blank and has no newline. -/
theorem SavedAddress.clean_of_loaded (address : SavedAddress addr norm) {lines : List Bytes}
    (nulFree : ∀ line ∈ lines, 0 ∉ line)
    (relay : (iniValues (utf8 "relay_addr") (fgetsAll 511 lines.flatten)).getLast? = some norm)
    : (∀ octet ∈ addr.head?, isBlank octet = false) ∧ 10 ∉ relayHost addr := by
  obtain ⟨line, member, found⟩ := mem_filterMap.mp (mem_of_getLast? relay)
  have lineFree : 0 ∉ line := by
    intro inside
    have whole := mem_flatten_of_mem member inside
    rw [flatten_fgetsAll] at whole
    obtain ⟨other, otherMember, inside⟩ := mem_flatten.mp whole
    exact nulFree other otherMember inside
  constructor
  · obtain ⟨-, -, value⟩ := iniValue_eq_some lineFree found
    rw [← address.head?, value]
    exact isBlank_head?_trim _
  · have noEnd := newline_not_mem_value (readable_fgetsAll (by decide) _) member lineFree found
    exact fun inside => noEnd (address.host.mem inside)

/-- What is loaded from the edited lines. -/
theorem LoadableAddress.edited_iff (address : LoadableAddress norm)
    (nulFree : ∀ content ∈ file, 0 ∉ content)
    : NxConfig.ofLines
          (fgetsAll 511 (editRelay norm ((configLines file).take maxCfgLines)).flatten)
        = { NxConfig.ofLines (configLines file) with relayAddr := norm }
      ↔ ReplacesRelay (configLines file) norm ∨ AppendsRelay (configLines file) norm := by
  have readable := readable_configLines file
  have nulFree := nulFree_configLines nulFree
  cases replaced : replaceRelay norm ((configLines file).take maxCfgLines) with
  | none =>
    rw [address.appended_iff readable nulFree replaced, or_iff_right]
    rintro ⟨before, line, after, kept, -, relay, -⟩
    have member : line ∈ (configLines file).take maxCfgLines := by
      rw [kept]
      exact mem_append_right _ mem_cons_self
    rw [replaceRelay_eq_none replaced line member] at relay
    cases relay
  | some edited =>
    obtain ⟨before, line, after, kept, others, relay, rfl⟩ := replaceRelay_eq_some replaced
    rw [editRelay, replaced]
    dsimp only
    rw [address.replaced_iff readable nulFree kept others relay, or_iff_left]
    rintro ⟨-, none, -⟩
    have member : line ∈ (configLines file).take maxCfgLines := by
      rw [kept]
      exact mem_append_right _ mem_cons_self
    rw [none line (mem_of_mem_take member)] at relay
    cases relay

/-- The file that a successful call has written. -/
theorem saveRelay_eq_zero (nulFree : ∀ content ∈ file, 0 ∉ content)
    (accepted : normalizeRelayForSave addr 128 = some norm)
    (returned : saveRelay file addr writable = (0, saved))
    : saved = some (editRelay norm ((configLines file).take maxCfgLines)).flatten := by
  have same : (editRelay norm ((configLines file).take maxCfgLines)).map cString
      = editRelay norm ((configLines file).take maxCfgLines) := by
    refine (map_congr_left fun line member => ?_).trans (map_id' _)
    exact cString_eq_self (nulFree_kept nulFree accepted line member)
  rw [saveRelay, accepted] at returned
  dsimp only at returned
  rw [if_neg (savedAddress_of_normalize accepted).ne_nil, same] at returned
  split at returned
  · exact (Prod.mk.inj returned).2.symm
  · cases returned

/-- The sysmodule loads the relay that was saved, and every other key as before, if and only if the
address starts with no blank and has no newline in its host, and the relay is replaced or appended
well.
-/
theorem saved_relay_loaded_iff (nulFree : ∀ content ∈ file, 0 ∉ content)
    (accepted : normalizeRelayForSave addr 128 = some norm)
    (returned : saveRelay file addr writable = (0, saved))
    : (nxConfigLoad saved).2 = { (nxConfigLoad file).2 with relayAddr := norm }
      ↔ (∀ octet ∈ addr.head?, isBlank octet = false)
        ∧ 10 ∉ relayHost addr
        ∧ (ReplacesRelay (configLines file) norm ∨ AppendsRelay (configLines file) norm) := by
  have address := savedAddress_of_normalize accepted
  rw [saveRelay_eq_zero nulFree accepted returned, nxConfigLoad_snd, nxConfigLoad_snd, configLines]
  constructor
  · intro same
    obtain ⟨relay, -⟩ := (ofLines_eq_iff address.ne_nil address.length_le).mp same
    obtain ⟨head, newline⟩ := address.clean_of_loaded (nulFree_kept nulFree accepted) relay
    exact ⟨head, newline, ((address.loadable head newline).edited_iff nulFree).mp same⟩
  · rintro ⟨head, newline, kept⟩
    exact ((address.loadable head newline).edited_iff nulFree).mpr kept

def oldConfig : Bytes := utf8 "[server]\nrelay_addr = 1.2.3.4:1\nusername = ann\n"

theorem saved_relay_loaded_iff_oldConfig
    : saveRelay (some oldConfig) (utf8 "5.6.7.8") true
        = (0, some (utf8 "[server]\nrelay_addr = 5.6.7.8:11451\nusername = ann\n"))
      ∧ (nxConfigLoad
          (some (utf8 "[server]\nrelay_addr = 5.6.7.8:11451\nusername = ann\n"))).2
        = { (nxConfigLoad (some oldConfig)).2 with relayAddr := utf8 "5.6.7.8:11451" } := by
  have returned : saveRelay (some oldConfig) (utf8 "5.6.7.8") true
      = (0, some (utf8 "[server]\nrelay_addr = 5.6.7.8:11451\nusername = ann\n")) := by decide
  have nulFree : ∀ content ∈ some oldConfig, 0 ∉ content := by
    rintro _ ⟨⟩
    decide
  refine ⟨returned, (saved_relay_loaded_iff nulFree (by decide) returned).mpr ⟨?_, by decide, ?_⟩⟩
  · rintro _ ⟨⟩
    rfl
  · refine .inl ⟨[utf8 "[server]\n"], utf8 "relay_addr = 1.2.3.4:1\n", [utf8 "username = ann\n"],
      by decide, by decide, by decide, ?_, ?_⟩
    · rintro _ ⟨⟩
    · intro key _
      rfl

def savedConfig (content addr : Bytes) : Int × NxConfig :=
  let (result, file) := saveRelay (some content) addr true
  (result, (nxConfigLoad file).2)

/-- Saves that the sysmodule does not follow: a second relay, a last line without a newline, which
also changes the name, a file of 63 lines, and an address with a blank in front.
-/
theorem saved_relay_not_loaded
    : savedConfig (utf8 "relay_addr=1.2.3.4:1\nrelay_addr=1.2.3.5:1\n") (utf8 "5.6.7.8")
        = (0, { NxConfig.setDefaults with relayAddr := utf8 "1.2.3.5:1" })
      ∧ savedConfig (utf8 "username=ann") (utf8 "5.6.7.8")
        = (0, { NxConfig.setDefaults with username := utf8 "annrelay_addr = 5.6.7.8:11451" })
      ∧ savedConfig (List.replicate 63 10) (utf8 "5.6.7.8") = (0, NxConfig.setDefaults)
      ∧ normalizeRelayForSave (utf8 " 5.6.7.8") 128 = some (utf8 " 5.6.7.8:11451")
      ∧ savedConfig [] (utf8 " 5.6.7.8")
        = (0, { NxConfig.setDefaults with relayAddr := utf8 "5.6.7.8:11451" }) := by
  decide

end File

end SwitchLanPlay.Setup
