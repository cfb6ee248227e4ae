import SwitchLanPlay.Setup.ReadRelay
import SwitchLanPlay.Setup.RelayAddress

/-! The relay that the setup app saves. `save_relay` keeps the first lines of `config.ini`, replaces
the first of them that looks like a relay, or appends one, and writes the lines back.
-/

namespace SwitchLanPlay.Setup

open List Option
open Foundation
open Server (utf8)
open Sysmodule

variable {line value back norm : Bytes} {lines : List Bytes}

def maxCfgLines : Nat := 63

def isRelayLine (line : Bytes) : Bool :=
  let text := trim (cString line)
  (utf8 "relay_addr").isPrefixOf text && decide (charEquals ∈ text)

def relayText (normalized : Bytes) : Bytes := utf8 "relay_addr = " ++ normalized

def relayLine (normalized : Bytes) : Bytes := relayText normalized ++ [10]

def replaceRelay (normalized : Bytes) : List Bytes → Option (List Bytes)
  | [] => none
  | line :: rest =>
    if isRelayLine line then some (relayLine normalized :: rest)
    else (replaceRelay normalized rest).map (line :: ·)

def editRelay (normalized : Bytes) (lines : List Bytes) : List Bytes :=
  match replaceRelay normalized lines with
  | some edited => edited
  | none =>
    let lines := if lines = [] then [utf8 "; switch-lan-play\n", utf8 "[server]\n"] else lines
    if lines.length < maxCfgLines then lines ++ [relayLine normalized] else lines

/-- `save_relay`, for a file that may be missing and may not be writable: what it returns, and the
file behind it.
-/
def saveRelay (file : Option Bytes) (addr : Bytes) (writable : Bool) : Int × Option Bytes :=
  match normalizeRelayForSave addr 128 with
  | none => (-1, file)
  | some normalized =>
    if normalized = [] then (-1, file)
    else
      let lines := editRelay normalized ((configLines file).take maxCfgLines)
      if writable then (0, some (lines.map cString).flatten) else (-1, file)

-- Lines of the relay

theorem isPrefix_of_append_cons {octet : UInt8} {front text : Bytes} (other : octet ∉ front)
    (isFront : front <+: text ++ octet :: back)
    : front <+: text := by
  induction text generalizing front with
  | nil =>
    cases front with
    | nil => exact nil_prefix
    | cons first front =>
      rw [nil_append, cons_prefix_cons] at isFront
      exact absurd (isFront.1 ▸ mem_cons_self) other
  | cons first text ih =>
    cases front with
    | nil => exact nil_prefix
    | cons head front =>
      rw [cons_append, cons_prefix_cons] at isFront
      rw [cons_prefix_cons]
      exact ⟨isFront.1, ih (fun member => other (mem_cons_of_mem _ member)) isFront.2⟩

theorem isRelayLine_iff (nulFree : 0 ∉ line)
    : isRelayLine line = true ↔ charEquals ∈ line ∧ utf8 "relay_addr" <+: beforeEquals line := by
  unfold isRelayLine
  dsimp only
  rw [cString_eq_self nulFree, Bool.and_eq_true, isPrefixOf_iff_prefix, decide_eq_true_eq]
  constructor
  · rintro ⟨isFront, member⟩
    have member := (trim_sublist line).mem member
    rw [trim_of_mem member] at isFront
    exact ⟨member, isPrefix_of_append_cons (by decide) isFront⟩
  · rintro ⟨member, isFront⟩
    rw [trim_of_mem member]
    exact ⟨isFront.trans (prefix_append _ _), by simp⟩

theorem iniValue_eq_some {key : Bytes} (nulFree : 0 ∉ line) (found : iniValue key line = some value)
    : charEquals ∈ line
      ∧ key = (beforeEquals line).rdropWhile isTrailing
      ∧ value = trim (behindEquals line) := by
  unfold iniValue at found
  cases entry : iniEntry line with
  | none =>
    rw [entry] at found
    cases found
  | some pair =>
    rw [entry] at found
    obtain ⟨member, name, val⟩ := iniEntry_inv nulFree entry
    dsimp only at found
    split at found
    · next same =>
        cases found
        exact ⟨member, by rw [← same, name, trim_beforeEquals], val⟩
    · cases found

/-- A line with a relay is one that `save_relay` takes for it. -/
theorem isRelayLine_of_iniValue (nulFree : 0 ∉ line)
    (found : iniValue (utf8 "relay_addr") line = some value)
    : isRelayLine line := by
  obtain ⟨member, name, -⟩ := iniValue_eq_some nulFree found
  refine (isRelayLine_iff nulFree).mpr ⟨member, ?_⟩
  rw [name]
  exact rdropWhile_prefix _ _

/-- A line that `save_relay` takes for the relay sets no other key. -/
theorem iniValue_of_isRelayLine (nulFree : 0 ∉ line) (relay : isRelayLine line) {key : ConfigKey}
    (other : key ≠ .relayAddr)
    : iniValue key.name line = none := by
  rw [eq_none_iff_forall_not_mem]
  intro value found
  obtain ⟨-, name, -⟩ := iniValue_eq_some nulFree found
  obtain ⟨-, rest, front⟩ := (isRelayLine_iff nulFree).mp relay
  have split : beforeEquals line = utf8 "relay_add" ++ 114 :: rest := front.symm
  have isFront : utf8 "relay_addr" <+: key.name := by
    rw [name, split, rdropWhile_append_cons _ _ (by decide)]
    exact ⟨rest.rdropWhile isTrailing, rfl⟩
  revert isFront
  cases key with
  | relayAddr => exact absurd rfl other
  | ip => decide
  | subnetNet => decide
  | subnetMask => decide
  | username => decide
  | password => decide

/-- The entry of a relay's line, also behind blanks and with any end. -/
theorem iniEntry_relayText {front : Bytes} (blank : ∀ octet ∈ front, isBlank octet)
    (trailing : ∀ octet ∈ back, isTrailing octet) (trimmed : trim norm = norm)
    (nulFree : 0 ∉ front ++ relayText norm ++ back)
    : iniEntry (front ++ relayText norm ++ back) = some (utf8 "relay_addr", norm) := by
  have line : front ++ relayText norm ++ back
      = front ++ (utf8 "relay_addr " ++ charEquals :: (utf8 " " ++ (norm ++ back))) := by
    have text : relayText norm = utf8 "relay_addr " ++ charEquals :: (utf8 " " ++ norm) := rfl
    rw [text]
    simp only [append_assoc, cons_append]
  have head : ∀ octet ∈ (utf8 "relay_addr ").head?, isBlank octet = false := by
    intro octet first
    obtain rfl : 114 = octet := Option.some.inj first
    rfl
  obtain ⟨before, behind⟩ := equals_parts blank head (by decide) (utf8 " " ++ (norm ++ back))
  have kept : ∀ octet ∈ (utf8 "relay_addr ").head?, isSkipped octet = false := by
    intro octet first
    obtain rfl : 114 = octet := Option.some.inj first
    rfl
  rw [line] at nulFree ⊢
  rw [iniEntry_eq_some nulFree (by simp) (by rwa [before]), before, behind,
    trim_blank_append (all_eq_true.mp rfl), trim_append_trailing trailing, trimmed]
  rfl

/-- A line without a key is left alone by every end that `trim` takes. -/
theorem iniEntry_append_trailing (nulFree : 0 ∉ line ++ back)
    (trailing : ∀ octet ∈ back, isTrailing octet)
    : iniEntry (line ++ back) = iniEntry line := by
  unfold iniEntry
  have lineFree : 0 ∉ line := fun member => nulFree (mem_append_left _ member)
  rw [cString_eq_self nulFree, cString_eq_self lineFree, trim_append_trailing trailing]

theorem iniValue_append_newline {key : Bytes} (nulFree : 0 ∉ line)
    : iniValue key (line ++ [10]) = iniValue key line := by
  unfold iniValue
  rw [iniEntry_append_trailing (by simp [nulFree]) (forall_mem_singleton.mpr rfl)]

theorem mem_of_mem_value {key : Bytes} (nulFree : 0 ∉ line) (found : iniValue key line = some value)
    {octet : UInt8} (member : octet ∈ value)
    : octet ∈ line := by
  obtain ⟨-, -, rfl⟩ := iniValue_eq_some nulFree found
  have behind := mem_of_mem_drop ((trim_sublist _).mem member)
  exact (dropWhile_sublist _).mem ((dropWhile_sublist _).mem behind)

/-- No value has a newline. -/
theorem newline_not_mem_value (readable : Readable 511 lines) (member : line ∈ lines)
    (nulFree : 0 ∉ line) {key : Bytes} (found : iniValue key line = some value)
    : 10 ∉ value := by
  have front := readable.noEnd_dropLast member
  rcases eq_nil_or_concat' line with rfl | ⟨body, last, rfl⟩
  · cases found
  · rw [dropLast_concat] at front
    by_cases newline : last = 10
    · subst newline
      have bodyFree : 0 ∉ body := fun inside => nulFree (mem_append_left _ inside)
      rw [iniValue_append_newline bodyFree] at found
      exact fun inside => front (mem_of_mem_value bodyFree found inside)
    · intro inside
      rcases mem_append.mp (mem_of_mem_value nulFree found inside) with early | end_
      · exact front early
      · exact newline (mem_singleton.mp end_).symm

theorem replaceRelay_eq_some {edited : List Bytes}
    (replaced : replaceRelay norm lines = some edited)
    : ∃ before line after,
        lines = before ++ line :: after
        ∧ (∀ other ∈ before, isRelayLine other = false)
        ∧ isRelayLine line
        ∧ edited = before ++ relayLine norm :: after := by
  induction lines generalizing edited with
  | nil => cases replaced
  | cons line rest ih =>
    rw [replaceRelay] at replaced
    split at replaced
    · next relay =>
        cases replaced
        exact ⟨[], line, rest, rfl, forall_mem_nil _, relay, rfl⟩
    · next other =>
        obtain ⟨edited, later, rfl⟩ := map_eq_some_iff.mp replaced
        obtain ⟨before, found, after, rfl, others, relay, rfl⟩ := ih later
        refine ⟨line :: before, found, after, rfl, ?_, relay, rfl⟩
        exact forall_mem_cons.mpr ⟨by simpa using other, others⟩

theorem replaceRelay_eq_none (replaced : replaceRelay norm lines = none)
    : ∀ line ∈ lines, isRelayLine line = false := by
  induction lines with
  | nil => exact forall_mem_nil _
  | cons line rest ih =>
    rw [replaceRelay] at replaced
    split at replaced
    · cases replaced
    · next other =>
        exact forall_mem_cons.mpr
          ⟨by simpa using other, ih (map_eq_none_iff.mp replaced)⟩

end SwitchLanPlay.Setup
