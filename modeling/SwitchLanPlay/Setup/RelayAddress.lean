import SwitchLanPlay.Sysmodule.Config

/-! The address that the setup app saves. `normalize_relay_for_save` takes host and port apart,
accepts four numbers with dots as `sscanf` reads them, and writes the host with a port behind it.
-/

namespace SwitchLanPlay.Setup

open List Option
open Foundation
open Server (utf8)
open Sysmodule

variable {text rest : Bytes}

variable {octet : UInt8}

def charColon : UInt8 := 58
def charDot : UInt8 := 46
def charPlus : UInt8 := 43
def charMinus : UInt8 := 45

def isSpace (octet : UInt8) : Bool := octet = 32 || (9 ≤ octet && octet ≤ 13)

def isDigit (octet : UInt8) : Bool := 48 ≤ octet && octet ≤ 57

def isSign (octet : UInt8) : Bool := octet = charPlus || octet = charMinus

def digitsValue (digits : Bytes) : Nat :=
  digits.foldl (fun value digit => 10 * value + (digit.toNat - 48)) 0

def skipSign (text : Bytes) : Bytes := if text.head?.any isSign then text.drop 1 else text

def scanNumber (text : Bytes) : Option (Bool × Nat × Bytes) :=
  let text := text.dropWhile isSpace
  let unsigned := skipSign text
  if unsigned.takeWhile isDigit = [] then none
  else
    some
      (text.head? = some charMinus,
        digitsValue (unsigned.takeWhile isDigit),
        unsigned.dropWhile isDigit)

/-- `%u` of `sscanf`: a number of 64 bits, which a larger one is cut to, stored in 32 bits. -/
def scanUnsigned (text : Bytes) : Option (UInt32 × Bytes) :=
  (scanNumber text).map fun (negative, value, rest) =>
    let wide : UInt64 :=
      if 2 ^ 64 ≤ value then UInt64.ofNat (2 ^ 64 - 1)
      else if negative then 0 - UInt64.ofNat value
      else UInt64.ofNat value
    (wide.toUInt32, rest)

/-- `atoi`: a number of 64 bits, which a larger one is cut to, and its lower 32 bits. -/
def atoi (text : Bytes) : Int :=
  match scanNumber text with
  | none => 0
  | some (negative, value, _) =>
    let wide : Int := if negative then max (-value) (-2 ^ 63) else min value (2 ^ 63 - 1)
    wide.bmod (2 ^ 32)

def scanDotted (text : Bytes) : Option (UInt32 × Bytes) := do
  let (value, rest) ← scanUnsigned text
  if rest.head? = some charDot then some (value, rest.drop 1) else none

def isIpv4Literal (host : Bytes) : Bool :=
  let scanned := do
    let (a, text) ← scanDotted host
    let (b, text) ← scanDotted text
    let (c, text) ← scanDotted text
    let (d, tail) ← scanUnsigned text
    return ([a, b, c, d], tail)
  match scanned with
  | none => false
  | some (numbers, tail) => tail = [] && numbers.all (· ≤ 255)

/-- `extract_host_port`, for a host buffer of `hostSz` octets. -/
def extractHostPort (addr : Bytes) (hostSz : Nat) : Bytes × Int :=
  if charColon ∈ addr then
    let behind := addr.rtakeWhile (· ≠ charColon)
    let hostLen := min (addr.length - behind.length - 1) (hostSz - 1)
    (addr.take hostLen, if atoi behind ≤ 0 then 11451 else atoi behind)
  else (addr.take (hostSz - 1), 11451)

def relayHost (addr : Bytes) : Bytes := (extractHostPort addr 128).1

def decimal (number : Int) : Bytes := (Nat.toDigits 10 number.toNat).map Char.toUInt8

def normalizeRelayForSave (addr : Bytes) (outSz : Nat) : Option Bytes :=
  let (host, port) := extractHostPort addr 128
  if host = [] then none
  else if !isIpv4Literal host then none
  else
    let port := if port ≤ 0 ∨ 65535 < port then 11451 else port
    some ((host ++ charColon :: decimal port).take (outSz - 1))

example : normalizeRelayForSave (utf8 "10.1.2.3:4294967297") 128 = some (utf8 "10.1.2.3:1") := by
  decide

example : normalizeRelayForSave (utf8 " 10.1. 2.3") 128 = some (utf8 " 10.1. 2.3:11451") := by
  decide

example : normalizeRelayForSave (utf8 "10.1.2.256") 128 = none := by
  decide

-- The characters of an address

def isHostChar (octet : UInt8) : Bool :=
  isSpace octet || isDigit octet || isSign octet || octet = charDot

/-- What a scan takes from a text: characters of a host, a digit last. -/
def Scans (text rest : Bytes) : Prop :=
  ∃ front digit, text = front ++ digit :: rest ∧ isDigit digit ∧ ∀ octet ∈ front, isHostChar octet

theorem isDigit_apart (digit : isDigit octet) : isSpace octet = false ∧ isSign octet = false := by
  simp only [isDigit, isSpace, isSign, charPlus, charMinus, Bool.and_eq_true, Bool.or_eq_false_iff,
    Bool.and_eq_false_iff, decide_eq_true_eq, decide_eq_false_iff_not, UInt8.le_iff_toNat_le,
    ← UInt8.toNat_inj, UInt8.reduceToNat] at digit ⊢
  omega

theorem isHostChar_of_isDigit {octet : UInt8} (digit : isDigit octet) : isHostChar octet := by
  simp [isHostChar, digit]

theorem scans_digits (some_ : text.takeWhile isDigit ≠ [])
    : Scans text (text.dropWhile isDigit) := by
  obtain ⟨front, digit, split⟩ := (eq_nil_or_concat' (text.takeWhile isDigit)).resolve_left some_
  have digits : ∀ octet ∈ text.takeWhile isDigit, isDigit octet :=
    fun octet member => mem_takeWhile_imp member
  rw [split] at digits
  refine ⟨front, digit, ?_, digits digit (by simp), fun octet member => ?_⟩
  · rw [← singleton_append, ← append_assoc, ← split, takeWhile_append_dropWhile]
  · exact isHostChar_of_isDigit (digits octet (by simp [member]))

theorem Scans.append_left {front : Bytes} (hostChars : ∀ octet ∈ front, isHostChar octet)
    (scans : Scans text rest)
    : Scans (front ++ text) rest := by
  obtain ⟨middle, digit, rfl, last, inside⟩ := scans
  refine ⟨front ++ middle, digit, by rw [append_assoc], last, fun octet member => ?_⟩
  exact (mem_append.mp member).elim (hostChars octet) (inside octet)

/-- A sign is a character of a host. -/
theorem exists_skipSign (text : Bytes)
    : ∃ sign, text = sign ++ skipSign text ∧ ∀ octet ∈ sign, isHostChar octet := by
  unfold skipSign
  cases text with
  | nil => exact ⟨[], rfl, forall_mem_nil _⟩
  | cons octet text =>
    cases sign : isSign octet with
    | false => exact ⟨[], by simp [sign], forall_mem_nil _⟩
    | true => exact ⟨[octet], by simp [sign], by simp [isHostChar, sign]⟩

theorem scans_of_scanNumber {negative : Bool} {value : Nat}
    (scanned : scanNumber text = some (negative, value, rest))
    : Scans text rest := by
  unfold scanNumber at scanned
  dsimp only at scanned
  split at scanned
  · cases scanned
  · next some_ =>
      cases scanned
      have space : ∀ octet ∈ text.takeWhile isSpace, isHostChar octet := by
        intro octet member
        have space := mem_takeWhile_imp member
        simp [isHostChar, space]
      obtain ⟨sign, split, signChars⟩ := exists_skipSign (text.dropWhile isSpace)
      have scans := ((scans_digits some_).append_left signChars).append_left space
      rwa [← split, takeWhile_append_dropWhile] at scans

theorem scans_of_scanUnsigned {value : UInt32} (scanned : scanUnsigned text = some (value, rest))
    : Scans text rest := by
  obtain ⟨⟨negative, number, rest⟩, found, same⟩ := map_eq_some_iff.mp scanned
  cases same
  exact scans_of_scanNumber found

theorem scanDotted_eq_some {value : UInt32} (scanned : scanDotted text = some (value, rest))
    : ∃ front, text = front ++ rest ∧ ∀ octet ∈ front, isHostChar octet := by
  unfold scanDotted at scanned
  obtain ⟨⟨number, dotted⟩, found, dot⟩ := bind_eq_some_iff.mp scanned
  obtain ⟨front, digit, rfl, last, inside⟩ := scans_of_scanUnsigned found
  dsimp only at dot
  split at dot
  · next head =>
      cases dot
      obtain ⟨behind, rfl⟩ := head?_eq_some_iff.mp head
      refine ⟨front ++ [digit, charDot], by simp, fun octet member => ?_⟩
      simp only [mem_append, mem_cons, not_mem_nil, or_false] at member
      rcases member with member | rfl | rfl
      · exact inside octet member
      · exact isHostChar_of_isDigit last
      · rfl
  · cases dot

/-- An accepted host has only characters of numbers, and ends with a digit. -/
theorem scans_of_isIpv4Literal {host : Bytes} (accepted : isIpv4Literal host) : Scans host [] := by
  unfold isIpv4Literal at accepted
  dsimp only at accepted
  split at accepted
  · cases accepted
  · next numbers tail scanned =>
      rw [Bool.and_eq_true, decide_eq_true_eq] at accepted
      obtain ⟨⟨a, text⟩, first, scanned⟩ := bind_eq_some_iff.mp scanned
      obtain ⟨⟨b, text⟩, second, scanned⟩ := bind_eq_some_iff.mp scanned
      obtain ⟨⟨c, text⟩, third, scanned⟩ := bind_eq_some_iff.mp scanned
      obtain ⟨⟨d, tail⟩, fourth, scanned⟩ := bind_eq_some_iff.mp scanned
      cases scanned
      obtain rfl := accepted.1
      obtain ⟨_, rfl, firstChars⟩ := scanDotted_eq_some first
      obtain ⟨_, rfl, secondChars⟩ := scanDotted_eq_some second
      obtain ⟨_, rfl, thirdChars⟩ := scanDotted_eq_some third
      exact (((scans_of_scanUnsigned fourth).append_left thirdChars).append_left
        secondChars).append_left firstChars

theorem isDigit_of_mem_decimal {number : Int} (member : octet ∈ decimal number)
    : isDigit octet := by
  obtain ⟨char, inside, rfl⟩ := mem_map.mp member
  have digit := Nat.isDigit_of_mem_toDigits (by decide) (by decide) inside
  rw [Char.isDigit_iff_toNat] at digit
  change 48 ≤ char.toNat ∧ char.toNat ≤ 57 at digit
  have value : char.toUInt8.toNat = char.toNat := by
    change char.toNat % 256 = char.toNat
    omega
  simp only [isDigit, Bool.and_eq_true, decide_eq_true_eq, UInt8.le_iff_toNat_le, value]
  exact digit

theorem relayHost_isPrefix (addr : Bytes) : relayHost addr <+: addr := by
  unfold relayHost extractHostPort
  split
  · exact take_prefix _ _
  · exact take_prefix _ _

theorem length_relayHost_le (addr : Bytes) : (relayHost addr).length ≤ 127 := by
  unfold relayHost extractHostPort
  split
  · dsimp only
    rw [length_take]
    omega
  · dsimp only
    rw [length_take]
    omega

/-- What a saved address looks like: the host and the front of a colon and a port. -/
structure SavedAddress (addr norm : Bytes) : Prop where
  host : relayHost addr <+: norm
  host_ne_nil : relayHost addr ≠ []
  length_le : norm.length ≤ 127
  chars : ∀ octet ∈ norm, isHostChar octet ∨ octet = charColon
  last : ∃ front octet, norm = front ++ [octet] ∧ (isDigit octet ∨ octet = charColon)
  newline : 10 ∈ norm → 10 ∈ relayHost addr

/-- An accepted host with a cut port behind it. -/
theorem savedAddress_append {addr back : Bytes} (literal : isIpv4Literal (relayHost addr))
    (fits : (relayHost addr ++ back).length ≤ 127)
    (port : ∀ octet ∈ back, isDigit octet ∨ octet = charColon)
    : SavedAddress addr (relayHost addr ++ back) := by
  obtain ⟨front, digit, split, last, inside⟩ := scans_of_isIpv4Literal literal
  have hostChars : ∀ octet ∈ relayHost addr, isHostChar octet := by
    intro octet member
    rw [split, mem_append, mem_singleton] at member
    rcases member with member | rfl
    · exact inside octet member
    · exact isHostChar_of_isDigit last
  refine ⟨prefix_append _ _, by simp [split], fits, fun octet member => ?_, ?_, ?_⟩
  · rcases mem_append.mp member with member | member
    · exact .inl (hostChars octet member)
    · exact (port octet member).imp_left isHostChar_of_isDigit
  · rcases eq_nil_or_concat' back with rfl | ⟨middle, octet, rfl⟩
    · exact ⟨front, digit, by rw [append_nil, split], .inl last⟩
    · exact ⟨relayHost addr ++ middle, octet, by rw [append_assoc],
        port octet (mem_append_right _ (mem_singleton_self _))⟩
  · intro member
    refine (mem_append.mp member).resolve_right fun member => ?_
    rcases port 10 member with digit | colon
    · cases digit
    · cases colon

theorem savedAddress_of_normalize {addr norm : Bytes}
    (accepted : normalizeRelayForSave addr 128 = some norm)
    : SavedAddress addr norm := by
  unfold normalizeRelayForSave at accepted
  dsimp only at accepted
  split at accepted
  · cases accepted
  · split at accepted
    · cases accepted
    · next literal =>
        rw [Bool.not_eq_true', Bool.not_eq_false] at literal
        rw [Option.some.injEq] at accepted
        rw [← accepted]
        have host : (extractHostPort addr 128).1 = relayHost addr := rfl
        rw [host] at literal ⊢
        have short := length_relayHost_le addr
        rw [take_append, take_of_length_le (by omega)]
        refine savedAddress_append literal ?_ fun octet member => ?_
        · rw [length_append, length_take]
          omega
        · rcases mem_cons.mp (mem_of_mem_take member) with rfl | digit
          · exact .inr rfl
          · exact .inl (isDigit_of_mem_decimal digit)

structure LoadableAddress (norm : Bytes) : Prop where
  ne_nil : norm ≠ []
  length_le : norm.length ≤ 127
  nulFree : 0 ∉ norm
  noEquals : charEquals ∉ norm
  noNewline : 10 ∉ norm
  trimmed : trim norm = norm

section Saved

variable {addr norm : Bytes} (saved : SavedAddress addr norm)
include saved

namespace SavedAddress

theorem ne_nil : norm ≠ [] := by
  rintro rfl
  exact saved.host_ne_nil (prefix_nil.mp saved.host)

theorem not_mem (other : isHostChar octet = false) (noColon : octet ≠ charColon)
    : octet ∉ norm := by
  intro member
  rcases saved.chars octet member with host | colon
  · rw [other] at host
    cases host
  · exact noColon colon

theorem head? : norm.head? = addr.head? := by
  obtain ⟨first, rest, host⟩ := exists_cons_of_ne_nil saved.host_ne_nil
  obtain ⟨normBack, normEq⟩ := saved.host
  obtain ⟨addrBack, addrEq⟩ := relayHost_isPrefix addr
  rw [host] at normEq addrEq
  rw [← normEq, ← addrEq]
  rfl

/-- A saved address is read back as it is unless it starts with a blank. -/
theorem trim_eq (head : ∀ octet ∈ addr.head?, isBlank octet = false) : trim norm = norm := by
  rw [trim_of_head (by rwa [saved.head?])]
  obtain ⟨front, octet, rfl, last⟩ := saved.last
  refine rdropWhile_concat_neg _ _ _ fun trailing => ?_
  simp only [isTrailing, isBlank, Bool.or_eq_true, decide_eq_true_eq] at trailing
  rcases trailing with ((rfl | rfl) | rfl) | rfl <;> rcases last with last | last <;> cases last

theorem loadable (head : ∀ octet ∈ addr.head?, isBlank octet = false)
    (newline : 10 ∉ relayHost addr)
    : LoadableAddress norm where
  ne_nil := saved.ne_nil
  length_le := saved.length_le
  nulFree := saved.not_mem rfl (by decide)
  noEquals := saved.not_mem rfl (by decide)
  noNewline := fun member => newline (saved.newline member)
  trimmed := saved.trim_eq head

end SavedAddress

end Saved

end SwitchLanPlay.Setup
