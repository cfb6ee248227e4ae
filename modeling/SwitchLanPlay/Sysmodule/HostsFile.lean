import SwitchLanPlay.Setup.RelayAddress

/-! The file of host names. `cache_host_mapping` edits its lines, at most 64 of them, and
`resolve_from_hosts_file` looks names up in it.
-/

namespace SwitchLanPlay.Sysmodule

open List Option
open Foundation
open Setup
open Server (utf8)

/-- `%s` of `sscanf` with a width: a word behind white space, and what follows. -/
def scanWord (width : Nat) (text : Bytes) : Option (Bytes × Bytes) :=
  let text := text.dropWhile isSpace
  let word := (text.takeWhile (!isSpace ·)).take width
  if word = [] then none else some (word, text.drop word.length)

def hostsEntry (line : Bytes) : Option (Bytes × Bytes) := do
  let (ip, rest) ← scanWord 63 (cString line)
  let (name, _) ← scanWord 127 rest
  return (ip, name)

def dotted (a b c d : Nat) : Bytes :=
  decimal a ++ charDot :: (decimal b ++ charDot :: (decimal c ++ charDot :: decimal d))

/-- `inet_pton` for IPv4: numbers of at most 255 without leading zeros. -/
def inetPton (text : Bytes) : Option (List Nat) :=
  match (text.splitOn charDot).map digitsValue with
  | [a, b, c, d] =>
    if (a ≤ 255 ∧ b ≤ 255 ∧ c ≤ 255 ∧ d ≤ 255) ∧ dotted a b c d = text then some [a, b, c, d]
    else none
  | _ => none

def hostsLines (file : Option Bytes) : List Bytes := file.elim [] (fgetsAll 255)

def resolveLine (host line : Bytes) : Option (List Nat) :=
  if line.head? = some charHash ∨ line.head? = some 10 ∨ line.head? = some 13 then none
  else
    match hostsEntry line with
    | none => none
    | some (ip, name) => if name = host then inetPton ip else none

def resolveFromHostsFile (file : Option Bytes) (host : Bytes) : Option (List Nat) :=
  (hostsLines file).findSome? (resolveLine host)

def names (host line : Bytes) : Bool := (hostsEntry line).map Prod.snd = some host

def hostText (ip host : Bytes) : Bytes := ip ++ 32 :: host

def hostLine (ip host : Bytes) : Bytes := (hostText ip host ++ [10]).take 255

def cacheHostMapping (file : Option Bytes) (host ip : Bytes) : Bytes :=
  let lines := (hostsLines file).take 64
  let edited := lines.map fun line => if names host line then hostLine ip host else line
  let found := lines.any (names host)
  let written := if !found ∧ lines.length < 64 then edited ++ [hostLine ip host] else edited
  (written.map cString).flatten

-- Words

/-- A word of a C string, of at most `size` characters. -/
structure IsWord (size : Nat) (text : Bytes) : Prop where
  some_ : text ≠ []
  length : text.length ≤ size
  letters : ∀ octet ∈ text, isSpace octet = false
  nulFree : 0 ∉ text

variable {front word text rest line host ip : Bytes} {addr : List Nat} {width : Nat}

def letters (text : Bytes) : Nat := text.countP (!isSpace ·)

theorem letters_of_spaces (spaces : ∀ octet ∈ front, isSpace octet) : letters front = 0 :=
  countP_eq_zero.mpr fun octet member => by simp [spaces octet member]

theorem IsWord.letters_eq (word : IsWord width text) : Sysmodule.letters text = text.length :=
  countP_eq_length.mpr fun octet member => by simp [word.letters octet member]

theorem scanWord_eq_some (scanned : scanWord width text = some (word, rest))
    : ∃ front,
        text = front ++ (word ++ rest)
        ∧ (∀ octet ∈ front, isSpace octet)
        ∧ word ≠ []
        ∧ ∀ octet ∈ word, isSpace octet = false := by
  unfold scanWord at scanned
  dsimp only at scanned
  split at scanned
  · cases scanned
  · next some_ =>
      cases scanned
      refine ⟨text.takeWhile isSpace, ?_, fun octet => mem_takeWhile_imp, some_, ?_⟩
      · have isFront := (List.take_prefix width _).trans
          (List.takeWhile_prefix (!isSpace ·) (l := text.dropWhile isSpace))
        rw [prefix_iff_eq_append.mp isFront, takeWhile_append_dropWhile]
      · intro octet member
        have letter := mem_takeWhile_imp (mem_of_mem_take member)
        simpa using letter

theorem scanWord_append (spaces : ∀ octet ∈ front, isSpace octet) (word : IsWord width text)
    (ends : ∀ octet ∈ rest.head?, isSpace octet)
    : scanWord width (front ++ (text ++ rest)) = some (text, rest) := by
  have letters : ∀ octet ∈ text, (!isSpace octet) = true := by simpa using word.letters
  have behind : (text ++ rest).dropWhile isSpace = text ++ rest := by
    obtain ⟨octet, more, rfl⟩ := exists_cons_of_ne_nil word.some_
    exact dropWhile_cons_of_neg (by simp [word.letters octet mem_cons_self])
  have none : rest.takeWhile (!isSpace ·) = [] := by
    cases rest with
    | nil => rfl
    | cons octet rest => exact takeWhile_cons_of_neg (by simp [ends octet rfl])
  rw [scanWord, dropWhile_append_of_pos spaces, behind, takeWhile_append_of_pos letters,
    none, append_nil, take_of_length_le word.length, if_neg word.some_, drop_left]

/-- Both words of an entry stand in its line, the address first. -/
theorem hostsEntry_eq_some {name : Bytes} (nulFree : 0 ∉ line)
    (found : hostsEntry line = some (ip, name))
    : ip.length + name.length ≤ letters line
      ∧ ip.head? = (line.dropWhile isSpace).head? := by
  rw [hostsEntry, cString_eq_self nulFree] at found
  obtain ⟨⟨word, rest⟩, first, found⟩ := bind_eq_some_iff.mp found
  obtain ⟨⟨other, behind⟩, second, same⟩ := bind_eq_some_iff.mp found
  cases same
  obtain ⟨blanks, rfl, spaces, some_, word⟩ := scanWord_eq_some first
  obtain ⟨gap, rfl, gapSpaces, -, other⟩ := scanWord_eq_some second
  constructor
  · have one : letters ip = ip.length := countP_eq_length.mpr (by simpa using word)
    have two : letters name = name.length := countP_eq_length.mpr (by simpa using other)
    simp only [letters, countP_append] at one two ⊢
    omega
  · obtain ⟨octet, more, rfl⟩ := exists_cons_of_ne_nil some_
    rw [dropWhile_append_of_pos spaces,
      cons_append, dropWhile_cons_of_neg (by simp [word octet mem_cons_self])]
    rfl

/-- The entry of a host's line, also behind white space and with any end. -/
theorem hostsEntry_hostText (spaces : ∀ octet ∈ front, isSpace octet)
    (trailing : ∀ octet ∈ rest, isSpace octet) (address : IsWord 63 ip) (name : IsWord 127 host)
    (nulFree : 0 ∉ front ++ (hostText ip host ++ rest))
    : hostsEntry (front ++ (hostText ip host ++ rest)) = some (ip, host) := by
  have split : front ++ (hostText ip host ++ rest) = front ++ (ip ++ ([32] ++ (host ++ rest))) := by
    simp [hostText]
  have ends : ∀ octet ∈ rest.head?, isSpace octet :=
    fun octet head => trailing octet (mem_of_mem_head? head)
  rw [hostsEntry, cString_eq_self nulFree, split, scanWord_append spaces address (by simp; rfl)]
  dsimp only [bind, Option.bind]
  rw [scanWord_append (by simp; rfl) name ends]
  rfl

-- Addresses

theorem inetPton_eq_some (parsed : inetPton ip = some addr)
    : ∃ a b c d,
        addr = [a, b, c, d]
        ∧ ip = dotted a b c d
        ∧ a ≤ 255 ∧ b ≤ 255 ∧ c ≤ 255 ∧ d ≤ 255 := by
  unfold inetPton at parsed
  split at parsed
  · next a b c d _ =>
      split at parsed
      · next accepted =>
          cases parsed
          exact ⟨a, b, c, d, rfl, accepted.2.symm, accepted.1⟩
      · cases parsed
  · cases parsed

theorem inetPton_inj {other : Bytes} (parsed : inetPton ip = some addr)
    (same : inetPton other = some addr)
    : other = ip := by
  obtain ⟨a, b, c, d, rfl, rfl, -⟩ := inetPton_eq_some parsed
  obtain ⟨a, b, c, d, values, rfl, -⟩ := inetPton_eq_some same
  cases values
  rfl

theorem mem_dotted {a b c d : Nat} {octet : UInt8} (member : octet ∈ dotted a b c d)
    : isDigit octet ∨ octet = charDot := by
  simp only [dotted, mem_append, mem_cons] at member
  rcases member with digit | dot | digit | dot | digit | dot | digit
  all_goals first | exact .inl (isDigit_of_mem_decimal digit) | exact .inr dot

theorem length_decimal_le {number : Nat} (small : number ≤ 255) : (decimal number).length ≤ 3 := by
  rw [decimal, length_map]
  exact (Nat.length_toDigits_le_iff (by decide) (by decide)).mpr (by simp; omega)

theorem isWord_of_inetPton (parsed : inetPton ip = some addr)
    : IsWord 15 ip ∧ ∀ octet ∈ ip, octet ≠ charHash := by
  obtain ⟨a, b, c, d, -, rfl, small⟩ := inetPton_eq_some parsed
  have chars {octet : UInt8} (member : octet ∈ dotted a b c d)
      : isSpace octet = false ∧ octet ≠ 0 ∧ octet ≠ charHash := by
    rcases mem_dotted member with digit | rfl
    · refine ⟨(isDigit_apart digit).1, ?_, ?_⟩
      · rintro rfl
        cases digit
      · rintro rfl
        cases digit
    · decide
  refine ⟨⟨?_, ?_, fun octet member => (chars member).1, fun member => (chars member).2.1 rfl⟩,
    fun octet member => (chars member).2.2⟩
  · simp [dotted]
  · have := length_decimal_le small.1
    have := length_decimal_le small.2.1
    have := length_decimal_le small.2.2.1
    have := length_decimal_le small.2.2.2
    simp only [dotted, length_append, length_cons]
    omega

-- Lines

theorem resolveLine_of_not_names (host line : Bytes) (other : names host line = false)
    : resolveLine host line = none := by
  unfold resolveLine
  split
  · rfl
  · cases found : hostsEntry line with
    | none => rfl
    | some entry =>
      rw [names, found] at other
      exact if_neg (by simpa using other)

theorem resolveLine_eq_some (resolved : resolveLine host line = some addr)
    : line.head? ≠ some 13 ∧ ∃ ip, hostsEntry line = some (ip, host) ∧ inetPton ip = some addr := by
  unfold resolveLine at resolved
  split at resolved
  · cases resolved
  · next plain =>
      cases found : hostsEntry line with
      | none =>
        rw [found] at resolved
        cases resolved
      | some entry =>
        rw [found] at resolved
        dsimp only at resolved
        split at resolved
        · next same => exact ⟨fun ret => plain (.inr (.inr ret)), entry.1, by rw [← same], resolved⟩
        · cases resolved

section Cached

variable (parsed : inetPton ip = some addr) (name : IsWord 127 host)
include parsed name

theorem hostText_facts
    : 0 ∉ hostText ip host
      ∧ 10 ∉ hostText ip host
      ∧ (hostText ip host).length = ip.length + 1 + host.length
      ∧ (hostText ip host).length ≤ 143
      ∧ hostLine ip host = hostText ip host ++ [10] := by
  obtain ⟨address, -⟩ := isWord_of_inetPton parsed
  have length : (hostText ip host).length = ip.length + 1 + host.length := by
    simp [hostText]
    omega
  have most := address.length
  have more := name.length
  refine ⟨?_, ?_, length, by omega, take_of_length_le ?_⟩
  · simp only [hostText, mem_append, mem_cons, not_or]
    exact ⟨address.nulFree, by decide, name.nulFree⟩
  · simp only [hostText, mem_append, mem_cons, not_or]
    exact ⟨fun member => (nomatch address.letters 10 member), by decide,
      fun member => (nomatch name.letters 10 member)⟩
  · rw [length_append, length_singleton]
    omega

/-- What a host's line says, also behind white space and with any end. -/
theorem resolveLine_hostText (spaces : ∀ octet ∈ front, isSpace octet)
    (head : ∀ octet ∈ front.head?, octet ≠ 10 ∧ octet ≠ 13)
    (trailing : ∀ octet ∈ rest, isSpace octet) (nulFree : 0 ∉ front ++ (hostText ip host ++ rest))
    (other : Bytes)
    : resolveLine other (front ++ (hostText ip host ++ rest))
      = if host = other then some addr else none := by
  obtain ⟨address, plain⟩ := isWord_of_inetPton parsed
  have wide : IsWord 63 ip := { address with length := Nat.le_trans address.length (by decide) }
  have starts : ∀ octet ∈ (front ++ (hostText ip host ++ rest)).head?,
      octet ≠ charHash ∧ octet ≠ 10 ∧ octet ≠ 13 := by
    intro octet first
    cases front with
    | nil =>
      obtain ⟨digit, more, rfl⟩ := exists_cons_of_ne_nil address.some_
      cases first
      have letter := address.letters octet mem_cons_self
      refine ⟨plain octet mem_cons_self, ?_, ?_⟩
      · rintro rfl
        cases letter
      · rintro rfl
        cases letter
    | cons blank front =>
      cases first
      refine ⟨?_, head octet rfl⟩
      rintro rfl
      cases spaces charHash mem_cons_self
  rw [resolveLine, if_neg, hostsEntry_hostText spaces trailing wide name nulFree]
  · dsimp only
    rw [parsed]
  · rintro (hash | newline | ret)
    · exact (starts _ hash).1 rfl
    · exact (starts _ newline).2.1 rfl
    · exact (starts _ ret).2.2 rfl

theorem resolveLine_hostLine (other : Bytes)
    : resolveLine other (hostLine ip host) = if host = other then some addr else none := by
  obtain ⟨nulFree, -, -, -, line⟩ := hostText_facts parsed name
  rw [line]
  refine @resolveLine_hostText [] [10] _ _ _ parsed name (forall_mem_nil _) (by simp)
    (forall_mem_singleton.mpr rfl) ?_ other
  simp [nulFree]

theorem fullLine_hostLine : FullLine 255 (hostLine ip host) := by
  obtain ⟨-, noEnd, -, most, line⟩ := hostText_facts parsed name
  exact ⟨_, 10, line, noEnd, Nat.lt_of_le_of_lt most (by decide), .inl rfl⟩

/-- What the edited lines say. -/
theorem findSome?_edited (lines : List Bytes) (other : Bytes)
    : (lines.map fun line => if names host line then hostLine ip host else line).findSome?
          (resolveLine other)
      = if host = other ∧ lines.any (names host) then some addr
        else lines.findSome? (resolveLine other) := by
  induction lines with
  | nil => simp
  | cons line lines ih =>
    rw [map_cons, findSome?_cons, findSome?_cons, any_cons, ih]
    by_cases named : names host line
    · rw [if_pos named, resolveLine_hostLine parsed name, named, Bool.true_or]
      by_cases same : host = other
      · simp [same]
      · have none := resolveLine_of_not_names other line (by
          rw [names, decide_eq_true_eq] at named
          rw [names, decide_eq_false_iff_not, named]
          simpa using same)
        simp [same, none]
    · rw [if_neg named, Bool.eq_false_iff.mpr named, Bool.false_or]
      by_cases same : host = other
      · rw [← same, resolveLine_of_not_names host line (by simpa using named)]
      · simp [same]

end Cached

-- The file

variable {lines : List Bytes} {last : Bytes}

def cachedLines (lines : List Bytes) (host ip : Bytes) : List Bytes :=
  let edited := lines.map fun line => if names host line then hostLine ip host else line
  if lines.any (names host) = false ∧ lines.length < 64 then edited ++ [hostLine ip host]
  else edited

section Written

variable (parsed : inetPton ip = some addr) (name : IsWord 127 host)
include parsed name

theorem cacheHostMapping_eq {file : Option Bytes} (nulFree : ∀ line ∈ hostsLines file, 0 ∉ line)
    : cacheHostMapping file host ip
      = (cachedLines ((hostsLines file).take 64) host ip).flatten := by
  obtain ⟨textFree, -, -, -, line⟩ := hostText_facts parsed name
  have own : 0 ∉ hostLine ip host := by simp [line, textFree]
  have edited : ∀ line ∈ ((hostsLines file).take 64).map fun line =>
      if names host line then hostLine ip host else line, 0 ∉ line := by
    refine forall_mem_map.mpr fun line member => ?_
    split
    · exact own
    · exact nulFree line (mem_of_mem_take member)
  have free : ∀ line ∈ cachedLines ((hostsLines file).take 64) host ip, 0 ∉ line := by
    unfold cachedLines
    dsimp only
    split
    · exact forall_mem_append.mpr ⟨edited, forall_mem_singleton.mpr own⟩
    · exact edited
  have same : (cachedLines ((hostsLines file).take 64) host ip).map cString
      = cachedLines ((hostsLines file).take 64) host ip :=
    (map_congr_left fun line member => cString_eq_self (free line member)).trans (map_id' _)
  rw [← same]
  simp [cacheHostMapping, cachedLines]

/-- A host that the lines name is replaced in them. -/
theorem findSome?_cached_named (readable : Readable 255 lines) (named : lines.any (names host))
    (other : Bytes)
    : (fgetsAll 255 (cachedLines lines host ip).flatten).findSome? (resolveLine other)
      = if host = other then some addr else lines.findSome? (resolveLine other) := by
  have edited : Readable 255 (lines.map fun line =>
      if names host line then hostLine ip host else line) := by
    refine readable.map fun line => ?_
    split
    · exact .inr (fullLine_hostLine parsed name)
    · exact .inl rfl
  rw [cachedLines, if_neg (by simp [named]), edited.fgetsAll_flatten,
    findSome?_edited parsed name, named]
  simp

omit parsed name in
theorem cachedLines_of_not_named (absent : lines.any (names host) = false)
    : cachedLines lines host ip
      = if lines.length < 64 then lines ++ [hostLine ip host] else lines := by
  have same : (lines.map fun line => if names host line then hostLine ip host else line) = lines :=
    (map_congr_left fun line member => if_neg (by
      simpa using any_eq_false.mp absent line member)).trans (map_id' _)
  simp only [cachedLines, same, absent, true_and]

omit parsed name in
theorem findSome?_not_named (absent : lines.any (names host) = false)
    : lines.findSome? (resolveLine host) = none :=
  findSome?_eq_none_iff.mpr fun line member =>
    resolveLine_of_not_names host line (by simpa using any_eq_false.mp absent line member)

/-- A blank line without an end, and the host's line behind it. -/
theorem findSome?_blank (noEnd : 10 ∉ last) (nulFree : 0 ∉ last)
    (blank : ∀ octet ∈ last, isSpace octet) (head : last.head? ≠ some 13)
    (fits : last.length + (hostText ip host).length ≤ 255) (other : Bytes)
    : (fgetsAll 255 (last ++ hostLine ip host)).findSome? (resolveLine other)
      = if host = other then some addr else none := by
  obtain ⟨textFree, textNoEnd, -, -, line⟩ := hostText_facts parsed name
  have starts : ∀ octet ∈ last.head?, octet ≠ 10 ∧ octet ≠ 13 := by
    rintro octet first
    refine ⟨?_, ?_⟩
    · rintro rfl
      exact noEnd (mem_of_mem_head? first)
    · rintro rfl
      exact head first
  have tells {ending : Bytes} (spaces : ∀ octet ∈ ending, isSpace octet) (free : 0 ∉ ending)
      : resolveLine other (last ++ (hostText ip host ++ ending))
        = if host = other then some addr else none :=
    resolveLine_hostText parsed name blank starts spaces (by simp [nulFree, textFree, free]) other
  rw [← length_append] at fits
  rw [line, ← append_assoc, fgetsAll_append_newline (by simp [noEnd, textNoEnd]) (by omega)]
  split
  · rw [findSome?_singleton, append_assoc]
    exact tells (by simp; rfl) (by decide)
  · next long =>
      rw [take_of_length_le fits, drop_eq_nil_of_le fits, nil_append,
        ← append_nil (hostText ip host), findSome?_cons, tells (by simp) (by simp)]
      split
      · next found => exact found.symm
      · next none => exact none.symm

/-- What a line says that the host's line runs into. -/
theorem runs_on {ending : Bytes} {count : Nat} (some_ : last ≠ [])
    (spaces : ∀ octet ∈ ending, isSpace octet)
    (nulFree : 0 ∉ last ++ ((hostText ip host).take count ++ ending))
    (resolved : resolveLine host (last ++ ((hostText ip host).take count ++ ending)) = some addr)
    : ip.head? = (last.dropWhile isSpace).head?
      ∨ ((∀ octet ∈ last, isSpace octet)
        ∧ last.head? ≠ some 13
        ∧ (hostText ip host).length ≤ count) := by
  obtain ⟨head, found, entry, same⟩ := resolveLine_eq_some resolved
  cases inetPton_inj parsed same
  obtain ⟨count_, first⟩ := hostsEntry_eq_some nulFree entry
  by_cases blank : ∀ octet ∈ last, isSpace octet
  · refine .inr ⟨blank, ?_, Nat.le_of_not_lt fun short => ?_⟩
    · obtain ⟨octet, more, rfl⟩ := exists_cons_of_ne_nil some_
      exact head
    · -- The host's last character is missing.
      obtain ⟨address, -⟩ := isWord_of_inetPton parsed
      rcases eq_nil_or_concat' host with rfl | ⟨body, letter, rfl⟩
      · exact name.some_ rfl
      have split : hostText ip (body ++ [letter]) = (ip ++ 32 :: body) ++ [letter] := by
        simp [hostText]
      rw [split, length_append, length_singleton] at short
      rw [split, take_append_of_le_length (by omega)] at count_
      have most : letters ((ip ++ 32 :: body).take count) ≤ letters (ip ++ 32 :: body) :=
        (take_sublist _ _).countP_le
      have one : isSpace 32 = true := rfl
      have body_ := @countP_le_length _ (!isSpace ·) body
      have word := address.letters_eq
      have before := letters_of_spaces blank
      have behind := letters_of_spaces spaces
      simp only [letters, countP_append, countP_cons, one, length_append,
        length_singleton] at *
      simp at most
      omega
  · have begun : last.dropWhile isSpace ≠ [] := mt dropWhile_eq_nil_iff.mp blank
    rw [dropWhile_append, if_neg (mt List.isEmpty_iff.mp begun),
      head?_append_of_ne_nil _ begun] at first
    exact .inl first

/-- The host's line behind a line without an end. -/
theorem fits_of_resolved (some_ : last ≠ []) (noEnd : 10 ∉ last) (short : last.length < 255)
    (nulFree : 0 ∉ last)
    (resolved : (fgetsAll 255 (last ++ hostLine ip host)).findSome? (resolveLine host) = some addr)
    : ip.head? = (last.dropWhile isSpace).head?
      ∨ ((∀ octet ∈ last, isSpace octet)
        ∧ last.head? ≠ some 13
        ∧ last.length + (hostText ip host).length ≤ 255) := by
  obtain ⟨textFree, textNoEnd, length, most, line⟩ := hostText_facts parsed name
  obtain ⟨address, -⟩ := isWord_of_inetPton parsed
  rw [line, ← append_assoc, fgetsAll_append_newline (by simp [noEnd, textNoEnd])
    (by rw [length_append]; omega)] at resolved
  obtain ⟨piece, member, resolved⟩ := exists_of_findSome?_eq_some resolved
  have taken {count : Nat} : 0 ∉ (hostText ip host).take count :=
    fun member => textFree (mem_of_mem_take member)
  split at member
  · next fits =>
      rw [length_append] at fits
      rw [mem_singleton.mp member, append_assoc,
        ← take_length (l := hostText ip host)] at resolved
      have runs := runs_on parsed name some_ (by simp; rfl) (by simp [nulFree, textFree]) resolved
      exact runs.imp_right fun ⟨blank, head, _⟩ => ⟨blank, head, by omega⟩
  · next long =>
      rcases mem_pair.mp member with rfl | rfl
      · rw [take_append, take_of_length_le (Nat.le_of_lt short),
          ← append_nil (take _ (hostText ip host))] at resolved
        refine (runs_on parsed name some_ (by simp) (by simp [nulFree, taken]) resolved).imp_right
          fun ⟨blank, head, _⟩ => ⟨blank, head, by omega⟩
      · -- The address has lost its first character.
        obtain ⟨-, found, entry, same⟩ := resolveLine_eq_some resolved
        cases inetPton_inj parsed same
        have free : 0 ∉ (last ++ hostText ip host).drop 255 ++ [10] := by
          refine not_mem_append (fun member => ?_) (by decide)
          rcases mem_append.mp (mem_of_mem_drop member) with inside | inside
          · exact nulFree inside
          · exact textFree inside
        obtain ⟨enough, -⟩ := hostsEntry_eq_some free entry
        have behind : letters ((hostText ip host).drop (255 - last.length))
            ≤ letters ((hostText ip host).drop 1) := (drop_sublist_drop_left _ (by omega)).countP_le
        have most : letters ((hostText ip host).drop 1) < ip.length + host.length := by
          obtain ⟨octet, more, rfl⟩ := exists_cons_of_ne_nil address.some_
          have tail := @countP_le_length _ (!isSpace ·) more
          have word := @countP_le_length _ (!isSpace ·) host
          have blank : isSpace 32 = true := rfl
          simp [hostText, letters, blank]
          omega
        rw [drop_append, drop_eq_nil_of_le (Nat.le_of_lt short), nil_append,
          letters, countP_append] at enough
        simp only [letters] at behind most
        have newline : isSpace 10 = true := rfl
        simp [newline] at enough
        omega

end Written

/-- Any line for a host can stand behind this one. -/
def LeavesRoom (host last : Bytes) : Prop :=
  FullLine 255 last
  ∨ ((∀ octet ∈ last, isSpace octet) ∧ last.head? ≠ some 13 ∧ last.length + host.length ≤ 239)

/-- The first 64 lines name the host and say of other hosts all that the file says, or the file
has room for a line.
-/
def HasRoom (lines : List Bytes) (host : Bytes) : Prop :=
  if (lines.take 64).any (names host) then
    ∀ other ≠ host,
      (lines.take 64).findSome? (resolveLine other) = none
      → (lines.drop 64).findSome? (resolveLine other) = none
  else lines.length < 64 ∧ ∀ last ∈ lines.getLast?, LeavesRoom host last

section Room

variable (name : IsWord 127 host) (readable : Readable 255 lines)
  (nulFree : ∀ line ∈ lines, 0 ∉ line) (absent : lines.any (names host) = false)
  (few : lines.length < 64)
include name readable nulFree absent few

/-- A host that the lines do not name gets a line of its own. -/
theorem findSome?_cached_absent (parsed : inetPton ip = some addr)
    (room : ∀ last ∈ lines.getLast?, LeavesRoom host last) (other : Bytes)
    : (fgetsAll 255 (cachedLines lines host ip).flatten).findSome? (resolveLine other)
      = if host = other then some addr else lines.findSome? (resolveLine other) := by
  have silent := findSome?_not_named absent
  rw [cachedLines_of_not_named absent, if_pos few, flatten_append, flatten_singleton]
  rcases readable.full_or_unended with full | ⟨front, last, rfl, full, some_, noEnd, short⟩
  · have own := fgetsAll_flatten (forall_mem_singleton.mpr (fullLine_hostLine parsed name))
    rw [flatten_singleton] at own
    rw [fgetsAll_flatten_append full, own, findSome?_append, findSome?_singleton,
      resolveLine_hostLine parsed name]
    by_cases same : host = other
    · rw [← same, silent, if_pos rfl, none_or]
    · rw [if_neg same, if_neg same, or_none]
  · obtain ended | ⟨blank, head, fits⟩ := room last (by simp)
    · exact absurd ended (not_fullLine noEnd short)
    have most := (isWord_of_inetPton parsed).1.length
    have length := (hostText_facts parsed name).2.2.1
    have free := nulFree last (mem_append_right _ (mem_singleton_self _))
    have nothing : resolveLine other last = none := by
      refine eq_none_iff_forall_ne_some.mpr fun addr resolved => ?_
      obtain ⟨-, found, entry, parsed⟩ := resolveLine_eq_some resolved
      obtain ⟨enough, -⟩ := hostsEntry_eq_some free entry
      have some_ := length_pos_iff.mpr (isWord_of_inetPton parsed).1.some_
      rw [letters_of_spaces blank] at enough
      omega
    rw [findSome?_append, or_eq_none_iff] at silent
    rw [flatten_append, flatten_singleton, append_assoc,
      fgetsAll_flatten_append full, findSome?_append, findSome?_append,
      findSome?_blank parsed name noEnd free blank head (by omega), findSome?_singleton,
      nothing]
    by_cases same : host = other
    · rw [← same, silent.1, if_pos rfl, if_pos rfl, none_or]
    · rw [if_neg same, if_neg same]

theorem leavesRoom_of_resolved
    (resolved : ∀ ip addr, inetPton ip = some addr
      → (fgetsAll 255 (cachedLines lines host ip).flatten).findSome? (resolveLine host) = some addr)
    : ∀ last ∈ lines.getLast?, LeavesRoom host last := by
  have silent := findSome?_not_named absent
  rcases readable.full_or_unended with full | ⟨front, last, rfl, full, some_, noEnd, short⟩
  · exact fun last ends => .inl (full last (mem_of_mem_getLast? ends))
  · intro other ends
    rw [getLast?_concat, mem_some_iff] at ends
    subst ends
    rw [findSome?_append, or_eq_none_iff] at silent
    have free := nulFree last (mem_append_right _ (mem_singleton_self _))
    have behind (a : Nat) (parsed : inetPton (dotted a a a a) = some [a, a, a, a]) :=
      fits_of_resolved parsed name some_ noEnd short free (by
        have found := resolved _ _ parsed
        rwa [cachedLines_of_not_named absent, if_pos few, flatten_append,
          flatten_append, flatten_singleton, flatten_singleton, append_assoc,
          fgetsAll_flatten_append full, findSome?_append, silent.1, none_or] at found)
    -- The two addresses begin with different digits.
    have length : (dotted 255 255 255 255).length = 15 ∧ (dotted 199 199 199 199).length = 15 := by
      decide
    right
    rcases behind 255 (by decide) with first | ⟨blank, head, fits⟩
    · rcases behind 199 (by decide) with second | ⟨blank, head, fits⟩
      · exact absurd (first.trans second.symm) (by decide)
      · rw [hostText, length_append, length_cons] at fits
        exact ⟨blank, head, by omega⟩
    · rw [hostText, length_append, length_cons] at fits
      exact ⟨blank, head, by omega⟩

end Room

/-- Caching any address of a host gives the host that address, and leaves what the file says of
other hosts, exactly if the file has room for it.
-/
theorem hosts_cached_iff {file : Option Bytes} (nulFree : ∀ content ∈ file, 0 ∉ content)
    (name : IsWord 127 host)
    : (∀ ip addr,
        inetPton ip = some addr
        → resolveFromHostsFile (some (cacheHostMapping file host ip)) host = some addr
          ∧ ∀ other ≠ host,
              resolveFromHostsFile (some (cacheHostMapping file host ip)) other
                = resolveFromHostsFile file other)
      ↔ HasRoom (hostsLines file) host := by
  have readable : Readable 255 (hostsLines file) := by
    cases file with
    | none => exact .nil
    | some content => exact readable_fgetsAll (by decide) content
  have free : ∀ line ∈ hostsLines file, 0 ∉ line := by
    intro line member inside
    cases file with
    | none => cases member
    | some content =>
      refine nulFree content rfl ?_
      rw [← flatten_fgetsAll 255 content]
      exact List.mem_flatten_of_mem member inside
  have written (ip : Bytes) (addr : List Nat) (parsed : inetPton ip = some addr) (other : Bytes)
      : resolveFromHostsFile (some (cacheHostMapping file host ip)) other
        = (fgetsAll 255 (cachedLines ((hostsLines file).take 64) host ip).flatten).findSome?
            (resolveLine other) := by
    rw [cacheHostMapping_eq parsed name free]
    rfl
  unfold HasRoom
  split
  · next named =>
      constructor
      · intro right other differs nothing
        have parsed : inetPton (dotted 255 255 255 255) = some [255, 255, 255, 255] := by decide
        have same := (right _ _ parsed).2 other differs
        rw [written _ _ parsed, findSome?_cached_named parsed name (readable.take 64) named,
          if_neg differs.symm, nothing, resolveFromHostsFile,
          ← List.take_append_drop 64 (hostsLines file), List.findSome?_append, nothing,
          Option.none_or] at same
        exact same.symm
      · intro kept ip addr parsed
        have resolved := findSome?_cached_named parsed name (readable.take 64) named
        refine ⟨by rw [written _ _ parsed, resolved, if_pos rfl], fun other differs => ?_⟩
        rw [written _ _ parsed, resolved, if_neg differs.symm, resolveFromHostsFile]
        nth_rewrite 2 [← List.take_append_drop 64 (hostsLines file)]
        rw [List.findSome?_append]
        cases first : ((hostsLines file).take 64).findSome? (resolveLine other) with
        | none => rw [kept other differs first, Option.or_none]
        | some addr => rw [Option.some_or]
  · next absent =>
      rw [Bool.not_eq_true] at absent
      constructor
      · intro right
        have few : (hostsLines file).length < 64 := by
          refine Nat.lt_of_not_le fun full => ?_
          have parsed : inetPton (dotted 255 255 255 255) = some [255, 255, 255, 255] := by decide
          have resolved := (right _ _ parsed).1
          rw [written _ _ parsed, cachedLines_of_not_named absent,
            if_neg (by rw [List.length_take]; omega), (readable.take 64).fgetsAll_flatten,
            findSome?_not_named absent] at resolved
          cases resolved
        have whole := List.take_of_length_le (Nat.le_of_lt few)
        rw [whole] at absent
        refine ⟨few, leavesRoom_of_resolved name readable free absent few fun ip addr parsed => ?_⟩
        rw [← (right ip addr parsed).1, written _ _ parsed, whole]
      · rintro ⟨few, room⟩ ip addr parsed
        have whole := List.take_of_length_le (Nat.le_of_lt few)
        rw [whole] at absent
        have resolved := findSome?_cached_absent name readable free absent few parsed room
        rw [← whole] at resolved
        refine ⟨by rw [written _ _ parsed, resolved, if_pos rfl], fun other differs => ?_⟩
        rw [written _ _ parsed, resolved, if_neg differs.symm, whole]
        rfl

theorem hosts_cached_iff_oneLine
    : (∀ ip addr,
        inetPton ip = some addr
        → resolveFromHostsFile
              (some (cacheHostMapping (some (utf8 "1.2.3.4 a\n")) (utf8 "b") ip)) (utf8 "b")
            = some addr
          ∧ ∀ other ≠ utf8 "b",
              resolveFromHostsFile
                  (some (cacheHostMapping (some (utf8 "1.2.3.4 a\n")) (utf8 "b") ip)) other
                = resolveFromHostsFile (some (utf8 "1.2.3.4 a\n")) other)
      ↔ HasRoom (hostsLines (some (utf8 "1.2.3.4 a\n"))) (utf8 "b") :=
  hosts_cached_iff
    (by
      rintro content ⟨⟩
      decide)
    ⟨by decide, by decide, by decide +kernel, by decide⟩

/-- The new line runs into a last line without an end, and a file of 64 lines takes no other. -/
theorem hosts_line_lost
    : let file := some (utf8 "1.2.3.4 a")
      let cached := some (cacheHostMapping file (utf8 "b") (utf8 "5.6.7.8"))
      let full := some (List.replicate 64 [charHash, 10]).flatten
      resolveFromHostsFile cached (utf8 "b") = none
      ∧ resolveFromHostsFile file (utf8 "a") = some [1, 2, 3, 4]
      ∧ resolveFromHostsFile cached (utf8 "a") = none
      ∧ resolveFromHostsFile (some (cacheHostMapping full (utf8 "b") (utf8 "5.6.7.8"))) (utf8 "b")
        = none := by
  decide +kernel

end SwitchLanPlay.Sysmodule
