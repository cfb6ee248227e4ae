import SwitchLanPlay.Foundation.TextFile
import SwitchLanPlay.Server.Provider

/-! The configuration of the sysmodule. `nx_config_load` reads `config.ini` line by line; a line
sets one key, and a later line overwrites an earlier one.
-/

namespace SwitchLanPlay.Sysmodule

open List Option
open Foundation
open Server (utf8)

variable {line text front : Bytes}

-- the characters that the reader looks for

def charSemicolon : UInt8 := 59
def charHash : UInt8 := 35
def charBracket : UInt8 := 91
def charEquals : UInt8 := 61

def isBlank (octet : UInt8) : Bool := octet = 32 || octet = 9

def isTrailing (octet : UInt8) : Bool := isBlank octet || octet = 13 || octet = 10

def trim (text : Bytes) : Bytes := (text.dropWhile isBlank).rdropWhile isTrailing

def isSkipped (octet : UInt8) : Bool :=
  octet = charSemicolon || octet = charHash || octet = charBracket

def iniEntry (line : Bytes) : Option (Bytes × Bytes) :=
  let line := trim (cString line)
  match line.head? with
  | none => none
  | some first =>
    if isSkipped first then none
    else if charEquals ∈ line then
      some
        (trim (line.takeWhile (· ≠ charEquals)),
          trim ((line.dropWhile (· ≠ charEquals)).drop 1))
    else none

def iniValue (key line : Bytes) : Option Bytes :=
  match iniEntry line with
  | none => none
  | some (name, value) => if name = key then some value else none

def iniValues (key : Bytes) (lines : List Bytes) : List Bytes := lines.filterMap (iniValue key)

@[ext]
structure NxConfig where
  relayAddr : Bytes
  myIp : Bytes
  subnetNet : Bytes
  subnetMask : Bytes
  username : Bytes
  password : Bytes
deriving DecidableEq, Repr

def nxStrMax : Nat := 256

def nxIpMax : Nat := 16

def NxConfig.setDefaults : NxConfig where
  relayAddr := []
  myIp := []
  subnetNet := (utf8 "10.13.0.0").take (nxIpMax - 1)
  subnetMask := (utf8 "255.255.0.0").take (nxIpMax - 1)
  username := []
  password := []

/-- The assignments of `nx_config_load`: `strncpy` cuts a value to the field. -/
def NxConfig.assign (cfg : NxConfig) (key val : Bytes) : NxConfig :=
  if key = utf8 "relay_addr" then { cfg with relayAddr := val.take (nxStrMax - 1) }
  else if key = utf8 "ip" then { cfg with myIp := val.take (nxIpMax - 1) }
  else if key = utf8 "subnet_net" then { cfg with subnetNet := val.take (nxIpMax - 1) }
  else if key = utf8 "subnet_mask" then { cfg with subnetMask := val.take (nxIpMax - 1) }
  else if key = utf8 "username" then { cfg with username := val.take (nxStrMax - 1) }
  else if key = utf8 "password" then { cfg with password := val.take (nxStrMax - 1) }
  else cfg

def NxConfig.readLine (cfg : NxConfig) (line : Bytes) : NxConfig :=
  match iniEntry line with
  | none => cfg
  | some (key, val) => cfg.assign key val

def configLines (file : Option Bytes) : List Bytes :=
  match file with
  | none => []
  | some content => fgetsAll 511 content

def NxConfig.ofLines (lines : List Bytes) : NxConfig := lines.foldl NxConfig.readLine .setDefaults

def nxConfigLoad (file : Option Bytes) : Int × NxConfig :=
  match file with
  | none => (-1, .setDefaults)
  | some content =>
    let cfg := NxConfig.ofLines (fgetsAll 511 content)
    (if cfg.relayAddr = [] then -1 else 0, cfg)

-- Lines

theorem isTrailing_of_isBlank {octet : UInt8} (blank : isBlank octet) : isTrailing octet := by
  rw [isTrailing, blank]
  rfl

/-- A text that starts with no blank is cut at its end only. -/
theorem trim_of_head (head : ∀ octet ∈ text.head?, isBlank octet = false)
    : trim text = text.rdropWhile isTrailing := by
  cases text with
  | nil => rfl
  | cons octet rest => rw [trim, dropWhile_cons_of_neg (by simp [head octet rfl])]

/-- Blanks in front of a text are taken away. -/
theorem trim_blank_append (blank : ∀ octet ∈ front, isBlank octet) (text : Bytes)
    : trim (front ++ text) = trim text := by
  rw [trim, dropWhile_append_of_pos blank]
  rfl

theorem rdropWhile_append_trailing {back : Bytes} (trailing : ∀ octet ∈ back, isTrailing octet)
    (text : Bytes)
    : (text ++ back).rdropWhile isTrailing = text.rdropWhile isTrailing := by
  rw [rdropWhile, reverse_append, dropWhile_append_of_pos]
  · rfl
  · intro octet member
    exact trailing octet (mem_reverse.mp member)

/-- Only what is behind a character that stays is cut. -/
theorem rdropWhile_append_cons (front back : Bytes) {octet : UInt8}
    (stays : isTrailing octet = false)
    : (front ++ octet :: back).rdropWhile isTrailing
      = front ++ octet :: back.rdropWhile isTrailing := by
  induction back using reverseRecOn with
  | nil => exact rdropWhile_concat_neg _ _ _ (by simp [stays])
  | append_singleton back last ih =>
    rw [← cons_append, ← append_assoc]
    cases trailing : isTrailing last with
    | false =>
      rw [rdropWhile_concat_neg _ _ _ (by simp [trailing]),
        rdropWhile_concat_neg _ _ _ (by simp [trailing]), append_assoc,
        cons_append]
    | true =>
      rw [rdropWhile_concat_pos _ _ _ trailing, ih,
        rdropWhile_concat_pos _ _ _ trailing]

theorem dropWhile_append_of_exists {octet : UInt8} (member : octet ∈ text)
    (stays : isBlank octet = false) (rest : Bytes)
    : (text ++ rest).dropWhile isBlank = text.dropWhile isBlank ++ rest := by
  induction text with
  | nil => exact absurd member not_mem_nil
  | cons first text ih =>
    cases blank : isBlank first with
    | false => simp [blank]
    | true =>
      have later : octet ∈ text := by
        rcases mem_cons.mp member with rfl | later
        · rw [blank] at stays
          cases stays
        · exact later
      simp only [cons_append, dropWhile_cons, blank, if_true, ih later]

/-- Behind the blanks at the front there is none. -/
theorem isBlank_head?_eq_false (isFront : front <+: line.dropWhile isBlank)
    : ∀ octet ∈ front.head?, isBlank octet = false := by
  intro octet head
  obtain ⟨rest, whole⟩ := isFront
  have first : (line.dropWhile isBlank).head? = some octet := by
    rw [← whole, head?_append, mem_def.mp head]
    rfl
  have kept := head?_dropWhile_not isBlank line
  rw [first] at kept
  exact kept

theorem isBlank_head?_trim (text : Bytes) : ∀ octet ∈ (trim text).head?, isBlank octet = false :=
  have isFront : trim text <+: text.dropWhile isBlank := rdropWhile_prefix _ _
  isBlank_head?_eq_false isFront

theorem trim_sublist (text : Bytes) : (trim text).Sublist text := by
  have isFront : trim text <+: text.dropWhile isBlank := rdropWhile_prefix _ _
  exact isFront.sublist.trans (dropWhile_sublist _)

theorem trim_eq_nil (trailing : ∀ octet ∈ text, isTrailing octet) : trim text = [] := by
  rw [trim, rdropWhile_eq_nil_iff]
  intro octet member
  exact trailing octet ((dropWhile_sublist _).mem member)

theorem trim_append_trailing {back : Bytes} (trailing : ∀ octet ∈ back, isTrailing octet)
    (text : Bytes)
    : trim (text ++ back) = trim text := by
  by_cases some_ : ∃ octet ∈ text, isBlank octet = false
  · obtain ⟨octet, member, stays⟩ := some_
    rw [trim, dropWhile_append_of_exists member stays, rdropWhile_append_trailing trailing]
    rfl
  · have blank : ∀ octet ∈ text, isBlank octet := by simpa using some_
    rw [trim_blank_append blank, trim_eq_nil trailing,
      trim_eq_nil fun octet member => isTrailing_of_isBlank (blank octet member)]

theorem trim_rdropWhile (text : Bytes) : trim (text.rdropWhile isTrailing) = trim text := by
  have trailing : ∀ octet ∈ text.rtakeWhile isTrailing, isTrailing octet :=
    fun octet member => mem_rtakeWhile_imp member
  rw [← trim_append_trailing trailing, rdropWhile_append_rtakeWhile]

def beforeEquals (line : Bytes) : Bytes := (line.dropWhile isBlank).takeWhile (· ≠ charEquals)

def behindEquals (line : Bytes) : Bytes :=
  ((line.dropWhile isBlank).dropWhile (· ≠ charEquals)).drop 1

theorem charEquals_not_mem_beforeEquals (line : Bytes) : charEquals ∉ beforeEquals line := by
  intro member
  have other := mem_takeWhile_imp member
  exact of_decide_eq_true other rfl

theorem trim_beforeEquals (line : Bytes)
    : trim (beforeEquals line) = (beforeEquals line).rdropWhile isTrailing := by
  have isFront : beforeEquals line <+: line.dropWhile isBlank := takeWhile_prefix _
  exact trim_of_head (isBlank_head?_eq_false isFront)

theorem mem_dropWhile_isBlank (member : charEquals ∈ line)
    : charEquals ∈ line.dropWhile isBlank := by
  rw [← @takeWhile_append_dropWhile _ isBlank line, mem_append] at member
  rcases member with front | back
  · cases mem_takeWhile_imp front
  · exact back

theorem dropWhile_isBlank_eq (member : charEquals ∈ line)
    : line.dropWhile isBlank = beforeEquals line ++ charEquals :: behindEquals line := by
  have member := mem_dropWhile_isBlank member
  unfold beforeEquals behindEquals
  generalize line.dropWhile isBlank = text at member
  have first := head?_dropWhile_not (fun octet => decide (octet ≠ charEquals)) text
  cases rest : text.dropWhile (fun octet => decide (octet ≠ charEquals)) with
  | nil =>
    have other := dropWhile_eq_nil_iff.mp rest charEquals member
    exact absurd rfl (of_decide_eq_true other)
  | cons octet back =>
    rw [rest] at first
    have same : octet = charEquals := by simpa using first
    subst same
    rw [drop_one, tail_cons, ← rest, takeWhile_append_dropWhile]

/-- The two parts of a line that is written as blanks, a name, `=` and a value. -/
theorem equals_parts {name : Bytes} (blank : ∀ octet ∈ front, isBlank octet)
    (head : ∀ octet ∈ name.head?, isBlank octet = false) (noEquals : charEquals ∉ name)
    (value : Bytes)
    : beforeEquals (front ++ (name ++ charEquals :: value)) = name
      ∧ behindEquals (front ++ (name ++ charEquals :: value)) = value := by
  have text : (front ++ (name ++ charEquals :: value)).dropWhile isBlank
      = name ++ charEquals :: value := by
    rw [dropWhile_append_of_pos blank]
    cases name with
    | nil => rfl
    | cons octet name => exact dropWhile_cons_of_neg (by simp [head octet rfl])
  have others : ∀ octet ∈ name, decide (octet ≠ charEquals) = true := by
    intro octet member
    refine decide_eq_true ?_
    rintro rfl
    exact noEquals member
  unfold beforeEquals behindEquals
  rw [text, takeWhile_append_of_pos others, dropWhile_append_of_pos others]
  simp

/-- What follows a line with `=` does not change its front. -/
theorem beforeEquals_append (member : charEquals ∈ line) (back : Bytes)
    : beforeEquals (line ++ back) = beforeEquals line := by
  have isFront : beforeEquals line <+: line.dropWhile isBlank := takeWhile_prefix _
  have split : line ++ back
      = line.takeWhile isBlank
        ++ (beforeEquals line ++ charEquals :: (behindEquals line ++ back)) := by
    rw [← cons_append, ← append_assoc (beforeEquals line),
      ← dropWhile_isBlank_eq member, ← append_assoc, takeWhile_append_dropWhile]
  rw [split]
  exact (equals_parts (fun octet front => mem_takeWhile_imp front)
    (isBlank_head?_eq_false isFront) (charEquals_not_mem_beforeEquals line) _).1

theorem trim_of_mem (member : charEquals ∈ line)
    : trim line
      = beforeEquals line ++ charEquals :: (behindEquals line).rdropWhile isTrailing := by
  rw [trim, dropWhile_isBlank_eq member]
  exact rdropWhile_append_cons _ _ rfl

/-- The entry of a line that has one. -/
theorem iniEntry_eq_some (nulFree : 0 ∉ line) (member : charEquals ∈ line)
    (kept : ∀ octet ∈ (beforeEquals line).head?, isSkipped octet = false)
    : iniEntry line = some (trim (beforeEquals line), trim (behindEquals line)) := by
  have others : ∀ octet ∈ beforeEquals line, decide (octet ≠ charEquals) = true := by
    intro octet inside
    have other := mem_takeWhile_imp inside
    exact other
  unfold iniEntry
  rw [cString_eq_self nulFree, trim_of_mem member]
  cases head : (beforeEquals line).head? with
  | none =>
    rw [head?_eq_none_iff] at head
    simp [head, isSkipped, trim_rdropWhile]
    decide
  | some first =>
    dsimp only
    rw [head?_append, head, some_or]
    dsimp only
    rw [if_neg (by simp [kept first head]), if_pos (by simp),
      takeWhile_append_of_pos others, dropWhile_append_of_pos others]
    simp [trim_rdropWhile]

/-- A line with an entry. -/
theorem iniEntry_inv {key val : Bytes} (nulFree : 0 ∉ line)
    (found : iniEntry line = some (key, val))
    : charEquals ∈ line
      ∧ key = trim (beforeEquals line)
      ∧ val = trim (behindEquals line) := by
  have member : charEquals ∈ line := by
    unfold iniEntry at found
    rw [cString_eq_self nulFree] at found
    dsimp only at found
    split at found
    · cases found
    · split at found
      · cases found
      · split at found
        · next inside => exact (trim_sublist line).mem inside
        · cases found
  by_cases kept : ∀ octet ∈ (beforeEquals line).head?, isSkipped octet = false
  · rw [iniEntry_eq_some nulFree member kept] at found
    cases found
    exact ⟨member, rfl, rfl⟩
  · push Not at kept
    obtain ⟨first, head, skipped⟩ := kept
    unfold iniEntry at found
    rw [cString_eq_self nulFree, trim_of_mem member] at found
    dsimp only at found
    rw [head?_append, mem_def.mp head, some_or] at found
    dsimp only at found
    rw [if_pos (by simpa using skipped)] at found
    cases found

-- Keys

inductive ConfigKey where
  | relayAddr
  | ip
  | subnetNet
  | subnetMask
  | username
  | password
deriving DecidableEq, Repr

def ConfigKey.name : ConfigKey → Bytes
  | .relayAddr => utf8 "relay_addr"
  | .ip => utf8 "ip"
  | .subnetNet => utf8 "subnet_net"
  | .subnetMask => utf8 "subnet_mask"
  | .username => utf8 "username"
  | .password => utf8 "password"

def ConfigKey.room : ConfigKey → Nat
  | .relayAddr | .username | .password => nxStrMax - 1
  | .ip | .subnetNet | .subnetMask => nxIpMax - 1

def NxConfig.get (cfg : NxConfig) : ConfigKey → Bytes
  | .relayAddr => cfg.relayAddr
  | .ip => cfg.myIp
  | .subnetNet => cfg.subnetNet
  | .subnetMask => cfg.subnetMask
  | .username => cfg.username
  | .password => cfg.password

theorem NxConfig.get_assign (cfg : NxConfig) (name val : Bytes) (key : ConfigKey)
    : (cfg.assign name val).get key
      = if name = key.name then val.take key.room else cfg.get key := by
  by_cases same : name = key.name
  · subst same
    rw [if_pos rfl]
    cases key <;> rfl
  · rw [if_neg same]
    unfold assign
    split_ifs <;> cases key <;> first | rfl | exact absurd ‹_› same

theorem NxConfig.get_readLine (cfg : NxConfig) (line : Bytes) (key : ConfigKey)
    : (cfg.readLine line).get key
      = ((iniValue key.name line).map (·.take key.room)).getD (cfg.get key) := by
  unfold readLine iniValue
  cases iniEntry line with
  | none => rfl
  | some entry =>
    dsimp only
    rw [get_assign]
    split <;> rfl

/-- The last line of a key decides. -/
theorem NxConfig.get_foldl_readLine (lines : List Bytes) (cfg : NxConfig) (key : ConfigKey)
    : (lines.foldl readLine cfg).get key
      = ((iniValues key.name lines).getLast?.map (·.take key.room)).getD (cfg.get key) := by
  induction lines generalizing cfg with
  | nil => rfl
  | cons line rest ih =>
    rw [foldl_cons, ih, get_readLine]
    unfold iniValues
    cases value : iniValue key.name line with
    | none => rw [filterMap_cons_none value]; rfl
    | some value' =>
      rw [filterMap_cons_some value, getLast?_cons]
      cases (rest.filterMap (iniValue key.name)).getLast? <;> rfl

theorem NxConfig.get_ofLines (lines : List Bytes) (key : ConfigKey)
    : (ofLines lines).get key
      = ((iniValues key.name lines).getLast?.map (·.take key.room)).getD
          (setDefaults.get key) := get_foldl_readLine lines _ key

theorem nxConfigLoad_snd (file : Option Bytes)
    : (nxConfigLoad file).2 = NxConfig.ofLines (configLines file) := by
  cases file with
  | none => rfl
  | some content => rfl

/-- `nx_config_load` succeeds if and only if there is a relay. -/
theorem nxConfigLoad_eq_zero_iff (file : Option Bytes)
    : (nxConfigLoad file).1 = 0 ↔ (nxConfigLoad file).2.relayAddr ≠ [] := by
  cases file with
  | none => simp [nxConfigLoad, NxConfig.setDefaults]
  | some content =>
    unfold nxConfigLoad
    dsimp only
    split
    · next empty => simp [empty]
    · next some_ => simp [some_]

end SwitchLanPlay.Sysmodule
