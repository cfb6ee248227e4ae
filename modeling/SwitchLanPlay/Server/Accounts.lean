import SwitchLanPlay.Server.Provider

/-! Where the auth providers take their keys from: the table of `users.json`, the reply of an HTTP
backend, or a password. Hexadecimal digits are decoded as far as they go, so a key can have any
length.
-/

namespace SwitchLanPlay.Server

open Foundation

/-- A value `JSON.parse` returns; of an object its own properties, each name once. -/
inductive Json where
  | null
  | bool (value : Bool)
  | number (value : Rat)
  | string (value : String)
  | array (items : List Json)
  | object (members : List (String × Json))

/-- What a property of a parsed value can be. `builtin` is a function or an object that the value
inherits from its prototype, with no property the providers ask for.
-/
inductive JsValue where
  | undefined
  | json (value : Json)
  | builtin

/-- The parts of Node that the providers call. `codeUnit` is the text of one UTF-16 unit,
`inherits` tells which names a value finds in its prototype, and `bufferFrom` is `Buffer.from` on
anything but texts.
-/
structure NodeRuntime where
  sha1 : Bytes → Bytes
  sha1_length : ∀ data, (sha1 data).length = 20
  codeUnit : String → Nat → String
  inherits : Json → String → Bool
  bufferFrom : Json → Except String Bytes

def utf16Length (text : String) : Nat :=
  (text.toList.map (fun char => if char.toNat < 0x10000 then 1 else 2)).sum

/-- The index a property name stands for, below a bound. -/
def indexOf? (bound : Nat) (name : String) : Option Nat :=
  (List.range bound).find? (fun index => toString index == name)

def Json.own? (node : NodeRuntime) (name : String) : Json → Option Json
  | .object members => (members.find? (fun member => member.1 == name)).map Prod.snd
  | .array items =>
    if name = "length" then some (.number items.length)
    else (indexOf? items.length name).bind (fun index => items[index]?)
  | .string text =>
    if name = "length" then some (.number (utf16Length text))
    else (indexOf? (utf16Length text) name).map (fun index => .string (node.codeUnit text index))
  | .number _ => none
  | .bool _ => none
  | .null => none

def Json.property (node : NodeRuntime) (value : Json) (name : String) : Except String JsValue :=
  match value with
  | .null => .error ("Cannot read properties of null (reading '" ++ name ++ "')")
  | value =>
    match value.own? node name with
    | some found => .ok (.json found)
    | none => .ok (if node.inherits value name then .builtin else .undefined)

def JsValue.property (node : NodeRuntime) (value : JsValue) (name : String)
    : Except String JsValue :=
  match value with
  | .undefined => .error ("Cannot read properties of undefined (reading '" ++ name ++ "')")
  | .json value => value.property node name
  | .builtin => .ok .undefined

def JsValue.truthy : JsValue → Bool
  | .undefined => false
  | .json .null => false
  | .json (.bool value) => value
  | .json (.number value) => value ≠ 0
  | .json (.string value) => value ≠ ""
  | .json (.array _) => true
  | .json (.object _) => true
  | .builtin => true

def hexValue? (digit : Char) : Option Nat :=
  if '0' ≤ digit ∧ digit ≤ '9' then some (digit.toNat - 48)
  else if 'a' ≤ digit ∧ digit ≤ 'f' then some (digit.toNat - 87)
  else if 'A' ≤ digit ∧ digit ≤ 'F' then some (digit.toNat - 55)
  else none

/-- The octets of the longest front of a text that consists of pairs of digits. -/
def hexOctets : List Char → Bytes
  | high :: low :: rest =>
    match hexValue? high, hexValue? low with
    | some high, some low => UInt8.ofNat (16 * high + low) :: hexOctets rest
    | _, _ => []
  | _ => []

def NodeRuntime.bufferFromHex (node : NodeRuntime) : JsValue → Except String Bytes
  | .json (.string text) => .ok (hexOctets text.toList)
  | .json value => node.bufferFrom value
  | _ => .error "The first argument must be of type string or an instance of Buffer"

/-- `JsonAuthProvider.read`: the table of the file's contents, which are missing when it cannot be
read or parsed. Assigning to `$schema` fails on a value that has no properties.
-/
def JsonAuthProvider.read : Option Json → Json
  | none => .object []
  | some (.object members) => .object (members.filter (fun member => member.1 ≠ "$schema"))
  | some table => table

def JsonAuthProvider.getUserPasswordSHA1 (node : NodeRuntime) (table : Json) (username : String)
    : Except String Bytes := do
  let pw ← table.property node username
  match pw with
  | .undefined => .error "No such user"
  | .json (.string text) => .ok (node.sha1 (utf8 text))
  | pw => node.bufferFromHex (← pw.property node "sha1")

def HttpAuthProvider.getUserPasswordSHA1 (node : NodeRuntime) (reply : Except String Json)
    : Except String Bytes := do
  let ret ← reply
  if (← ret.property node "error").truthy then .error "http auth: upstream error"
  else node.bufferFromHex (← ret.property node "passwordSHA1")

def CustomAuthProvider.getUserPasswordSHA1 (node : NodeRuntime) (name password username : String)
    : Except String Bytes :=
  if username ≠ name then .error "No such user" else .ok (node.sha1 (utf8 password))

inductive AuthProvider where
  | json (contents : Option Json)
  | http (reply : String → Except String Json)
  | custom (name password : String)

def AuthProvider.getUserPasswordSHA1 (node : NodeRuntime) (provider : AuthProvider)
    (username : String)
    : Except String Bytes :=
  match provider with
  | .json contents =>
    JsonAuthProvider.getUserPasswordSHA1 node (JsonAuthProvider.read contents) username
  | .http reply => HttpAuthProvider.getUserPasswordSHA1 node (reply username)
  | .custom name password => CustomAuthProvider.getUserPasswordSHA1 node name password username

def AuthProvider.verify (node : NodeRuntime) (provider : AuthProvider) (username : String)
    (challenge response : Bytes)
    : VerifyResult :=
  BasicAuthProvider.verify node.sha1 (provider.getUserPasswordSHA1 node) username challenge
    response

-- Keys from hexadecimal digits

def StartsWithDigits (count : Nat) (text : List Char) : Prop :=
  count ≤ text.length ∧ ∀ digit ∈ text.take count, (hexValue? digit).isSome

instance (count : Nat) (text : List Char) : Decidable (StartsWithDigits count text) := by
  unfold StartsWithDigits
  infer_instance

/-- Two digits more stand in front of one octet more. -/
theorem startsWithDigits_cons_cons {count : Nat} {high low : Char} {rest : List Char}
    : StartsWithDigits (2 * (count + 1)) (high :: low :: rest)
      ↔ ((hexValue? high).isSome ∧ (hexValue? low).isSome)
        ∧ StartsWithDigits (2 * count) rest := by
  have double : 2 * (count + 1) = 2 * count + 1 + 1 := by omega
  simp only [StartsWithDigits, double, List.length_cons, List.take_succ_cons,
    List.forall_mem_cons, Nat.add_le_add_iff_right]
  tauto

/-- The decoder finds as many octets as there are pairs of digits in front. -/
theorem le_hexOctets_length_iff (count : Nat) (text : List Char)
    : count ≤ (hexOctets text).length ↔ StartsWithDigits (2 * count) text := by
  induction count generalizing text with
  | zero => simp [StartsWithDigits]
  | succ count ih =>
    match text with
    | [] => exact iff_of_false (Nat.not_succ_le_zero _) (fun starts => by cases starts.1)
    | [digit] =>
      refine iff_of_false (Nat.not_succ_le_zero _) (fun starts => ?_)
      have room := starts.1
      rw [List.length_singleton] at room
      omega
    | high :: low :: rest =>
      rw [startsWithDigits_cons_cons, ← ih rest, hexOctets]
      cases hexValue? high with
      | none => simp
      | some highValue =>
        cases hexValue? low with
        | none => simp
        | some lowValue => simp

theorem hexOctets_length_eq_twenty_iff (text : List Char)
    : (hexOctets text).length = 20 ↔ StartsWithDigits 40 text ∧ ¬ StartsWithDigits 42 text := by
  rw [← le_hexOctets_length_iff 20 text, ← le_hexOctets_length_iff 21 text]
  omega

/-- The value gives a key of 20 octets, if it gives one at all: a text has 40 digits in front and
no further pair.
-/
def NodeRuntime.TwentyOctets (node : NodeRuntime) : JsValue → Prop
  | .json (.string text) => StartsWithDigits 40 text.toList ∧ ¬ StartsWithDigits 42 text.toList
  | .json value => ∀ octets, node.bufferFrom value = .ok octets → octets.length = 20
  | .undefined => True
  | .builtin => True

theorem NodeRuntime.twentyOctets_iff (node : NodeRuntime) (field : JsValue)
    : node.TwentyOctets field
      ↔ ∀ octets, node.bufferFromHex field = .ok octets → octets.length = 20 := by
  cases field with
  | undefined => exact iff_of_true trivial (fun _ impossible => by cases impossible)
  | builtin => exact iff_of_true trivial (fun _ impossible => by cases impossible)
  | json value =>
    cases value with
    | string text =>
      simp only [NodeRuntime.TwentyOctets, bufferFromHex, Except.ok.injEq,
        forall_eq', hexOctets_length_eq_twenty_iff]
    | null => exact Iff.rfl
    | bool _ => exact Iff.rfl
    | number _ => exact Iff.rfl
    | array _ => exact Iff.rfl
    | object _ => exact Iff.rfl

-- The key of an account

/-- The value that `getUserPasswordSHA1` decodes for a user: `sha1` of an entry of the table that
is no text, or `passwordSHA1` of a reply that reports no error.
-/
def AuthProvider.hexField? (node : NodeRuntime) (provider : AuthProvider) (username : String)
    : Option JsValue :=
  match provider with
  | .json contents =>
    match (JsonAuthProvider.read contents).property node username with
    | .error _ => none
    | .ok .undefined => none
    | .ok (.json (.string _)) => none
    | .ok pw => (pw.property node "sha1").toOption
  | .http reply =>
    match reply username with
    | .error _ => none
    | .ok ret =>
      match ret.property node "error" with
      | .error _ => none
      | .ok error => if error.truthy then none else (ret.property node "passwordSHA1").toOption
  | .custom _ _ => none

/-- What is read from a property, or the failure to read it, decides the key. -/
theorem bufferFromHex_of_property (node : NodeRuntime) (field : Except String JsValue)
    {key : Except String Bytes} (decoded : key = field >>= node.bufferFromHex)
    : (∃ value, field.toOption = some value ∧ key = node.bufferFromHex value)
      ∨ (field.toOption = none ∧ ∀ octets, key = .ok octets → octets.length = 20) := by
  cases field with
  | error message =>
    refine Or.inr ⟨rfl, ?_⟩
    rintro octets rfl
    cases decoded
  | ok value => exact Or.inl ⟨value, rfl, decoded⟩

/-- A key is decoded from that value, or it is a hash. -/
theorem AuthProvider.getUserPasswordSHA1_cases (node : NodeRuntime) (provider : AuthProvider)
    (username : String)
    : (∃ field,
        provider.hexField? node username = some field
        ∧ provider.getUserPasswordSHA1 node username = node.bufferFromHex field)
      ∨ (provider.hexField? node username = none
        ∧ ∀ key, provider.getUserPasswordSHA1 node username = .ok key → key.length = 20) := by
  cases provider with
  | json contents =>
    simp only [hexField?, getUserPasswordSHA1,
      JsonAuthProvider.getUserPasswordSHA1]
    cases (JsonAuthProvider.read contents).property node username with
    | error message => exact Or.inr ⟨rfl, fun _ impossible => by cases impossible⟩
    | ok pw =>
      cases pw with
      | undefined => exact Or.inr ⟨rfl, fun _ impossible => by cases impossible⟩
      | builtin => exact bufferFromHex_of_property node _ rfl
      | json entry =>
        cases entry with
        | string text =>
          refine Or.inr ⟨rfl, ?_⟩
          rintro key ⟨⟩
          exact node.sha1_length _
        | null => exact bufferFromHex_of_property node _ rfl
        | bool _ => exact bufferFromHex_of_property node _ rfl
        | number _ => exact bufferFromHex_of_property node _ rfl
        | array _ => exact bufferFromHex_of_property node _ rfl
        | object _ => exact bufferFromHex_of_property node _ rfl
  | http reply =>
    simp only [hexField?, getUserPasswordSHA1,
      HttpAuthProvider.getUserPasswordSHA1]
    cases reply username with
    | error message => exact Or.inr ⟨rfl, fun _ impossible => by cases impossible⟩
    | ok ret =>
      simp only [bind, Except.bind]
      cases ret.property node "error" with
      | error message => exact Or.inr ⟨rfl, fun _ impossible => by cases impossible⟩
      | ok error =>
        dsimp only
        by_cases reported : error.truthy = true
        · rw [if_pos reported, if_pos reported]
          exact Or.inr ⟨rfl, fun _ impossible => by cases impossible⟩
        · rw [if_neg reported, if_neg reported]
          exact bufferFromHex_of_property node _ rfl
  | custom name password =>
    refine Or.inr ⟨rfl, ?_⟩
    intro key provided
    simp only [getUserPasswordSHA1, CustomAuthProvider.getUserPasswordSHA1]
      at provided
    split at provided
    · cases provided
    · cases provided
      exact node.sha1_length _

/-- `verify` resolves to true for the hash of a key and the challenge only. -/
theorem AuthProvider.verify_eq_true_iff {node : NodeRuntime} {provider : AuthProvider}
    {username : String} {challenge response : Bytes}
    : provider.verify node username challenge response = .resolved true
      ↔ ∃ key,
          provider.getUserPasswordSHA1 node username = .ok key
          ∧ node.sha1 (key ++ challenge) = response := by
  unfold verify BasicAuthProvider.verify
  cases provider.getUserPasswordSHA1 node username with
  | error message => simp
  | ok key => simp

/-- All answers accepted for a user are checked with a key of 20 octets exactly when the value the
key is decoded from, if there is one, gives 20 octets.
-/
theorem accepted_key_twenty_octets_iff (node : NodeRuntime) (provider : AuthProvider)
    (username : String)
    : (∀ challenge response,
        provider.verify node username challenge response = .resolved true
        → ∃ key, provider.getUserPasswordSHA1 node username = .ok key ∧ key.length = 20)
      ↔ ∀ field, provider.hexField? node username = some field → node.TwentyOctets field := by
  have accepted
      : (∀ challenge response,
          provider.verify node username challenge response = .resolved true
          → ∃ key, provider.getUserPasswordSHA1 node username = .ok key ∧ key.length = 20)
        ↔ ∀ key, provider.getUserPasswordSHA1 node username = .ok key → key.length = 20 := by
    constructor
    · intro holds key provided
      obtain ⟨other, same, length⟩ :=
        holds [] (node.sha1 (key ++ [])) (AuthProvider.verify_eq_true_iff.mpr ⟨key, provided, rfl⟩)
      rw [provided] at same
      cases same
      exact length
    · intro holds challenge response verified
      obtain ⟨key, provided, _⟩ := AuthProvider.verify_eq_true_iff.mp verified
      exact ⟨key, provided, holds key provided⟩
  rw [accepted]
  rcases provider.getUserPasswordSHA1_cases node username with
    ⟨field, here, decoded⟩ | ⟨none, hashed⟩
  · rw [decoded, here, ← node.twentyOctets_iff field]
    simp
  · exact iff_of_true hashed (fun _ some => by rw [none] at some; cases some)

def emptyHash : AuthProvider := .json (some (.object [("bob", .object [("sha1", .string "")])]))

/-- The key of this user is empty, and the hash of the challenge alone logs the user in, whatever
the challenge is.
-/
theorem empty_hash_accepts_anyone
    : (∀ node, emptyHash.getUserPasswordSHA1 node "bob" = .ok [])
      ∧ ∀ node challenge,
          emptyHash.verify node "bob" challenge (node.sha1 challenge) = .resolved true := by
  have key (node : NodeRuntime) : emptyHash.getUserPasswordSHA1 node "bob" = .ok [] := rfl
  refine ⟨key, ?_⟩
  intro node challenge
  exact AuthProvider.verify_eq_true_iff.mpr ⟨[], key node, rfl⟩

end SwitchLanPlay.Server
