import SwitchLanPlay.Setup.RelayAddress

/-! Addresses with a port (`parse_ip_port`), against the grammar they are to have. -/

namespace SwitchLanPlay.Client

open List
open Foundation
open Setup

def serverPort : Nat := 11451

def charOpen : UInt8 := 91
def charClose : UInt8 := 93

/-- What `parse_ip_port` returns and stores; `outAddr` are the octets it writes. -/
structure ParsedIpPort where
  ret : Int
  outAddr : Bytes
  outPort : Option Nat
  isIpv6 : Option Bool
deriving DecidableEq, Repr

def cutAt (octet : UInt8) (str : Bytes) : Option (Bytes × Bytes) :=
  if octet ∈ str then some (str.takeWhile (· ≠ octet), (str.dropWhile (· ≠ octet)).drop 1)
  else none

def splitIpPort (str : Bytes) : Option (Bool × Bytes × Bytes) :=
  if str.head? = some charOpen then
    match cutAt charClose (str.drop 1) with
    | none => none
    | some (addr, rest) =>
      if rest.head? ≠ some charColon then none else some (true, addr, rest.drop 1)
  else
    match cutAt charColon str with
    | none => some (false, str, [])
    | some (addr, port) => if charColon ∈ port then none else some (false, addr, port)

/-- The port, which has room for five characters and is read by `strtol`. -/
def parsePort (port : Bytes) : Option Nat :=
  if port = [] then some serverPort
  else if 6 ≤ port.length then none
  else
    match scanNumber port with
    | none => none
    | some (negative, value, err) =>
      if err ≠ [] ∨ negative ∨ value = 0 ∨ 65535 < value then none else some value

def parseIpPort (str : Bytes) (outAddrLen : Nat) : ParsedIpPort :=
  let isIpv6 := some (str.head? = some charOpen : Bool)
  if outAddrLen = 0 ∨ str.length < 1 ∨ 1000 < str.length then ⟨-1, [], none, none⟩
  else
    match splitIpPort str with
    | none => ⟨-1, [], none, isIpv6⟩
    | some (_, addr, port) =>
      if addr = [] ∨ outAddrLen ≤ addr.length then ⟨-1, [], none, isIpv6⟩
      else
        match parsePort port with
        | none => ⟨-1, addr ++ [0], none, isIpv6⟩
        | some outPort => ⟨0, addr ++ [0], some outPort, isIpv6⟩

-- The grammar

inductive IpPortForm : Bytes → Bool → Bytes → Bytes → Prop where
  | host {addr : Bytes} (plain : addr.head? ≠ some charOpen) (noColon : charColon ∉ addr)
    : IpPortForm addr false addr []
  | hostPort {addr port : Bytes} (plain : addr.head? ≠ some charOpen) (noColon : charColon ∉ addr)
    (noMore : charColon ∉ port)
    : IpPortForm (addr ++ charColon :: port) false addr port
  | bracket {addr port : Bytes} (noClose : charClose ∉ addr)
    : IpPortForm (charOpen :: (addr ++ charClose :: charColon :: port)) true addr port

structure IsPort (text : Bytes) (port : Nat) : Prop where
  some_ : text ≠ []
  short : text.length ≤ 5
  digits : ∀ octet ∈ text, isDigit octet
  value : digitsValue text = port
  positive : 0 < port
  bounded : port ≤ 65535

/-- A port behind white space or a plus, within five characters. -/
def IsLoosePort (text : Bytes) (port : Nat) : Prop :=
  text.length ≤ 5
  ∧ ∃ blanks plus digits,
      text = blanks ++ (plus ++ digits)
      ∧ blanks ++ plus ≠ []
      ∧ (∀ octet ∈ blanks, isSpace octet)
      ∧ (plus = [] ∨ plus = [charPlus])
      ∧ IsPort digits port

def Denotes (isPort : Bytes → Nat → Prop) (str : Bytes) (outAddrLen : Nat) (isIpv6 : Bool)
    (addr : Bytes) (port : Nat)
    : Prop :=
  ∃ text,
    IpPortForm str isIpv6 addr text
    ∧ addr ≠ []
    ∧ addr.length < outAddrLen
    ∧ isPort text port

def IsPortOrNone (text : Bytes) (port : Nat) : Prop :=
  text = [] ∧ port = serverPort ∨ IsPort text port

variable {str addr text : Bytes} {octet : UInt8}

theorem cutAt_eq_some_iff {front back : Bytes}
    : cutAt octet str = some (front, back) ↔ str = front ++ octet :: back ∧ octet ∉ front := by
  have first {front back : Bytes} (absent : octet ∉ front)
      : cutAt octet (front ++ octet :: back) = some (front, back) := by
    have others : ∀ other ∈ front, decide (other ≠ octet) = true :=
      fun other member => decide_eq_true fun same => absent (same ▸ member)
    rw [cutAt, if_pos (by simp), takeWhile_append_of_pos others,
      dropWhile_append_of_pos others]
    simp
  constructor
  · intro cut
    by_cases member : octet ∈ str
    · obtain ⟨front, back, rfl, absent⟩ := eq_append_cons_of_mem member
      rw [first absent] at cut
      cases cut
      exact ⟨rfl, absent⟩
    · rw [cutAt, if_neg member] at cut
      cases cut
  · rintro ⟨rfl, absent⟩
    exact first absent

theorem ipPortForm_iff {isIpv6 : Bool}
    : IpPortForm str isIpv6 addr text ↔ splitIpPort str = some (isIpv6, addr, text) := by
  constructor
  · rintro (⟨plain, noColon⟩ | ⟨plain, noColon, noMore⟩ | ⟨noClose⟩)
    · rw [splitIpPort, if_neg plain, cutAt, if_neg noColon]
    · have plain : (addr ++ charColon :: text).head? ≠ some charOpen := by
        cases addr with
        | nil => exact fun same => by cases same
        | cons octet addr => exact plain
      rw [splitIpPort, if_neg plain, cutAt_eq_some_iff.mpr ⟨rfl, noColon⟩]
      exact if_neg noMore
    · rw [splitIpPort, head?_cons, if_pos rfl, drop_one, tail_cons,
        cutAt_eq_some_iff.mpr ⟨rfl, noClose⟩]
      rfl
  · intro split
    rw [splitIpPort] at split
    split at split
    · next opened =>
        obtain ⟨rest, rfl⟩ := head?_eq_some_iff.mp opened
        rw [drop_one, tail_cons] at split
        split at split
        · cases split
        · next front back cut =>
            obtain ⟨rfl, noClose⟩ := cutAt_eq_some_iff.mp cut
            split at split
            · cases split
            · next colon =>
                obtain ⟨port, rfl⟩ := head?_eq_some_iff.mp (not_not.mp colon)
                cases split
                exact .bracket noClose
    · next plain =>
        split at split
        · next cut =>
            cases split
            refine .host plain fun member => ?_
            rw [cutAt, if_pos member] at cut
            cases cut
        · next front back cut =>
            obtain ⟨rfl, noColon⟩ := cutAt_eq_some_iff.mp cut
            split at split
            · cases split
            · next noMore =>
                cases split
                refine .hostPort (fun opened => plain ?_) noColon noMore
                obtain ⟨rest, rfl⟩ := head?_eq_some_iff.mp opened
                rfl

theorem skipSign_split (positive : text.head? ≠ some charMinus)
    : ∃ plus, text = plus ++ skipSign text ∧ (plus = [] ∨ plus = [charPlus]) := by
  unfold skipSign
  split
  · next signed =>
      obtain ⟨octet, rest, rfl⟩ := exists_cons_of_ne_nil (l := text) (by rintro rfl; simp at signed)
      have plus : octet = charPlus := by
        simpa [isSign, show octet ≠ charMinus by simpa using positive] using signed
      exact ⟨[octet], rfl, Or.inr (by rw [plus])⟩
  · exact ⟨[], rfl, Or.inl rfl⟩

/-- What `strtol` takes for a number that is not negative, up to the end of a text. -/
theorem scanNumber_eq_iff {value : Nat}
    : scanNumber text = some (false, value, [])
      ↔ ∃ blanks plus digits,
          text = blanks ++ (plus ++ digits)
          ∧ (∀ octet ∈ blanks, isSpace octet)
          ∧ (plus = [] ∨ plus = [charPlus])
          ∧ digits ≠ []
          ∧ (∀ octet ∈ digits, isDigit octet)
          ∧ digitsValue digits = value := by
  constructor
  · intro scanned
    rw [scanNumber] at scanned
    split at scanned
    · cases scanned
    · next some_ =>
        simp only [Option.some.injEq, Prod.mk.injEq, decide_eq_false_iff_not] at scanned
        obtain ⟨positive, rfl, ended⟩ := scanned
        have digits := dropWhile_eq_nil_iff.mp ended
        rw [takeWhile_eq_self_iff.mpr digits] at some_ ⊢
        obtain ⟨plus, split, sign⟩ := skipSign_split positive
        refine ⟨text.takeWhile isSpace, plus, _, ?_, fun octet => mem_takeWhile_imp, sign, some_,
          digits, rfl⟩
        rw [← split, takeWhile_append_dropWhile]
  · rintro ⟨blanks, plus, digits, rfl, spaces, sign, some_, all, rfl⟩
    have digits := takeWhile_eq_self_iff.mpr all
    have ended := dropWhile_eq_nil_iff.mpr all
    obtain ⟨digit, rest, rfl⟩ := exists_cons_of_ne_nil some_
    obtain ⟨noSpace, noSign⟩ := isDigit_apart (all digit mem_cons_self)
    have unsigned
        : (blanks ++ (plus ++ digit :: rest)).dropWhile isSpace = plus ++ digit :: rest := by
      rw [dropWhile_append_of_pos spaces]
      rcases sign with rfl | rfl
      · exact dropWhile_cons_of_neg (by simp [noSpace])
      · exact dropWhile_cons_of_neg (by decide)
    have skipped : skipSign (plus ++ digit :: rest) = digit :: rest := by
      rcases sign with rfl | rfl
      · exact if_neg (by simp [noSign])
      · rfl
    have positive : decide ((plus ++ digit :: rest).head? = some charMinus) = false := by
      rcases sign with rfl | rfl
      · refine decide_eq_false fun same => ?_
        cases same
        cases noSign
      · rfl
    rw [scanNumber, unsigned, skipped, if_neg (by rw [digits]; exact some_), digits, ended,
      positive]

theorem parsePort_eq_some_iff {port : Nat}
    : parsePort text = some port ↔ IsPortOrNone text port ∨ IsLoosePort text port := by
  by_cases empty : text = []
  · rw [parsePort, if_pos empty, IsPortOrNone]
    constructor
    · exact fun same => Or.inl (Or.inl ⟨empty, (Option.some.inj same).symm⟩)
    · rintro ((⟨-, rfl⟩ | isPort) | ⟨-, blanks, plus, digits, split, -, -, -, isPort⟩)
      · rfl
      · exact absurd empty isPort.some_
      · simp [empty, isPort.some_] at split
  by_cases long : 6 ≤ text.length
  · rw [parsePort, if_neg empty, if_pos long]
    refine iff_of_false (by simp) ?_
    rintro ((⟨none, -⟩ | isPort) | ⟨short, -⟩)
    · exact empty none
    · have := isPort.short
      omega
    · omega
  have accepted : parsePort text = some port
      ↔ scanNumber text = some (false, port, []) ∧ 0 < port ∧ port ≤ 65535 := by
    rw [parsePort, if_neg empty, if_neg long]
    rcases scanNumber text with - | ⟨negative, value, err⟩
    · simp
    · by_cases refused : err ≠ [] ∨ negative ∨ value = 0 ∨ 65535 < value
      · simp only [if_pos refused]
        refine iff_of_false (by simp) ?_
        rintro ⟨same, positive, bounded⟩
        cases same
        simp at refused
        omega
      · simp only [if_neg refused]
        simp only [not_or, not_not, Bool.not_eq_true, Nat.not_lt] at refused
        obtain ⟨rfl, rfl, nonzero, bounded⟩ := refused
        constructor
        · intro same
          cases same
          exact ⟨rfl, Nat.pos_of_ne_zero nonzero, bounded⟩
        · rintro ⟨same, -⟩
          cases same
          rfl
  rw [accepted, scanNumber_eq_iff]
  constructor
  · rintro ⟨⟨blanks, plus, digits, rfl, spaces, sign, some_, all, value⟩, positive, bounded⟩
    have isPort : IsPort digits port := by
      refine ⟨some_, ?_, all, value, positive, bounded⟩
      simp only [length_append] at long
      omega
    by_cases front : blanks ++ plus = []
    · obtain ⟨rfl, rfl⟩ := append_eq_nil_iff.mp front
      exact Or.inl (Or.inr isPort)
    · exact Or.inr ⟨by omega, blanks, plus, digits, rfl, front, spaces, sign, isPort⟩
  · rintro ((⟨none, -⟩ | isPort) | ⟨-, blanks, plus, digits, rfl, -, spaces, sign, isPort⟩)
    · exact absurd none empty
    · exact ⟨⟨[], [], text, rfl, forall_mem_nil _, Or.inl rfl, isPort.some_, isPort.digits,
        isPort.value⟩, isPort.positive, isPort.bounded⟩
    · exact ⟨⟨blanks, plus, digits, rfl, spaces, sign, isPort.some_, isPort.digits, isPort.value⟩,
        isPort.positive, isPort.bounded⟩

/-- A port begins with a digit. -/
theorem IsLoosePort.not_isPortOrNone {port other : Nat} (loose : IsLoosePort text port)
    : ¬ IsPortOrNone text other := by
  obtain ⟨-, blanks, plus, digits, rfl, front, spaces, sign, isPort⟩ := loose
  rintro (⟨none, -⟩ | ⟨-, -, all, -⟩)
  · simp [isPort.some_] at none
  · rcases blanks with - | ⟨blank, blanks⟩
    · obtain rfl := sign.resolve_left front
      exact absurd (all charPlus mem_cons_self) (by decide)
    · have digit := isDigit_apart (all blank mem_cons_self)
      rw [spaces blank mem_cons_self] at digit
      cases digit.1

theorem IpPortForm.isIpv6_eq {isIpv6 : Bool} (form : IpPortForm str isIpv6 addr text)
    (some_ : addr ≠ [])
    : isIpv6 = decide (str.head? = some charOpen) ∧ str ≠ [] := by
  obtain ⟨octet, rest, rfl⟩ := exists_cons_of_ne_nil some_
  cases form with
  | host plain => exact ⟨(decide_eq_false plain).symm, cons_ne_nil _ _⟩
  | hostPort plain => exact ⟨(decide_eq_false plain).symm, cons_ne_nil _ _⟩
  | bracket => exact ⟨rfl, cons_ne_nil _ _⟩

def ParsedIpPort.Exact (parsed : ParsedIpPort) (isPort : Bytes → Nat → Prop) (str : Bytes)
    (outAddrLen : Nat)
    : Prop :=
  (∃ isIpv6 addr port,
      Denotes isPort str outAddrLen isIpv6 addr port
      ∧ parsed = ⟨0, addr ++ [0], some port, some isIpv6⟩)
  ∨ ((¬ ∃ isIpv6 addr port, Denotes isPort str outAddrLen isIpv6 addr port)
    ∧ parsed.ret ≠ 0
    ∧ parsed.outAddr.length ≤ outAddrLen)

theorem parseIpPort_exact (short : str.length ≤ 1000) (outAddrLen : Nat)
    : (parseIpPort str outAddrLen).Exact (fun text port => parsePort text = some port) str
        outAddrLen := by
  have failed : (-1 : Int) ≠ 0 := by decide
  rw [parseIpPort]
  split
  · next edge =>
      refine Or.inr ⟨?_, failed, Nat.zero_le _⟩
      rintro ⟨isIpv6, addr, port, text, form, some_, fits, -⟩
      have := length_pos_iff.mpr (form.isIpv6_eq some_).2
      omega
  · cases found : splitIpPort str with
    | none =>
      refine Or.inr ⟨?_, failed, Nat.zero_le _⟩
      rintro ⟨isIpv6, addr, port, text, form, -⟩
      cases found.symm.trans (ipPortForm_iff.mp form)
    | some found' =>
      obtain ⟨isIpv6, addr, text⟩ := found'
      dsimp only
      split
      · next refused =>
          refine Or.inr ⟨?_, failed, Nat.zero_le _⟩
          rintro ⟨isIpv6, addr, port, text, form, some_, fits, -⟩
          cases found.symm.trans (ipPortForm_iff.mp form)
          exact refused.elim some_ (Nat.not_le.mpr fits)
      · next fits =>
          rw [not_or, Nat.not_le] at fits
          cases read : parsePort text with
          | none =>
            refine Or.inr ⟨?_, failed, by simpa using fits.2⟩
            rintro ⟨isIpv6, addr, port, text, form, -, -, other⟩
            cases found.symm.trans (ipPortForm_iff.mp form)
            cases read.symm.trans other
          | some port =>
            have form := ipPortForm_iff.mpr found
            rw [← (form.isIpv6_eq fits.1).1]
            exact Or.inl ⟨isIpv6, addr, port, ⟨text, form, fits.1, fits.2, read⟩, rfl⟩

/-- `parse_ip_port` accepts what the grammar has and stores what it denotes, if and only if the port
does not stand behind white space or a plus.
-/
theorem parseIpPort_exact_iff (short : str.length ≤ 1000) (outAddrLen : Nat)
    : (parseIpPort str outAddrLen).Exact IsPortOrNone str outAddrLen
      ↔ ¬ ∃ isIpv6 addr port, Denotes IsLoosePort str outAddrLen isIpv6 addr port := by
  have parsed := parseIpPort_exact short outAddrLen
  constructor
  · rintro exact_ ⟨isIpv6, addr, port, text, form, some_, fits, loose⟩
    rcases parsed with ⟨_, _, _, -, same⟩ | ⟨none, -⟩
    · rcases exact_ with ⟨_, _, _, ⟨other, otherForm, -, -, isPort⟩, -⟩ | ⟨-, failed, -⟩
      · cases (ipPortForm_iff.mp form).symm.trans (ipPortForm_iff.mp otherForm)
        exact loose.not_isPortOrNone isPort
      · exact failed (by rw [same])
    · exact none ⟨isIpv6, addr, port, text, form, some_, fits,
        parsePort_eq_some_iff.mpr (Or.inr loose)⟩
  · intro none
    have same isIpv6 addr port
        : Denotes (fun text port => parsePort text = some port) str outAddrLen isIpv6 addr port
          ↔ Denotes IsPortOrNone str outAddrLen isIpv6 addr port := by
      refine exists_congr fun text => ?_
      dsimp only
      rw [parsePort_eq_some_iff]
      constructor
      · rintro ⟨form, some_, fits, isPort | loose⟩
        · exact ⟨form, some_, fits, isPort⟩
        · exact absurd ⟨isIpv6, addr, port, text, form, some_, fits, loose⟩ none
      · exact fun ⟨form, some_, fits, isPort⟩ => ⟨form, some_, fits, Or.inl isPort⟩
    simpa only [ParsedIpPort.Exact, same] using parsed

theorem parseIpPort_exact_iff_host
    : (parseIpPort [104, 58, 56, 48] 16).Exact IsPortOrNone [104, 58, 56, 48] 16
      ↔ ¬ ∃ isIpv6 addr port, Denotes IsLoosePort [104, 58, 56, 48] 16 isIpv6 addr port :=
  parseIpPort_exact_iff (by decide) 16

/-- A plus or a blank in front of the port 80. -/
theorem loose_ports_accepted
    : parseIpPort [104, 58, 43, 56, 48] 16 = ⟨0, [104, 0], some 80, some false⟩
      ∧ parseIpPort [104, 58, 32, 56, 48] 16 = ⟨0, [104, 0], some 80, some false⟩ := by
  decide

end SwitchLanPlay.Client
