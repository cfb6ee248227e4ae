import SwitchLanPlay.Foundation.Access
import SwitchLanPlay.Packet.Address

/-! The datagrams of `Socks5ProxyUdp`: what `send` builds for the proxy, and what the handler of
received datagrams makes of any octets.
-/

namespace SwitchLanPlay.Gateway

open List
open Foundation
open Packet

def socks5UdpHeaderSize : Nat := 10

structure ProtocolUnpacker where
  data : Bytes
  offset : Nat

/-- `readAny` into a variable that holds some octets: it keeps them if there are too few left. -/
def ProtocolUnpacker.readAny (unpacker : ProtocolUnpacker) (held : Bytes)
    : ProtocolUnpacker × Bytes :=
  if unpacker.data.length < unpacker.offset + held.length then (unpacker, held)
  else
    ({ unpacker with offset := unpacker.offset + held.length },
      slice unpacker.data unpacker.offset held.length)

/-- The variables of the handler, which are not initialised. -/
structure UdpLocals where
  rev : Nat
  frag : UInt8
  atyp : UInt8
  addr : Ipv4Addr
  port : Nat

/-- What `send_udp_ex` is called with for a datagram: the sender, and the length of the payload that
begins behind the header.
-/
structure UdpForward where
  fromIp : Bytes
  fromPort : Nat
  len : Nat
deriving DecidableEq, Repr

/-- The handler of `UDPDataEvent`; nothing if the datagram is dropped. -/
def socks5UdpOnData (locals : UdpLocals) (data : Bytes) : Option UdpForward :=
  let unpacker : ProtocolUnpacker := ⟨data, 0⟩
  let (unpacker, _) := unpacker.readAny (be16 locals.rev)
  let (unpacker, _) := unpacker.readAny [locals.frag]
  let (unpacker, atyp) := unpacker.readAny [locals.atyp]
  if atyp ≠ [1] then none
  else
    let (unpacker, addr) := unpacker.readAny locals.addr.toBytes
    let (_, port) := unpacker.readAny (be16 locals.port)
    -- the difference is cut to 16 bits, also when it is negative
    some ⟨addr, readBe16 port 0, (data.length + 65536 - socks5UdpHeaderSize) % 65536⟩

def UdpForward.payload? (forward : UdpForward) (data : Bytes) : Option Bytes :=
  readSlice? forward.len data socks5UdpHeaderSize

/-- The datagram `Socks5ProxyUdp::send` builds, in a buffer that has room for these octets. -/
def socks5UdpDatagram (addr : Ipv4Addr) (port : Nat) (payload : Bytes) : Bytes :=
  be16 0 ++ [0] ++ [1] ++ addr.toBytes ++ be16 port ++ payload

def Decodes (data : Bytes) (addr : Ipv4Addr) (port : Nat) (payload : Bytes) : Prop :=
  ∀ locals, ∃ forward,
    socks5UdpOnData locals data = some forward
    ∧ forward.fromIp = addr.toBytes
    ∧ forward.fromPort = port
    ∧ forward.payload? data = some payload

/-- A datagram without a header or with a fragment number is dropped, and what is forwarded of
another lies within it.
-/
def ForwardsInside (data : Bytes) : Prop :=
  ∀ locals forward,
    socks5UdpOnData locals data = some forward
    → socks5UdpHeaderSize ≤ data.length
      ∧ data[2]? = some 0
      ∧ forward.fromIp = slice data 4 4
      ∧ forward.fromPort = readBe16 data 8
      ∧ (forward.payload? data).isSome

theorem socks5UdpOnData_of_short (locals : UdpLocals) {data : Bytes} (short : data.length < 4)
    (ipv4 : locals.atyp = 1)
    : (socks5UdpOnData locals data).isSome := by
  rcases data with - | ⟨a, - | ⟨b, - | ⟨c, - | ⟨d, rest⟩⟩⟩⟩
  · simp [socks5UdpOnData, ProtocolUnpacker.readAny, ipv4]
  · simp [socks5UdpOnData, ProtocolUnpacker.readAny, ipv4]
  · simp [socks5UdpOnData, ProtocolUnpacker.readAny, ipv4]
  · simp [socks5UdpOnData, ProtocolUnpacker.readAny, ipv4]
  · simp at short
    omega

theorem readAny_of_le {data held : Bytes} {offset : Nat}
    (inside : offset + held.length ≤ data.length)
    : ProtocolUnpacker.readAny ⟨data, offset⟩ held
      = (⟨data, offset + held.length⟩, slice data offset held.length) :=
  if_neg (Nat.not_lt.mpr inside)

theorem slice_one_eq_iff {data : Bytes} {offset : Nat} {octet : UInt8}
    : slice data offset 1 = [octet] ↔ data[offset]? = some octet := by
  rw [slice, take_one, head?_drop]
  cases data[offset]? <;> simp

/-- A datagram with a type of address is dropped or forwarded by it alone; one with a whole header
is forwarded with what it holds.
-/
theorem socks5UdpOnData_of_header (locals : UdpLocals) {data : Bytes} (long : 4 ≤ data.length)
    : (data[3]? ≠ some 1 → socks5UdpOnData locals data = none)
      ∧ (data[3]? = some 1
        → ∃ forward,
            socks5UdpOnData locals data = some forward
            ∧ (10 ≤ data.length
              → forward = ⟨slice data 4 4, readBe16 data 8, (data.length - 10) % 65536⟩)) := by
  have rev := @readAny_of_le data (be16 locals.rev) 0 (by rw [be16_length]; omega)
  have frag := @readAny_of_le data [locals.frag] 2 (by rw [length_singleton]; omega)
  have atyp := @readAny_of_le data [locals.atyp] 3 (by rw [length_singleton]; omega)
  simp only [be16_length, length_singleton] at rev frag atyp
  rw [Ne, ← slice_one_eq_iff, socks5UdpOnData]
  simp only [rev, frag, atyp]
  constructor
  · exact fun other => if_pos other
  · intro ipv4
    refine ⟨_, if_neg (not_not.mpr ipv4), fun whole => ?_⟩
    have addr := @readAny_of_le data locals.addr.toBytes 4
      (by simp only [Ipv4Addr.toBytes, length_cons, length_nil]; omega)
    have port := @readAny_of_le data (be16 locals.port) 8 (by rw [be16_length]; omega)
    simp only [Ipv4Addr.toBytes, be16_length, length_cons, length_nil] at addr port
    have octets : readBe16 (slice data 8 2) 0 = readBe16 data 8 := by
      simp [readBe16, readU8, slice, getElem?_drop]
    have len : (data.length + 65536 - 10) % 65536 = (data.length - 10) % 65536 := by omega
    simp only [Ipv4Addr.toBytes, addr, port, octets, socks5UdpHeaderSize, len]

theorem decodes_socks5UdpDatagram_iff (addr : Ipv4Addr) {port : Nat} (valid : port < 65536)
    (payload : Bytes)
    : Decodes (socks5UdpDatagram addr port payload) addr port payload
      ↔ payload.length < 65536 := by
  generalize built : socks5UdpDatagram addr port payload = data
  have length : data.length = payload.length + 10 := by
    simp [← built, socks5UdpDatagram, Ipv4Addr.toBytes]
    omega
  have behind : data.drop 10 = payload := by rw [← built]; rfl
  have from_ : slice data 4 4 = addr.toBytes := by rw [← built]; rfl
  have number : readBe16 data 8 = port := by
    rw [← built, socks5UdpDatagram, append_assoc]
    have read :=
      readBe16_field (rfl : (be16 0 ++ [0] ++ [1] ++ addr.toBytes).length = 8) port payload
    rwa [Nat.mod_eq_of_lt valid] at read
  have forwarded (locals : UdpLocals)
      : socks5UdpOnData locals data = some ⟨addr.toBytes, port, payload.length % 65536⟩ := by
    obtain ⟨forward, found, whole⟩ :=
      (socks5UdpOnData_of_header locals (show 4 ≤ data.length by omega)).2 (by rw [← built]; rfl)
    rw [found, whole (by omega), from_, number, length, Nat.add_sub_cancel]
  have payload? : UdpForward.payload? ⟨addr.toBytes, port, payload.length % 65536⟩ data
      = some (payload.take (payload.length % 65536)) := by
    rw [UdpForward.payload?, readSlice?_of_le, slice, socks5UdpHeaderSize, behind]
    rw [socks5UdpHeaderSize, length]
    dsimp only
    omega
  constructor
  · intro decodes
    obtain ⟨forward, found, -, -, same⟩ := decodes ⟨0, 0, 0, noneIp, 0⟩
    rw [forwarded, Option.some.injEq] at found
    rw [← found, payload?, Option.some.injEq] at same
    have := congrArg List.length same
    rw [length_take] at this
    omega
  · intro short locals
    refine ⟨_, forwarded locals, rfl, rfl, ?_⟩
    rw [payload?, Nat.mod_eq_of_lt short, take_length]

theorem forwardsInside_iff (data : Bytes)
    : ForwardsInside data
      ↔ 4 ≤ data.length ∧ (data[3]? = some 1 → 10 ≤ data.length ∧ data[2]? = some 0) := by
  constructor
  · intro inside
    have long : 4 ≤ data.length := by
      by_contra short
      have some_ := socks5UdpOnData_of_short ⟨0, 0, 1, noneIp, 0⟩ (Nat.not_le.mp short) rfl
      obtain ⟨forward, found⟩ := Option.isSome_iff_exists.mp some_
      have := (inside _ forward found).1
      rw [socks5UdpHeaderSize] at this
      omega
    refine ⟨long, fun ipv4 => ?_⟩
    obtain ⟨forward, found, -⟩ := (socks5UdpOnData_of_header ⟨0, 0, 0, noneIp, 0⟩ long).2 ipv4
    obtain ⟨header, frag, -⟩ := inside _ forward found
    exact ⟨header, frag⟩
  · rintro ⟨long, header⟩ locals forward found
    obtain ⟨dropped, kept⟩ := socks5UdpOnData_of_header locals long
    by_cases ipv4 : data[3]? = some 1
    · obtain ⟨whole, frag⟩ := header ipv4
      obtain ⟨same, forwarded, holds⟩ := kept ipv4
      rw [found, Option.some.injEq] at forwarded
      rw [forwarded, holds whole]
      refine ⟨whole, frag, rfl, rfl, ?_⟩
      rw [UdpForward.payload?, readSlice?_of_le]
      · rfl
      · have := Nat.mod_le (data.length - 10) 65536
        rw [socks5UdpHeaderSize]
        dsimp only
        omega
    · rw [dropped ipv4] at found
      cases found

/-- Both directions of the encapsulation: what `send` builds is decoded if and only if the length of
the payload has 16 bits, and a datagram is handled safely if and only if it has a type of address
and, for IPv4, a whole header with the fragment number 0.
-/
theorem socks5Udp_exact_iff (addr : Ipv4Addr) {port : Nat} (valid : port < 65536)
    (payload data : Bytes)
    : (Decodes (socks5UdpDatagram addr port payload) addr port payload ↔ payload.length < 65536)
      ∧ (ForwardsInside data
        ↔ 4 ≤ data.length ∧ (data[3]? = some 1 → 10 ≤ data.length ∧ data[2]? = some 0)) :=
  ⟨decodes_socks5UdpDatagram_iff addr valid payload, forwardsInside_iff data⟩

theorem socks5Udp_exact_iff_short
    : (Decodes (socks5UdpDatagram ⟨8, 8, 8, 8⟩ 53 [7]) ⟨8, 8, 8, 8⟩ 53 [7]
        ↔ [(7 : UInt8)].length < 65536)
      ∧ (ForwardsInside [0, 0, 0, 1]
        ↔ 4 ≤ [0, 0, 0, 1].length
          ∧ ([(0 : UInt8), 0, 0, 1][3]? = some 1
            → 10 ≤ [0, 0, 0, 1].length ∧ [(0 : UInt8), 0, 0, 1][2]? = some 0)) :=
  socks5Udp_exact_iff ⟨8, 8, 8, 8⟩ (by decide) [7] [0, 0, 0, 1]

/-- Four octets, of which a payload of 65530 is sent, and a fragment. -/
theorem malformed_datagrams_forwarded
    : socks5UdpOnData ⟨0, 0, 0, ⟨10, 0, 0, 1⟩, 80⟩ [0, 0, 0, 1] = some ⟨[10, 0, 0, 1], 80, 65530⟩
      ∧ UdpForward.payload? ⟨[10, 0, 0, 1], 80, 65530⟩ [0, 0, 0, 1] = none
      ∧ socks5UdpOnData ⟨0, 0, 0, noneIp, 0⟩ [0, 0, 2, 1, 8, 8, 8, 8, 0, 53, 7]
        = some ⟨[8, 8, 8, 8], 53, 1⟩ := by
  decide

end SwitchLanPlay.Gateway
