import SwitchLanPlay.Packet.Udp

/-! The UDP datagrams that the gateway takes from the packets of the consoles and hands over to the
proxy. `gateway::processUdp` does not look at the fragment fields of the IPv4 header.
-/

namespace SwitchLanPlay.Gateway

open List Option
open Foundation
open Packet

structure UdpSend where
  src : Ipv4Addr
  srcport : Nat
  dst : Ipv4Addr
  dstport : Nat
  payload : Bytes
deriving DecidableEq, Repr

def processUdp (data : Bytes) : Option UdpSend :=
  let ipVersion := if 0 < data.length then readU8 data 0 / 16 else 0
  if ipVersion = 4 then
    let ipv4HeaderLength := readU8 data 0 % 16 * 4
    let udpBase := data.drop ipv4HeaderLength
    let udpLen := readBe16 udpBase udpOffLength
    if data.length < ipv4HeaderLen ∨ readU8 data ipv4OffProtocol ≠ ipv4ProtocolUdp then none
    else if ipv4HeaderLength < ipv4HeaderLen ∨ data.length < ipv4HeaderLength then none
    else if data.length < ipv4HeaderLength + udpOffEnd then none
    else if udpLen < udpOffEnd then none
    else if data.length - ipv4HeaderLength < udpLen then none
    else
      some {
        src := readIpv4 data ipv4OffSrc
        srcport := readBe16 udpBase udpOffSrcport
        dst := readIpv4 data ipv4OffDst
        dstport := readBe16 udpBase udpOffDstport
        payload := slice udpBase udpOffEnd (udpLen - udpOffEnd)
      }
  else none

/-- The packet is no fragment: more fragments do not follow, and the offset is zero. -/
def Unfragmented (data : Bytes) : Prop := readBe16 data 6 % 0x4000 = 0

instance (data : Bytes) : Decidable (Unfragmented data) := inferInstanceAs (Decidable (_ = _))

/-- The packet is an IPv4 header of the length it states, a UDP header and the payload, and
possibly more octets.
-/
structure IsDatagram (data : Bytes) (call : UdpSend) : Prop where
  version : readU8 data 0 / 16 = 4
  protocol : readU8 data ipv4OffProtocol = ipv4ProtocolUdp
  addresses : (readIpv4 data ipv4OffSrc, readIpv4 data ipv4OffDst) = (call.src, call.dst)
  ports : call.srcport < 65536 ∧ call.dstport < 65536
  length : udpOffEnd + call.payload.length < 65536
  octets
    : ∃ header checksum behind,
        data
          = header
            ++ (udpHeader call.srcport call.dstport (udpOffEnd + call.payload.length) checksum
              ++ (call.payload ++ behind))
        ∧ header.length = readU8 data 0 % 16 * 4
        ∧ ipv4HeaderLen ≤ header.length

theorem eq_udpHeader_append {base : Bytes} (long : udpOffEnd ≤ base.length)
    : base
      = udpHeader (readBe16 base udpOffSrcport) (readBe16 base udpOffDstport)
          (readBe16 base udpOffLength) (readBe16 base udpOffChecksum)
        ++ base.drop udpOffEnd := by
  unfold udpOffEnd at long
  have ports := drop_eq_be16_append (show 0 + 2 ≤ base.length by omega)
  have port := drop_eq_be16_append (show 2 + 2 ≤ base.length by omega)
  have length := drop_eq_be16_append (show 4 + 2 ≤ base.length by omega)
  have checksum := drop_eq_be16_append (show 6 + 2 ≤ base.length by omega)
  rw [drop_zero, port, length, checksum] at ports
  simp only [udpHeader, append_assoc]
  exact ports

theorem IsDatagram.of_processUdp {data : Bytes} {call : UdpSend}
    (called : processUdp data = some call)
    : IsDatagram data call := by
  simp only [processUdp, ite_none_right_eq_some, ite_none_left_eq_some,
    Option.some.injEq, not_or, Nat.not_lt, not_not] at called
  obtain ⟨version, ⟨long, protocol⟩, ⟨least, whole⟩, room, enough, inside, rfl⟩ := called
  rw [if_pos (by unfold ipv4HeaderLen at long; omega)] at version
  generalize front : readU8 data 0 % 16 * 4 = start at *
  generalize behind : data.drop start = base at *
  have size : base.length = data.length - start := by rw [← behind, length_drop]
  have length : udpOffEnd + (slice base udpOffEnd (readBe16 base udpOffLength - udpOffEnd)).length
      = readBe16 base udpOffLength := by
    rw [slice_length]
    omega
  refine ⟨version, protocol, rfl, ⟨readBe16_lt _ _, readBe16_lt _ _⟩, ?_, data.take start,
    readBe16 base udpOffChecksum, base.drop (readBe16 base udpOffLength), ?_, ?_, ?_⟩
  · rw [length]
    exact readBe16_lt _ _
  · have payload
        : slice base udpOffEnd (readBe16 base udpOffLength - udpOffEnd)
            ++ base.drop (readBe16 base udpOffLength)
          = base.drop udpOffEnd := by
      have rest := take_append_drop (readBe16 base udpOffLength - udpOffEnd)
        (base.drop udpOffEnd)
      rwa [drop_drop, Nat.add_sub_cancel' enough] at rest
    rw [payload, length, ← eq_udpHeader_append (by omega), ← behind, take_append_drop]
  · rw [length_take, front, Nat.min_eq_left whole]
  · rwa [length_take, Nat.min_eq_left whole]

theorem IsDatagram.processUdp_eq {data : Bytes} {call : UdpSend} (datagram : IsDatagram data call)
    : processUdp data = some call := by
  obtain ⟨header, checksum, behind, octets, start, least⟩ := datagram.octets
  have base : data.drop header.length
      = udpHeader call.srcport call.dstport (udpOffEnd + call.payload.length) checksum
        ++ (call.payload ++ behind) := by
    conv_lhs => rw [octets, drop_left]
  have length : data.length = header.length + (udpOffEnd + (call.payload.length + behind.length))
      := by
    conv_lhs => rw [octets, length_append, length_append, length_append]
    rfl
  obtain ⟨srcport, dstport, udpLen, -⟩ :=
    readBe16_udpHeader call.srcport call.dstport (udpOffEnd + call.payload.length) checksum
      (call.payload ++ behind)
  simp only [processUdp, ite_none_right_eq_some, ite_none_left_eq_some,
    Option.some.injEq, not_or, Nat.not_lt, not_not, ← start, base, srcport, dstport, udpLen,
    Nat.mod_eq_of_lt datagram.ports.1, Nat.mod_eq_of_lt datagram.ports.2,
    Nat.mod_eq_of_lt datagram.length]
  obtain ⟨src, dst⟩ := Prod.mk.inj datagram.addresses
  have positive : 0 < ipv4HeaderLen := by decide
  refine ⟨?_, ⟨by omega, datagram.protocol⟩, ⟨least, by omega⟩, by omega, by omega, by omega, ?_⟩
  · rw [if_pos (by omega)]
    exact datagram.version
  · have payload
        : slice
            (udpHeader call.srcport call.dstport (udpOffEnd + call.payload.length) checksum
              ++ (call.payload ++ behind))
            udpOffEnd (udpOffEnd + call.payload.length - udpOffEnd)
          = call.payload := by
      rw [Nat.add_sub_cancel_left]
      exact take_left
    rw [src, dst, payload]

theorem processUdp_eq_some_iff {data : Bytes} {call : UdpSend}
    : processUdp data = some call ↔ IsDatagram data call :=
  ⟨IsDatagram.of_processUdp, IsDatagram.processUdp_eq⟩

/-- The gateway hands over the unfragmented datagrams and nothing else if and only if the packet is
no fragment that has the form of a datagram.
-/
theorem processUdp_exact_iff (data : Bytes)
    : (∀ call, processUdp data = some call ↔ Unfragmented data ∧ IsDatagram data call)
      ↔ ¬(¬Unfragmented data ∧ ∃ call, IsDatagram data call) := by
  simp only [processUdp_eq_some_iff]
  constructor
  · rintro exact_ ⟨fragment, call, datagram⟩
    exact fragment ((exact_ call).mp datagram).1
  · intro other call
    refine ⟨fun datagram => ⟨?_, datagram⟩, And.right⟩
    by_contra fragment
    exact other ⟨fragment, call, datagram⟩

/-- The second fragment of a datagram, whose data look like a UDP header. -/
theorem fragment_sent
    : ¬Unfragmented
          [0x45, 0, 0, 30, 0, 1, 0, 0xb9, 64, 17, 0, 0, 10, 13, 1, 2, 8, 8, 8, 8,
            0x12, 0x34, 0, 53, 0, 10, 0, 0, 7, 9]
      ∧ processUdp
          [0x45, 0, 0, 30, 0, 1, 0, 0xb9, 64, 17, 0, 0, 10, 13, 1, 2, 8, 8, 8, 8,
            0x12, 0x34, 0, 53, 0, 10, 0, 0, 7, 9]
        = some ⟨⟨10, 13, 1, 2⟩, 0x1234, ⟨8, 8, 8, 8⟩, 53, [7, 9]⟩ := by
  decide

end SwitchLanPlay.Gateway
