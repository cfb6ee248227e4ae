import SwitchLanPlay.Packet.Ether
import SwitchLanPlay.Sysmodule.LobbyCache
import SwitchLanPlay.Sysmodule.Sessions

/-! `tap_send_packet`: what the sysmodule does with the frames for the console. UDP payloads
go to a session of the TCP proxy, to the LDN port of `ldn_mitm` or to a raw socket; all other
frames are skipped.
-/

namespace SwitchLanPlay.Sysmodule

open List
open Foundation
open Packet
open LdnMitm (readLANPacketHeader)

variable {payload packet : Bytes} {maxOut sport dport : Nat} {srcIp dstIp : UInt32}

structure UdpPacket where
  srcIp : UInt32
  dstIp : UInt32
  srcPort : Nat
  dstPort : Nat
  payload : Bytes
deriving DecidableEq, Repr

/-- The parser of `tap_send_packet`, for frames longer than their header. Frames that it
skips give nothing.
-/
def tapParse (frame : Bytes) : Option UdpPacket :=
  let packet := frame.drop etherHeaderLen
  if readBe16 frame etherOffType ≠ 0x0800 then none
  else if packet.length < 20 ∨ readU8 packet 0 / 16 ≠ 4 then none
  else
    let headerLen := readU8 packet 0 % 16 * 4
    if readU8 packet 9 = 17 ∧ headerLen + 8 ≤ packet.length then
      let udpLen := readBe16 packet (headerLen + 4)
      if udpLen ≤ 8 ∨ packet.length < headerLen + 8 + (udpLen - 8) then none
      else
        some
          {
            srcIp := UInt32.ofNat (readBe32 packet 12)
            dstIp := UInt32.ofNat (readBe32 packet 16)
            srcPort := readBe16 packet headerLen
            dstPort := readBe16 packet (headerLen + 2)
            payload := slice packet (headerLen + 8) (udpLen - 8)
          }
    else none

/-- What reaches a local socket: octets of a proxied connection, a datagram to the LDN port of
`ldn_mitm`, or a datagram of the raw inject socket.
-/
inductive Delivery where
  | tcp (clientFd : Nat) (data : Bytes)
  | ldn (data : Bytes)
  | raw (address : UInt32) (port : Nat) (data : Bytes)
deriving DecidableEq, Repr

def Delivery.tcp? : Delivery → Option (Nat × Bytes)
  | .tcp clientFd data => some (clientFd, data)
  | .ldn _ => none
  | .raw _ _ _ => none

/-- The state behind `tap_send_packet`; the flags tell whether `g_inject_fd` and
`g_bridge_inject_fd` are open.
-/
structure Tap where
  sessions : Sessions
  injectOpen : Bool
  bridgeInjectOpen : Bool
  lobbyCache : LobbyCache

/-- What the system calls return: `send` on a session's socket, the two calls of `sendto`,
`lobby_cache_enabled()` and the system tick.
-/
structure TapCalls where
  send : Bytes → Nat
  sendLdn : Bool
  sendRaw : Bool
  cacheEnabled : Bool
  tick : UInt64

def tcpInjectFromRelay (sessions : Sessions) (calls : TapCalls) (srcIp : UInt32) (data : Bytes)
    : List Delivery :=
  if data.length = 0 then []
  else
    match sessions.socketFor srcIp with
    | none => []
    | some clientFd => [.tcp clientFd (sendAll calls.send data.length data)]

def Tap.ldnBridgeInject (tap : Tap) (calls : TapCalls) (payload : Bytes)
    : Tap × List Delivery × Int :=
  if !tap.bridgeInjectOpen || payload.length = 0 then (tap, [], -1)
  else if payload.length < ldnHeaderSize then (tap, [], 0)
  else if (readLANPacketHeader payload).magic ≠ ldnMagic then (tap, [], 0)
  else
    let tap :=
      {
        tap with
        lobbyCache := tap.lobbyCache.storeIfScanresp calls.cacheEnabled calls.tick payload
      }
    if calls.sendLdn then (tap, [.ldn payload], 0) else (tap, [], -1)

/-- The last part of `tap_send_packet`: the payload through the raw socket, to the broadcast
address for the virtual subnet and to the loopback address otherwise.
-/
def Tap.rawInject (tap : Tap) (calls : TapCalls) (udp : UdpPacket) : List Delivery × Int :=
  if !tap.injectOpen then ([], -1)
  else
    let address : UInt32 :=
      if udp.dstIp = 0xFFFFFFFF ∨ udp.dstIp &&& 0xFFFF0000 = 0x0A0D0000 then 0xFFFFFFFF
      else 0x7F000001
    if calls.sendRaw then ([.raw address udp.dstPort udp.payload], 0) else ([], -1)

def Tap.sendUdp (tap : Tap) (calls : TapCalls) (udp : UdpPacket) : Tap × List Delivery × Int :=
  if udp.dstPort = ldnGamePort ∧ 4 ≤ udp.payload.length ∧ udp.srcPort = ldnBridgePort then
    (tap, tcpInjectFromRelay tap.sessions calls udp.srcIp udp.payload, 0)
  else if udp.dstPort = ldnGamePort ∧ 12 ≤ udp.payload.length then
    let injected := tap.ldnBridgeInject calls udp.payload
    if injected.2.2 = 0 then injected
    else
      let raw := injected.1.rawInject calls udp
      (injected.1, injected.2.1 ++ raw.1, raw.2)
  else (tap, tap.rawInject calls udp)

def Tap.tapSendPacket (tap : Tap) (calls : TapCalls) (frame : Bytes)
    : Tap × List Delivery × Int :=
  if frame.length ≤ etherHeaderLen then (tap, [], -1)
  else
    match tapParse frame with
    | none => (tap, [], 0)
    | some udp => tap.sendUdp calls udp

def Tap.tapSendPackets (tap : Tap) (calls : TapCalls) : List Bytes → Tap × List Delivery
  | [] => (tap, [])
  | frame :: rest =>
    let sent := tap.tapSendPacket calls frame
    let later := sent.1.tapSendPackets calls rest
    (later.1, sent.2.1 ++ later.2)

-- Packets of the bridge

/-- The fields of a packet of `build_ip_udp`, at their places. -/
theorem buildIpUdp_fields (built : buildIpUdp maxOut srcIp dstIp sport dport payload = some packet)
    : packet.length = 28 + payload.length
      ∧ readU8 packet 0 = 0x45
      ∧ readU8 packet 9 = 17
      ∧ readBe32 packet 12 = srcIp.toNat
      ∧ readBe32 packet 16 = dstIp.toNat
      ∧ readBe16 packet 20 = sport % 65536
      ∧ readBe16 packet 22 = dport % 65536
      ∧ readBe16 packet 24 = (8 + payload.length) % 65536
      ∧ packet.drop 28 = payload := by
  unfold buildIpUdp at built
  dsimp only at built
  split at built
  · cases built
  · cases built
    refine ⟨?_, rfl, rfl, ?_, ?_, ?_, ?_, ?_, drop_left' rfl⟩
    · simp only [length_append, be16_length, be32_length, length_cons, length_nil]
    -- each field is read behind the octets before it, taken together as one string
    · simp only [append_assoc]
      iterate 2 rw [← append_assoc]
      exact Eq.trans (readBe32_field (by rfl) _ _) (Nat.mod_eq_of_lt srcIp.toNat_lt)
    · simp only [append_assoc]
      iterate 3 rw [← append_assoc]
      exact Eq.trans (readBe32_field (by rfl) _ _) (Nat.mod_eq_of_lt dstIp.toNat_lt)
    · simp only [append_assoc]
      iterate 4 rw [← append_assoc]
      exact readBe16_field rfl _ _
    · simp only [append_assoc]
      iterate 5 rw [← append_assoc]
      exact readBe16_field rfl _ _
    · simp only [append_assoc]
      iterate 6 rw [← append_assoc]
      exact readBe16_field rfl _ _

/-- A frame with a packet of `build_ip_udp` is read back. -/
theorem tapParse_buildIpUdp (sportFits : sport < 65536) (dportFits : dport < 65536)
    (nonempty : 0 < payload.length) (fits : 8 + payload.length < 65536)
    (built : buildIpUdp maxOut srcIp dstIp sport dport payload = some packet) (dst src : MacAddr)
    : tapParse (etherHeader dst src etherTypeIpv4 ++ packet)
      = some ⟨srcIp, dstIp, sport, dport, payload⟩ := by
  have type : readBe16 (etherHeader dst src etherTypeIpv4 ++ packet) etherOffType = 0x0800 :=
    readBe16_etherHeader_append dst src etherTypeIpv4 packet
  have behind : (etherHeader dst src etherTypeIpv4 ++ packet).drop etherHeaderLen = packet :=
    drop_left' (etherHeader_length dst src etherTypeIpv4)
  obtain ⟨length, version, protocol, source, destination, srcPort, dstPort, udpLen, body⟩ :=
    buildIpUdp_fields built
  rw [Nat.mod_eq_of_lt sportFits] at srcPort
  rw [Nat.mod_eq_of_lt dportFits] at dstPort
  rw [Nat.mod_eq_of_lt fits] at udpLen
  have header : readU8 packet 0 % 16 * 4 = 20 := by rw [version]
  have whole : ¬ (packet.length < 20 ∨ readU8 packet 0 / 16 ≠ 4) := by omega
  have udp : readU8 packet 9 = 17 ∧ 20 + 8 ≤ packet.length := by omega
  have sound : ¬ (8 + payload.length ≤ 8
      ∨ packet.length < 20 + 8 + (8 + payload.length - 8)) := by
    omega
  have inner : slice packet (20 + 8) (8 + payload.length - 8) = payload := by
    rw [slice, body]
    exact take_of_length_le (by omega)
  unfold tapParse
  dsimp only
  rw [behind, if_neg (not_not_intro type), if_neg whole, header, if_pos udp, udpLen, if_neg sound,
    inner, source, destination, srcPort, dstPort, UInt32.ofNat_toNat, UInt32.ofNat_toNat]

/-- Frames of other types are skipped. -/
theorem Tap.tapSendPacket_other (tap : Tap) (calls : TapCalls) {frame : Bytes}
    (type : readBe16 frame etherOffType ≠ 0x0800)
    : tapParse frame = none
      ∧ (tap.tapSendPacket calls frame).1 = tap
      ∧ (tap.tapSendPacket calls frame).2.1 = [] := by
  have skipped : tapParse frame = none := by
    unfold tapParse
    exact if_pos type
  unfold tapSendPacket
  rw [skipped]
  split <;> exact ⟨rfl, rfl, rfl⟩

/-- A frame of the bridge is handled by its ports and length alone. -/
theorem Tap.tapSendPacket_buildIpUdp (tap : Tap) (calls : TapCalls) (sportFits : sport < 65536)
    (dportFits : dport < 65536) (nonempty : 0 < payload.length) (fits : 8 + payload.length < 65536)
    (built : buildIpUdp maxOut srcIp dstIp sport dport payload = some packet) (dst src : MacAddr)
    : tap.tapSendPacket calls (etherHeader dst src etherTypeIpv4 ++ packet)
      = tap.sendUdp calls ⟨srcIp, dstIp, sport, dport, payload⟩ := by
  have long : ¬ (etherHeader dst src etherTypeIpv4 ++ packet).length ≤ etherHeaderLen := by
    rw [length_append, etherHeader_length, (buildIpUdp_fields built).1]
    omega
  unfold tapSendPacket
  rw [if_neg long, tapParse_buildIpUdp sportFits dportFits nonempty fits built]

/-- Tunnelled data goes to the session of its sender, from four octets on. -/
theorem Tap.sendUdp_tunnel (tap : Tap) {calls : TapCalls} (succeed : SendsSucceed calls.send)
    (srcIp dstIp : UInt32) (long : 4 ≤ payload.length)
    : tap.sendUdp calls ⟨srcIp, dstIp, ldnBridgePort, ldnGamePort, payload⟩
      = (tap, ((tap.sessions.socketFor srcIp).map (Delivery.tcp · payload)).toList, 0) := by
  have nonempty : ¬ payload.length = 0 := by omega
  unfold sendUdp tcpInjectFromRelay
  rw [if_pos ⟨rfl, long, rfl⟩, if_neg nonempty, sendAll_eq succeed le_rfl]
  cases tap.sessions.socketFor srcIp <;> rfl

/-- Less than four octets go through the raw socket. -/
theorem Tap.sendUdp_short (tap : Tap) (calls : TapCalls) (srcIp dstIp : UInt32)
    (short : payload.length < 4)
    : tap.sendUdp calls ⟨srcIp, dstIp, ldnBridgePort, ldnGamePort, payload⟩
      = (tap, tap.rawInject calls ⟨srcIp, dstIp, ldnBridgePort, ldnGamePort, payload⟩) := by
  unfold sendUdp
  rw [if_neg (by simp only [not_and]; omega), if_neg (by simp only [not_and]; omega)]

/-- The bridge passes LDN packets on while its socket works. -/
theorem Tap.ldnBridgeInject_ldn {tap : Tap} (calls : TapCalls)
    (bridge : tap.bridgeInjectOpen = true) (long : ldnHeaderSize ≤ payload.length)
    (magic : (readLANPacketHeader payload).magic = ldnMagic)
    : (tap.ldnBridgeInject calls payload).2
      = if calls.sendLdn then ([.ldn payload], 0) else ([], -1) := by
  have nonempty : ¬ payload.length = 0 := by
    simp only [ldnHeaderSize] at long
    omega
  unfold ldnBridgeInject
  simp only [bridge, Bool.not_true, Bool.false_or, nonempty, decide_false, Bool.false_eq_true,
    if_false, if_neg (Nat.not_lt_of_le long), magic, ne_eq, not_true_eq_false]
  split <;> rfl

/-- An LDN datagram is passed on to `ldn_mitm` exactly when the socket of the bridge is open
and `sendto` takes it; else it goes through the raw socket.
-/
theorem Tap.sendUdp_ldn_iff (tap : Tap) (calls : TapCalls) (srcIp dstIp : UInt32)
    (long : ldnHeaderSize ≤ payload.length) (magic : (readLANPacketHeader payload).magic = ldnMagic)
    : (tap.sendUdp calls ⟨srcIp, dstIp, ldnGamePort, ldnGamePort, payload⟩).2.1 = [.ldn payload]
      ↔ tap.bridgeInjectOpen = true ∧ calls.sendLdn = true := by
  have other : ¬ (ldnGamePort = ldnGamePort ∧ 4 ≤ payload.length ∧ ldnGamePort = ldnBridgePort) :=
    fun same => absurd same.2.2 (by decide)
  have notLdn (tap : Tap) (udp : UdpPacket)
      : [] ++ (tap.rawInject calls udp).1 ≠ [Delivery.ldn payload] := by
    rw [nil_append]
    unfold rawInject
    split_ifs <;> simp
  unfold sendUdp
  rw [if_neg other, if_pos ⟨rfl, long⟩]
  dsimp only
  cases bridge : tap.bridgeInjectOpen with
  | false =>
    have closed : tap.ldnBridgeInject calls payload = (tap, [], -1) := by
      unfold ldnBridgeInject
      rw [bridge]
      rfl
    simp only [closed, Bool.false_eq_true, false_and, iff_false]
    exact notLdn tap _
  | true =>
    have injected := ldnBridgeInject_ldn calls bridge long magic
    cases sends : calls.sendLdn with
    | true =>
      rw [sends, if_pos rfl] at injected
      simp only [injected, if_true, and_self]
    | false =>
      rw [sends, if_neg Bool.false_ne_true] at injected
      simp only [injected, Bool.false_eq_true, and_false, iff_false]
      exact notLdn _ _

end SwitchLanPlay.Sysmodule
