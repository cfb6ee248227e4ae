import SwitchLanPlay.Sysmodule.Delivery
import SwitchLanPlay.Sysmodule.Tap

/-! An LDN datagram from the `ldn_mitm` of one console to the one of another: captured,
wrapped, sent to the relay, received, put into a frame and injected. The frame buffer is the
tightest of the sizes on the way.
-/

namespace SwitchLanPlay.Sysmodule

open Foundation
open Packet
open LdnMitm (readLANPacketHeader)
open Client (LanClientType LanClientSender)

variable {packet : Bytes}

def packetMemory (packet : Bytes) : Memory := Memory.write (fun _ => 0) 0 packet

theorem packetMemory_read (packet : Bytes) : (packetMemory packet).read packet.length = packet := by
  have written := Memory.read_write_drop (fun _ => 0) packet 0
  rwa [Memory.shift_zero] at written

/-- Without a path MTU a packet is sent whole. -/
theorem lanClientSend_whole {sends : Bytes → Bool} {sender : LanClientSender}
    (unlimited : sender.pmtu = 0) (packet : Bytes)
    : lanClientSend sends sender .ipv4 (packetMemory packet) packet.length
      = if sends (LanClientType.ipv4.toByte :: packet) then
          ⟨sender, [LanClientType.ipv4.toByte :: packet], 0⟩
        else ⟨sender, [], -1⟩ := by
  have whole : ¬ (LanClientType.ipv4 = .ipv4 ∧ 0 < sender.pmtu
      ∧ sender.pmtu % 65536 < packet.length) := by
    rw [unlimited]
    omega
  unfold lanClientSend
  dsimp only
  rw [if_neg whole, packetMemory_read]

/-- A packet from the relay is processed as it was sent. -/
theorem LanPlay.lanClientRecv_ipv4 (lp : LanPlay) (sha1 : Bytes → Bytes) (sends : Bytes → Bool)
    (now : Nat) (fits : packet.length < relayBufLen)
    : ∃ relayBuf : Memory,
        (relayBuf.shift 1).read packet.length = packet
        ∧ (lp.lanClientRecv sha1 sends now (LanClientType.ipv4.toByte :: packet)).2.frames
          = ({ lp with relayBuf := relayBuf }.lanClientProcess now (relayBuf.shift 1)
              packet.length).2 := by
  have whole : (LanClientType.ipv4.toByte :: packet).take relayBufLen
      = LanClientType.ipv4.toByte :: packet := List.take_of_length_le fits
  refine ⟨lp.relayBuf.write 0 (LanClientType.ipv4.toByte :: packet),
    lp.relayBuf.read_write_drop (LanClientType.ipv4.toByte :: packet) 1, ?_⟩
  have type : lanClientType? LanClientType.ipv4.toByte = some .ipv4 := by decide
  unfold lanClientRecv
  rw [whole]
  exact lanClientSwitch_ipv4 type sha1 sends now packet.length

/-- A broadcast packet becomes one frame while the flag is set. -/
theorem LanPlay.lanClientProcess_broadcast (lp : LanPlay) (flag : lp.nextRealBroadcast = true)
    (now : Nat) {memory : Memory} (stored : memory.read packet.length = packet)
    (whole : ipv4HeaderLen ≤ packet.length)
    (broadcast
      : isBroadcast (readIpv4 packet ipv4OffDst) lp.packetCtx.subnetNet lp.packetCtx.subnetMask
        = true)
    : (lp.lanClientProcess now memory packet.length).2
      = (sendEther lp.packetCtx broadcastMac etherTypeIpv4 [packet]).toList := by
  have nonempty : packet.length ≠ 0 := Nat.ne_of_gt (Nat.lt_of_lt_of_le (by decide) whole)
  have destination := readIpv4_read memory whole
  rw [stored] at destination
  unfold lanClientProcess lanClientOnBroadcast
  simp only [if_neg nonempty, destination, broadcast, if_true, flag, stored]

/-- What `sendto` to local sockets of the second console gets for a datagram captured on the
first: `captured` is what the capture thread passes to `lan_client_send_ipv4`, and the relay
forwards each datagram as it is.
-/
def relayedDeliveries (sha1 : Bytes → Bytes) (sender : LanClientSender) (lp : LanPlay)
    (tap : Tap) (calls : TapCalls) (now : Nat) (captured : Option Bytes)
    : List Delivery :=
  captured.toList.flatMap
    (fun packet =>
      (lanClientSend (fun _ => true) sender .ipv4 (packetMemory packet)
        packet.length).datagrams.flatMap
        (fun datagram =>
          (tap.tapSendPackets calls
            (lp.lanClientRecv sha1 (fun _ => true) now datagram).2.frames).2))

/-- The packet is in one datagram, and its frame, if there is one, is given to
`tap_send_packet`.
-/
theorem relayedDeliveries_broadcast (sha1 : Bytes → Bytes) {sender : LanClientSender}
    (unlimited : sender.pmtu = 0) {lp : LanPlay} (flag : lp.nextRealBroadcast = true)
    (room : etherHeaderLen < lp.packetCtx.bufferLen) (tap : Tap) (calls : TapCalls) (now : Nat)
    (whole : ipv4HeaderLen ≤ packet.length) (fits : packet.length < relayBufLen)
    (broadcast
      : isBroadcast (readIpv4 packet ipv4OffDst) lp.packetCtx.subnetNet lp.packetCtx.subnetMask
        = true)
    : relayedDeliveries sha1 sender lp tap calls now (some packet)
      = if etherHeaderLen + packet.length < lp.packetCtx.bufferLen then
          (tap.tapSendPacket calls
            (etherHeader broadcastMac lp.packetCtx.mac etherTypeIpv4 ++ packet)).2.1
        else [] := by
  obtain ⟨relayBuf, stored, frames⟩ := lp.lanClientRecv_ipv4 sha1 (fun _ => true) now fits
  have processed := { lp with relayBuf := relayBuf }.lanClientProcess_broadcast flag now stored
    whole broadcast
  rw [sendEther_eq room] at processed
  unfold relayedDeliveries
  simp only [Option.toList_some, List.flatMap_cons, List.flatMap_nil, List.append_nil,
    lanClientSend_whole unlimited, if_true, frames, processed]
  split
  · simp only [Option.toList_some, Tap.tapSendPackets, List.append_nil]
  · rfl

/-- The broadcast address of the virtual subnet is the destination of every captured
datagram.
-/
theorem buildIpUdp_broadcast {maxOut : Nat} {srcIp : UInt32} {sport dport : Nat} {payload : Bytes}
    (built : buildIpUdp maxOut srcIp 0x0A0DFFFF sport dport payload = some packet)
    : readIpv4 packet ipv4OffDst = ⟨10, 13, 255, 255⟩ := by
  unfold buildIpUdp at built
  dsimp only at built
  split at built
  · cases built
  · cases built
    rfl

/-- In every reachable state of the second console with the flag set, an LDN datagram that
needs no rewriting arrives as it was captured exactly when it has at most 2005 octets and the
socket of the bridge works.
-/
theorem ldn_relayed_iff (sha1 : Bytes → Bytes) (addresses : Addresses) (current : Option UInt32)
    {datagram : Bytes} (long : 12 ≤ datagram.length) (fits : datagram.length ≤ 2048)
    (magic : (readLANPacketHeader datagram).magic = ldnMagic)
    (unrewritten
      : (addresses.known current).wifiIp = 0
        ∨ (addresses.known current).wifiIp = (addresses.known current).virtualIp
        ∨ ¬ Carries (addresses.known current).wifiIp datagram)
    {sender : LanClientSender} (unlimited : sender.pmtu = 0) {config : Config}
    (subnetNet : config.subnetNet = ⟨10, 13, 0, 0⟩)
    (subnetMask : config.subnetMask = ⟨255, 255, 0, 0⟩) (history : List Event)
    (flag : (config.stateAfter sha1 history).nextRealBroadcast = true) (tap : Tap)
    (calls : TapCalls) (now : Nat)
    : relayedDeliveries sha1 sender (config.stateAfter sha1 history) tap calls now
          (captureLdn addresses current datagram).2
        = [.ldn datagram]
      ↔ datagram.length ≤ 2005 ∧ tap.bridgeInjectOpen = true ∧ calls.sendLdn = true := by
  have whole : datagram.take 2048 = datagram := List.take_of_length_le fits
  have same : rewriteIps (addresses.known current) true datagram = datagram :=
    (rewriteIps_eq_self_iff _ _).mpr unrewritten
  have settings := config.stateAfter_settings sha1 history
  have bufferLen : (config.stateAfter sha1 history).packetCtx.bufferLen = 2048 :=
    settings.bufferLen
  obtain ⟨packet, captured, built, _⟩ := captureLdn_eq addresses current
    (by rw [whole]; exact long) (by rw [whole]; exact magic)
  rw [whole, same] at built
  have length := (buildIpUdp_fields built).1
  have broadcast : isBroadcast (readIpv4 packet ipv4OffDst)
      (config.stateAfter sha1 history).packetCtx.subnetNet
      (config.stateAfter sha1 history).packetCtx.subnetMask = true := by
    rw [buildIpUdp_broadcast built, settings.subnetNet, settings.subnetMask]
    change isBroadcast _ config.subnetNet config.subnetMask = true
    rw [subnetNet, subnetMask]
    decide
  rw [captured, relayedDeliveries_broadcast sha1 unlimited flag (by rw [bufferLen]; decide) tap
    calls now (by rw [length]; simp only [ipv4HeaderLen]; omega)
    (by rw [length]; simp only [relayBufLen]; omega) broadcast, bufferLen]
  by_cases small : datagram.length ≤ 2005
  · have injected := tap.tapSendPacket_buildIpUdp calls (by decide) (by decide) (by omega)
      (by omega) built broadcastMac (config.stateAfter sha1 history).packetCtx.mac
    rw [if_pos (by rw [length]; simp only [etherHeaderLen]; omega), injected,
      tap.sendUdp_ldn_iff calls _ _ long magic]
    exact ⟨fun works => ⟨small, works⟩, And.right⟩
  · rw [if_neg (by rw [length]; simp only [etherHeaderLen]; omega)]
    exact iff_of_false (List.cons_ne_nil _ _).symm fun works => small works.1

def workingCalls : TapCalls := ⟨List.length, true, true, true, 1⟩

def sampleTap : Tap := ⟨Sessions.zero.tcpThreadStart, true, true, .init⟩

def scanDatagram (size : Nat) : Bytes := [0x00, 0x14, 0x45, 0x11] ++ List.replicate (size - 4) 0

theorem ldn_relayed_scan
    : relayedDeliveries id ⟨0, 0⟩ (sampleConfig.stateAfter id []) sampleTap workingCalls 0
        (captureLdn sampleAddresses none (scanDatagram 12)).2
      = [.ldn (scanDatagram 12)] :=
  (ldn_relayed_iff id sampleAddresses none (by decide) (by decide) (by decide)
    (.inr (.inr (by decide))) rfl rfl rfl [] rfl sampleTap workingCalls 0).mpr
    (by decide)

/-- A datagram of 2006 octets does not fit the frame buffer behind its three headers. -/
theorem ldn_relayed_too_long
    : (scanDatagram 2006).length = 2006
      ∧ (readLANPacketHeader (scanDatagram 2006)).magic = ldnMagic
      ∧ addressOffsets (scanDatagram 2006) = []
      ∧ (sampleConfig.stateAfter id []).nextRealBroadcast = true
      ∧ relayedDeliveries id ⟨0, 0⟩ (sampleConfig.stateAfter id []) sampleTap workingCalls 0
          (captureLdn sampleAddresses none (scanDatagram 2006)).2
        = [] := by
  refine ⟨?_, ?_, ?_, rfl, ?_⟩
  all_goals decide +kernel

end SwitchLanPlay.Sysmodule
