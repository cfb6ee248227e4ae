import SwitchLanPlay.Sysmodule.RelayClient

/-! The capture side of the sysmodule: datagrams of the raw socket become frames, and frames are
answered, reflected or sent to the relay. Nothing here checks the lengths that the IP header
claims, so a packet is taken from memory with whatever follows it.
-/

namespace SwitchLanPlay.Sysmodule

open Foundation
open Packet

def bufferSize : Nat := 2048

def tapBufSize : Nat := 2048

def clearedReply (request : Bytes) : Bytes :=
  (0 :: (request.drop 1).take 1 ++ [0, 0] ++ request.drop 4).take request.length

/-- `process_icmp`: every message is answered as if it were an echo request. -/
def processIcmp (ctx : PacketCtx) (now : Nat) (ipv4 : Ipv4) : PacketCtx × List Bytes :=
  if ipv4.totalLen ≤ ipv4.headerLen ∨ bufferSize < ipv4.totalLen - ipv4.headerLen then (ctx, [])
  else
    let cleared := clearedReply (ipv4.payload.read (ipv4.totalLen - ipv4.headerLen))
    let reply :=
      (cleared.take 2 ++ be16 (calcChecksum cleared) ++ cleared.drop 4).take cleared.length
    sendIpv4 ctx now ipv4.src ipv4ProtocolIcmp [reply]

def LanPlay.routeIpv4 (lp : LanPlay) (sends : Bytes → Bool) (now : Nat) (ether : EtherFrame)
    (ipv4 : Ipv4)
    : LanPlay × Output :=
  let ctx := lp.packetCtx
  let packet := ether.payload.read ipv4.totalLen
  if ipv4.dst = ctx.ip then
    if ipv4.protocol = ipv4ProtocolIcmp then
      let outcome := processIcmp ctx now ipv4
      ({ lp with packetCtx := outcome.1 }, ⟨outcome.2, []⟩)
    else (lp, .none)
  else if isSubnet ipv4.dst ctx.subnetNet ctx.subnetMask then
    if isBroadcast ipv4.dst ctx.subnetNet ctx.subnetMask then
      let outcome := lp.lanClientSendIpv4 sends ether.payload ipv4.totalLen
      (outcome.1, ⟨(sendEther ctx ether.src etherTypeIpv4 [packet]).toList, outcome.2⟩)
    else if arpHasIp ctx now ipv4.dst then
      -- This lookup succeeds with `arp_has_ip`, so the default is never sent to.
      let dstMac := (arpGetMacByIp ctx now ipv4.dst).1.getD noneMac
      (lp, ⟨(sendEther ctx dstMac etherTypeIpv4 [packet]).toList, []⟩)
    else
      let outcome := lp.lanClientSendIpv4 sends ether.payload ipv4.totalLen
      (outcome.1, ⟨[], outcome.2⟩)
  else (lp, .none)

def LanPlay.processIpv4 (lp : LanPlay) (sends : Bytes → Bool) (now : Nat) (ether : EtherFrame)
    : LanPlay × Output :=
  let ipv4 := parseIpv4 ether
  let ctx := arpSet lp.packetCtx now ether.src ipv4.src
  { lp with packetCtx := ctx }.routeIpv4 sends now ether ipv4

def LanPlay.processEther (lp : LanPlay) (sends : Bytes → Bool) (now : Nat) (packet : Memory)
    : LanPlay × Output :=
  let ether := parseEther packet
  if ether.src = lp.packetCtx.mac then (lp, .none)
  else if ether.type = etherTypeArp then
    let outcome := processArp lp.packetCtx now ether
    ({ lp with packetCtx := outcome.1 }, ⟨outcome.2, []⟩)
  else if ether.type = etherTypeIpv4 then lp.processIpv4 sends now ether
  else (lp, .none)

def syntheticMac (src : Ipv4Addr) : MacAddr := ⟨0x02, src.a, src.b, src.c, src.d, 0x00⟩

/-- One turn of `tap_recv_thread_fn` with a datagram from `src`; `beyond` is the memory behind
`frame_buf`. Datagrams of the console itself and of the loopback network are dropped.
`get_packet` passes every frame on, since none reaches 65536 octets.
-/
def LanPlay.tapRecv (lp : LanPlay) (sends : Bytes → Bool) (now : Nat) (src : Ipv4Addr)
    (datagram : Bytes) (beyond : Memory)
    : LanPlay × Output :=
  let received := datagram.take tapBufSize
  let lp := { lp with frameBuf := lp.frameBuf.write etherHeaderLen received }
  if received.length = 0 then (lp, .none)
  else if lp.wifiIp ≠ noneIp ∧ src = lp.wifiIp then (lp, .none)
  else if src.a = 127 then (lp, .none)
  else
    let header := etherHeader broadcastMac (syntheticMac src) etherTypeIpv4
    let lp :=
      {
        lp with
        frameBuf := lp.frameBuf.write 0 header
        packetCtx := lp.packetCtx.packetSetMac lp.myMac
      }
    lp.processEther sends now
      (lp.frameBuf.followedBy (etherHeaderLen + tapBufSize) beyond)

end SwitchLanPlay.Sysmodule
