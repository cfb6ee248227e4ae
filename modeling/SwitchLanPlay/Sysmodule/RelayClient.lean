import SwitchLanPlay.Client.Login
import SwitchLanPlay.Client.Reassembly
import SwitchLanPlay.Packet.Ipv4

/-! The relay client of the sysmodule (`lan_client_nx.cpp`): what it sends to the relay and
what it does with the datagrams it receives. Frames for the console are those passed to
`tap_send_packet`.
-/

namespace SwitchLanPlay.Sysmodule

open Foundation
open Packet
open Client (LanClientType LanClientFragmentHeader LanClientSender SendOutcome
  LanClientFragment FragTable Handed fragView readFragmentHeader isRejected lcFragCount
  lcFragHeaderLen strlen strlen_eq_length)

/-- `struct lan_play` of the sysmodule with the locals of its threads: `frameBuf` of the
capture thread and `consecutiveFails` of the keepalive thread. Sockets and counters of
traffic and errors are left out.
-/
structure LanPlay where
  packetCtx : PacketCtx
  sender : LanClientSender
  nextRealBroadcast : Bool
  table : FragTable
  relayBuf : Memory
  username : Option Bytes
  key : Bytes
  wifiIp : Ipv4Addr
  myIp : Ipv4Addr
  myMac : MacAddr
  running : Bool
  frameBuf : Memory
  consecutiveFails : Nat

structure Output where
  frames : List Bytes
  datagrams : List Bytes
  deriving DecidableEq, Repr

def Output.none : Output := ⟨[], []⟩

def partDatagram (packet : Memory) (len pmtu id i pos : Nat) : Bytes :=
  let partLen := min pmtu (len - pos)
  let header : LanClientFragmentHeader :=
    {
      src := readIpv4 (packet.read ipv4HeaderLen) ipv4OffSrc
      dst := readIpv4 (packet.read ipv4HeaderLen) ipv4OffDst
      id := id
      part := i
      totalPart := len / pmtu + (if len % pmtu ≠ 0 then 1 else 0)
      len := partLen
      pmtu := pmtu
    }
  LanClientType.ipv4Frag.toByte :: (header.toBytes ++ (packet.shift pos).read partLen)

/-- The `for` loop over the parts. `sends` tells whether `relay_send_raw` succeeds; a failure
ends the loop. The packet length is enough fuel.
-/
def sendParts (sends : Bytes → Bool) (packet : Memory) (len pmtu id : Nat)
    : Nat → Nat → Nat → List Bytes × Int
  | 0, _, _ => ([], 0)
  | fuel + 1, i, pos =>
    if pos < len then
      let datagram := partDatagram packet len pmtu id i pos
      if sends datagram then
        let rest := sendParts sends packet len pmtu id fuel (i + 1) (pos + pmtu)
        (datagram :: rest.1, rest.2)
      else ([], -1)
    else ([], 0)

/-- `lan_client_send`. The length is compared with the path MTU reduced to sixteen bits. -/
def lanClientSend (sends : Bytes → Bool) (sender : LanClientSender) (type : LanClientType)
    (packet : Memory) (len : Nat)
    : SendOutcome :=
  if type = .ipv4 ∧ 0 < sender.pmtu ∧ sender.pmtu % 65536 < len then
    let sent := sendParts sends packet len sender.pmtu sender.fragId len 0 0
    ⟨{ sender with fragId := sender.fragId + 1 }, sent.1, sent.2⟩
  else
    let datagram := type.toByte :: packet.read len
    if sends datagram then ⟨sender, [datagram], 0⟩ else ⟨sender, [], -1⟩

def LanPlay.lanClientSendIpv4 (lp : LanPlay) (sends : Bytes → Bool) (packet : Memory)
    (len : Nat)
    : LanPlay × List Bytes :=
  let outcome := lanClientSend sends lp.sender .ipv4 packet len
  ({ lp with sender := outcome.sender }, outcome.datagrams)

def lanClientArpCb (ctx : PacketCtx) (packet : Bytes) (item : ArpItem) : List Bytes × Int :=
  ((sendEther ctx item.value etherTypeIpv4 [packet]).toList, 0)

def LanPlay.lanClientOnBroadcast (lp : LanPlay) (now : Nat) (packet : Bytes)
    : LanPlay × List Bytes :=
  if lp.nextRealBroadcast then
    ({ lp with nextRealBroadcast := false },
      (sendEther lp.packetCtx broadcastMac etherTypeIpv4 [packet]).toList)
  else (lp, arpForEach lp.packetCtx now (lanClientArpCb lp.packetCtx packet))

def LanPlay.lanClientProcess (lp : LanPlay) (now : Nat) (packet : Memory) (len : Nat)
    : LanPlay × List Bytes :=
  if len = 0 then (lp, [])
  else
    let dst := readIpv4 (packet.read ipv4HeaderLen) ipv4OffDst
    if isBroadcast dst lp.packetCtx.subnetNet lp.packetCtx.subnetMask then
      lp.lanClientOnBroadcast now (packet.read len)
    else
      match arpGetMacByIp lp.packetCtx now dst with
      | (none, frames) => (lp, frames)
      | (some dstMac, frames) =>
        (lp,
          frames ++ (sendEther lp.packetCtx dstMac etherTypeIpv4 [packet.read len]).toList)

/-- The slot search of the sysmodule: a matching slot, else the first free one. -/
def claimSlot (table : FragTable) (header : LanClientFragmentHeader)
    : Option (FragTable × Fin lcFragCount) :=
  match fragView.match? table.frags header.key, fragView.free? table.frags with
  | some index, _ => some (table, index)
  | none, some index => some (table.allocate index header, index)
  | none, none => none

def collectFragment (table : FragTable) (packet : Bytes) : FragTable × Option Handed :=
  let header := readFragmentHeader packet
  if isRejected packet header then (table, none)
  else
    match claimSlot table header with
    | none => (table, none)
    | some (claimed, index) =>
      if 0 < header.pmtu ∧ header.pmtu * header.part + header.len ≤ etherMtu then
        let slot := (claimed.frags index).store header packet
        if slot.isFinished header then
          (⟨Function.update claimed.frags index { slot with used := false },
              claimed.localId⟩,
            some ⟨slot.buffer, slot.totalLen⟩)
        else (⟨Function.update claimed.frags index slot, claimed.localId⟩, none)
      else (claimed, none)

def LanPlay.lanClientProcessFrag (lp : LanPlay) (now : Nat) (packet : Bytes)
    : LanPlay × List Bytes :=
  match collectFragment lp.table packet with
  | (table, none) => ({ lp with table := table }, [])
  | (table, some handed) =>
    { lp with table := table }.lanClientProcess now (.ofArray handed.buffer) handed.len

/-- `lan_client_process_auth_me`: the answer to a challenge, if there is one. The lengths of the
name and of the answer have sixteen bits; when the latter wraps, the copies run past the buffer
and the first octets written are sent.
-/
def LanPlay.lanClientProcessAuthMe (lp : LanPlay) (sha1 : Bytes → Bytes) (packet : Bytes)
    : Option Bytes :=
  lp.username.bind
    (fun username =>
      if packet.length < 1 then none
      else if readU8 packet 0 ≠ 0 then none
      else
        let unameLen := strlen username % 65536
        let respLen := (20 + unameLen) % 65536
        some ((sha1 (lp.key ++ packet.drop 1) ++ username.take unameLen).take respLen))

def lanClientType? (byte : UInt8) : Option LanClientType :=
  [LanClientType.keepalive, .ipv4, .ping, .ipv4Frag, .authMe, .info].find?
    (fun type => type.toByte == byte &&& 0x7f)

def relayBufLen : Nat := 4096

/-- The `switch` of `lan_client_recv_thread_fn` on `relay_buf`, with `len` octets behind the
type.
-/
def LanPlay.lanClientSwitch (lp : LanPlay) (sha1 : Bytes → Bytes) (sends : Bytes → Bool)
    (now len : Nat)
    : LanPlay × Output :=
  let packet := lp.relayBuf.shift 1
  match lanClientType? (lp.relayBuf 0) with
  | some .ipv4 =>
    let outcome := lp.lanClientProcess now packet len
    (outcome.1, ⟨outcome.2, []⟩)
  | some .ipv4Frag =>
    let outcome := lp.lanClientProcessFrag now (packet.read len)
    (outcome.1, ⟨outcome.2, []⟩)
  | some .authMe =>
    match lp.lanClientProcessAuthMe sha1 (packet.read len) with
    | none => (lp, .none)
    | some resp =>
      let answer := Memory.write (fun _ => 0) 0 resp
      (lp, ⟨[], (lanClientSend sends lp.sender .authMe answer resp.length).datagrams⟩)
  | _ => (lp, .none)

def LanPlay.lanClientRecv (lp : LanPlay) (sha1 : Bytes → Bytes) (sends : Bytes → Bool)
    (now : Nat) (datagram : Bytes)
    : LanPlay × Output :=
  match datagram.take relayBufLen with
  | [] => (lp, .none)
  | type :: packet =>
    { lp with relayBuf := lp.relayBuf.write 0 (type :: packet) }.lanClientSwitch sha1 sends
      now packet.length

inductive SendResult where
  | sent
  /-- `EHOSTUNREACH` or `ENETUNREACH` -/
  | unreachable
  /-- `ENETDOWN`, `EPIPE` or `ENXIO` -/
  | down
  | failed
  deriving DecidableEq, Repr

def LanPlay.lanClientKeepalive (lp : LanPlay) : SendResult → LanPlay × Output
  | .sent =>
    ({ lp with consecutiveFails := 0, nextRealBroadcast := true },
      ⟨[], [[LanClientType.keepalive.toByte]]⟩)
  | .unreachable => (lp, .none)
  | .down => ({ lp with running := false }, .none)
  | .failed =>
    let lp := { lp with consecutiveFails := lp.consecutiveFails + 1 }
    if 6 ≤ lp.consecutiveFails then ({ lp with running := false }, .none)
    else ({ lp with nextRealBroadcast := true }, .none)

end SwitchLanPlay.Sysmodule
