import SwitchLanPlay.Client.Pipeline
import SwitchLanPlay.Foundation.Latest
import SwitchLanPlay.Foundation.Machine
import SwitchLanPlay.Foundation.OrderedMap

/-! The capture interfaces of the PC client (`pcaploop.cpp`). A frame is sent on the interface
that the map has for its source address, or on all. The map is filled with the destination
addresses of captured frames; the source address is that of the interface that captured last.
-/

namespace SwitchLanPlay.Client

open Option
open Foundation
open Packet

variable {now len : Nat} {ctx : PacketCtx} {packet : Memory}

variable {count : Nat}

/-- The opened interfaces: their hardware addresses and the LAN segments they are attached to. -/
structure Interfaces (count : Nat) where
  mac : Fin count → MacAddr
  segment : Fin count → Nat

/-- `struct lan_play` of the PC client as far as frames are concerned. `mac2int` maps addresses one
to one to numbers, so the address itself serves as the map key.
-/
structure PcapClient (count : Nat) where
  map : OrderedMap MacAddr (Fin count)
  packetCtx : PacketCtx
  nextRealBroadcast : Bool

structure PcapOutput (count : Nat) where
  emitted : List (Fin count × Bytes)
  handed : List HandedPacket

def PcapOutput.none : PcapOutput count := ⟨[], []⟩

def inFilterNet (ip : Ipv4Addr) : Bool := isSubnet ip ⟨10, 13, 0, 0⟩ ⟨255, 255, 0, 0⟩

def filterLoads (frame : Bytes) : List Nat → Bool
  | [] => false
  | offset :: rest =>
    if offset + 4 ≤ frame.length then
      inFilterNet (readIpv4 frame offset) || filterLoads frame rest
    else false

/-- The filter of `set_filter`: `net` compares the addresses of IPv4, ARP and RARP frames, and the
source address must not be the interface's own.
-/
def passesFilter (mac : MacAddr) (frame : Bytes) : Bool :=
  let type := readBe16 frame etherOffType
  (if type = etherTypeIpv4 then filterLoads frame [26, 30]
    else if type = etherTypeArp ∨ type = 0x8035 then filterLoads frame [28, 38]
    else false)
  && readMac frame etherOffSrc ≠ mac

def Interfaces.interfSendpacket (interfaces : Interfaces count) (data : Bytes)
    (interf : Fin count)
    : Fin count × Bytes := (interf, data.take 6 ++ (interfaces.mac interf).toBytes ++ data.drop 12)

def Interfaces.sendpacket (interfaces : Interfaces count) (map : OrderedMap MacAddr (Fin count))
    (data : Bytes)
    : List (Fin count × Bytes) :=
  match map.get? (readMac data etherOffSrc) with
  | some interf => [interfaces.interfSendpacket data interf]
  | none => (List.finRange count).map (interfaces.interfSendpacket data)

def lanClientArpForEachCb (ctx : PacketCtx) (packet : Bytes) (item : ArpItem) : List Bytes × Int :=
  ((sendEther ctx item.value etherTypeIpv4 [packet]).toList, 0)

def PcapClient.lanClientOnBroadcast (client : PcapClient count) (now : Nat) (packet : Bytes)
    : PcapClient count × List Bytes :=
  if client.nextRealBroadcast then
    ({ client with nextRealBroadcast := false },
      (sendEther client.packetCtx broadcastMac etherTypeIpv4 [packet]).toList)
  else
    (client, arpForEach client.packetCtx now (lanClientArpForEachCb client.packetCtx packet))

def PcapClient.lanClientProcess (client : PcapClient count) (now : Nat) (packet : Memory)
    (len : Nat)
    : PcapClient count × List Bytes :=
  if len = 0 then (client, [])
  else
    let dst := readIpv4 (packet.read ipv4HeaderLen) ipv4OffDst
    if isBroadcast dst client.packetCtx.subnetNet client.packetCtx.subnetMask then
      client.lanClientOnBroadcast now (packet.read len)
    else
      match arpGetMacByIp client.packetCtx now dst with
      | (none, frames) => (client, frames)
      | (some dstMac, frames) =>
        (client,
          frames ++ (sendEther client.packetCtx dstMac etherTypeIpv4 [packet.read len]).toList)

/-- `uv_pcap_callback` with `lan_play_pcap_handler` and `get_packet`: the interface is noted for the
frame's destination, its address becomes the client's, and the frame is processed.
-/
def PcapClient.callback (client : PcapClient count) (interfaces : Interfaces count) (now : Nat)
    (interf : Fin count) (packet : Memory) (len : Nat)
    : Option (PcapClient count × PcapOutput count) :=
  let client :=
    {
      client with
      map := client.map.set (readMac (packet.read 6) etherOffDst) interf
      packetCtx := client.packetCtx.packetSetMac (interfaces.mac interf)
    }
  if 65536 ≤ len then some (client, .none)
  else
    (processEther client.packetCtx now packet len).map
      (fun outcome =>
        ({ client with packetCtx := outcome.1 },
          ⟨outcome.2.frames.flatMap (interfaces.sendpacket client.map), outcome.2.packets⟩))

/-- What happens to the client: a frame arrives at an interface, a packet of the relay is complete,
or the timer lets the next broadcast be a real one.
-/
inductive PcapEvent (count : Nat) where
  | captured (now : Nat) (interf : Fin count) (packet : Memory) (len : Nat)
  | relayed (now : Nat) (packet : Memory) (len : Nat)
  | realBroadcast

/-- One event. Frames that do not pass the interface's filter are not seen. -/
def PcapClient.step (interfaces : Interfaces count) (client : PcapClient count)
    : PcapEvent count → Option (PcapClient count × PcapOutput count)
  | .captured now interf packet len =>
    if passesFilter (interfaces.mac interf) (packet.read len) then
      client.callback interfaces now interf packet len
    else some (client, .none)
  | .relayed now packet len =>
    let outcome := client.lanClientProcess now packet len
    some (outcome.1, ⟨outcome.2.flatMap (interfaces.sendpacket client.map), []⟩)
  | .realBroadcast => some ({ client with nextRealBroadcast := true }, .none)

def pcapMachine (interfaces : Interfaces count)
    : Machine (Option (PcapClient count)) (PcapEvent count) (PcapOutput count) :=
  Machine.failing (PcapClient.step interfaces) .none

def PcapClient.init (ip subnetNet subnetMask : Ipv4Addr) : PcapClient count where
  map := .empty
  packetCtx := packetInit bufferSize ip subnetNet subnetMask 30
  nextRealBroadcast := true

-- What an event changes

/-- The packet context differs at most in its ARP cache and its identification. -/
structure SameCtx (before after : PacketCtx) : Prop where
  bufferLen : after.bufferLen = before.bufferLen
  ip : after.ip = before.ip
  subnetNet : after.subnetNet = before.subnetNet
  subnetMask : after.subnetMask = before.subnetMask
  mac : after.mac = before.mac

theorem SameCtx.refl (ctx : PacketCtx) : SameCtx ctx ctx := ⟨rfl, rfl, rfl, rfl, rfl⟩

theorem sameCtx_arpSet (ctx : PacketCtx) (now : Nat) (mac : MacAddr) (ip : Ipv4Addr)
    : SameCtx ctx (arpSet ctx now mac ip) := ⟨rfl, rfl, rfl, rfl, rfl⟩

theorem routeIpv4_sameCtx {raw : Bytes} {ether : EtherFrame} {ipv4 : Ipv4}
    {outcome : PacketCtx × Passed} (routed : routeIpv4 ctx now raw ether ipv4 = some outcome)
    : SameCtx ctx outcome.1 := by
  unfold routeIpv4 processIcmp at routed
  dsimp only at routed
  split at routed
  · split at routed
    · split at routed
      · cases routed
      · cases routed
        rw [sendIpv4_ctx]
        exact ⟨rfl, rfl, rfl, rfl, rfl⟩
    · cases routed
      exact .refl ctx
  · split at routed
    · split at routed
      · cases routed
        exact .refl ctx
      · split at routed <;> cases routed <;> exact .refl ctx
    · split at routed <;> cases routed <;> exact .refl ctx

theorem processEther_sameCtx {outcome : PacketCtx × Passed}
    (processed : processEther ctx now packet len = some outcome)
    : SameCtx ctx outcome.1 := by
  unfold processEther at processed
  dsimp only at processed
  split at processed
  · cases processed
    exact .refl ctx
  · split at processed
    · cases processed
      exact .refl ctx
    · split at processed
      · cases processed
        unfold processArp
        dsimp only
        split
        · exact .refl ctx
        · exact sameCtx_arpSet ctx now _ _
      · split at processed
        · rw [processIpv4_eq] at processed
          split at processed
          · have same := routeIpv4_sameCtx processed
            exact ⟨same.bufferLen, same.ip, same.subnetNet, same.subnetMask, same.mac⟩
          · cases processed
            exact .refl ctx
        · cases processed
          exact .refl ctx

theorem PcapClient.callback_some {client next : PcapClient count} {interfaces : Interfaces count}
    {interf : Fin count} {output : PcapOutput count}
    (called : client.callback interfaces now interf packet len = some (next, output))
    : next.map = client.map.set (readMac (packet.read 6) etherOffDst) interf
      ∧ SameCtx (client.packetCtx.packetSetMac (interfaces.mac interf)) next.packetCtx := by
  unfold callback at called
  dsimp only at called
  split at called
  · cases called
    exact ⟨rfl, .refl _⟩
  · obtain ⟨outcome, processed, same⟩ := map_eq_some_iff.mp called
    cases same
    exact ⟨rfl, processEther_sameCtx processed⟩

/-- Packets of the relay leave the map and the packet context alone. -/
theorem PcapClient.lanClientProcess_client (client : PcapClient count) (now : Nat)
    (packet : Memory) (len : Nat)
    : (client.lanClientProcess now packet len).1.map = client.map
      ∧ (client.lanClientProcess now packet len).1.packetCtx = client.packetCtx := by
  unfold lanClientProcess lanClientOnBroadcast
  dsimp only
  split
  · exact ⟨rfl, rfl⟩
  · split
    · split <;> exact ⟨rfl, rfl⟩
    · cases arpGetMacByIp client.packetCtx now
        (readIpv4 (packet.read ipv4HeaderLen) ipv4OffDst) with
      | mk found frames => cases found <;> exact ⟨rfl, rfl⟩

-- Captured frames and the map

structure Capture (count : Nat) where
  interf : Fin count
  dst : MacAddr
  src : MacAddr
deriving DecidableEq, Repr

def PcapEvent.capture? (interfaces : Interfaces count) : PcapEvent count → Option (Capture count)
  | .captured _ interf packet len =>
    if passesFilter (interfaces.mac interf) (packet.read len) then
      some ⟨interf, readMac (packet.read 6) etherOffDst, readMac (packet.read 12) etherOffSrc⟩
    else none
  | .relayed _ _ _ => none
  | .realBroadcast => none

def captures (interfaces : Interfaces count) (history : List (PcapEvent count))
    : List (Capture count) := history.filterMap (PcapEvent.capture? interfaces)

theorem captures_concat (interfaces : Interfaces count) (history : List (PcapEvent count))
    (event : PcapEvent count)
    : captures interfaces (history ++ [event])
      = captures interfaces history ++ (event.capture? interfaces).toList := by
  rw [captures, List.filterMap_append]
  cases found : event.capture? interfaces with
  | none => simp [captures, found]
  | some capture => simp [captures, found]

/-- The map and the client's address after some captured frames. -/
structure TracksCaptures (interfaces : Interfaces count) (captured : List (Capture count))
    (client : PcapClient count)
    : Prop where
  map
    : ∀ mac,
        client.map.get? mac = (lastOf? Capture.dst captured mac).map Capture.interf
  mac
    : client.packetCtx.mac
      = (captured.getLast?.map (fun last => interfaces.mac last.interf)).getD broadcastMac

theorem TracksCaptures.callback {interfaces : Interfaces count} {captured : List (Capture count)}
    {client next : PcapClient count} (tracks : TracksCaptures interfaces captured client)
    {interf : Fin count} {output : PcapOutput count}
    (called : client.callback interfaces now interf packet len = some (next, output))
    (src : MacAddr)
    : TracksCaptures interfaces (captured ++ [⟨interf, readMac (packet.read 6) etherOffDst, src⟩])
        next := by
  obtain ⟨map, ctx⟩ := PcapClient.callback_some called
  constructor
  · intro mac
    rw [map, OrderedMap.get?_set, lastOf?_concat, tracks.map mac]
    by_cases same : mac = readMac (packet.read 6) etherOffDst
    · rw [if_pos same, if_pos same.symm]
      rfl
    · rw [if_neg same, if_neg (Ne.symm same)]
  · rw [ctx.mac, List.getLast?_concat]
    rfl

/-- The map and the address follow the captured frames of every history. -/
theorem pcapMachine_tracksCaptures (interfaces : Interfaces count)
    (ip subnetNet subnetMask : Ipv4Addr) (history : List (PcapEvent count))
    {client : PcapClient count}
    (reached
      : (pcapMachine interfaces).run (some (.init ip subnetNet subnetMask)) history = some client)
    : TracksCaptures interfaces (captures interfaces history) client := by
  refine Machine.failing_run_induction
    (fun history client => TracksCaptures interfaces (captures interfaces history) client)
    ⟨fun _ => rfl, rfl⟩ ?_ reached
  intro history client event next output tracks stepped
  rw [captures_concat]
  cases event with
  | captured now interf packet len =>
    simp only [PcapClient.step] at stepped
    by_cases passes : passesFilter (interfaces.mac interf) (packet.read len) = true
    · rw [if_pos passes] at stepped
      rw [PcapEvent.capture?, if_pos passes]
      exact tracks.callback stepped _
    · rw [if_neg passes] at stepped
      cases stepped
      rw [PcapEvent.capture?, if_neg passes, toList_none, List.append_nil]
      exact tracks
  | relayed now packet len =>
    cases stepped
    obtain ⟨map, ctx⟩ := client.lanClientProcess_client now packet len
    rw [PcapEvent.capture?, toList_none, List.append_nil]
    exact ⟨fun mac => by rw [map]; exact tracks.map mac, by rw [ctx]; exact tracks.mac⟩
  | realBroadcast =>
    cases stepped
    rw [PcapEvent.capture?, toList_none, List.append_nil]
    exact ⟨tracks.map, tracks.mac⟩

-- Where a frame goes out

theorem readMac_etherHeader_append (dst src : MacAddr) (type : Nat) (payload : Bytes)
    : readMac (etherHeader dst src type ++ payload) etherOffSrc = src := rfl

/-- A frame carries the client's current address, so the map is asked for that. -/
theorem sendEther_readMac {dst : MacAddr} {type : Nat} {payload : List Bytes} {frame : Bytes}
    (sent : sendEther ctx dst type payload = some frame)
    : readMac frame etherOffSrc = ctx.mac := by
  rw [sendEther_eq_ite] at sent
  split at sent
  · cases sent
    exact readMac_etherHeader_append dst ctx.mac type payload.flatten
  · cases sent

theorem Interfaces.mem_sendpacket_iff (interfaces : Interfaces count)
    (map : OrderedMap MacAddr (Fin count)) (frame : Bytes) (interf : Fin count)
    : interf ∈ (interfaces.sendpacket map frame).map Prod.fst
      ↔ ∀ found, map.get? (readMac frame etherOffSrc) = some found → found = interf := by
  unfold sendpacket
  cases map.get? (readMac frame etherOffSrc) with
  | none => simp [interfSendpacket]
  | some found => simp [interfSendpacket, eq_comm]

/-- A frame for `mac` goes out on the interface where `mac` was last a source exactly when the last
frame for the address of the interface that captured last, if there was one, arrived there too.
-/
theorem emitted_where_captured_iff {interfaces : Interfaces count}
    {ip subnetNet subnetMask : Ipv4Addr} {history : List (PcapEvent count)}
    {client : PcapClient count}
    (reached
      : (pcapMachine interfaces).run (some (.init ip subnetNet subnetMask)) history = some client)
    {mac : MacAddr} {last : Capture count}
    (source : lastOf? Capture.src (captures interfaces history) mac = some last) {type : Nat}
    {payload : List Bytes} {frame : Bytes}
    (sent : sendEther client.packetCtx mac type payload = some frame)
    : last.interf ∈ (interfaces.sendpacket client.map frame).map Prod.fst
      ↔ ∀ newest toUs,
          (captures interfaces history).getLast? = some newest
          → lastOf? Capture.dst (captures interfaces history) (interfaces.mac newest.interf)
            = some toUs
          → toUs.interf = last.interf := by
  have tracks := pcapMachine_tracksCaptures interfaces ip subnetNet subnetMask history reached
  have current := tracks.mac
  rw [interfaces.mem_sendpacket_iff, sendEther_readMac sent, tracks.map]
  cases captured : (captures interfaces history).getLast? with
  | none =>
    rw [List.getLast?_eq_none_iff] at captured
    rw [captured] at source
    cases source
  | some newest =>
    have here : client.packetCtx.mac = interfaces.mac newest.interf := by
      rw [current, captured]
      rfl
    rw [here]
    constructor
    · rintro holds _ toUs ⟨⟩ found
      exact holds toUs.interf (by rw [found]; rfl)
    · intro holds interf found
      obtain ⟨toUs, arrived, rfl⟩ := Option.map_eq_some_iff.mp found
      exact holds newest toUs rfl arrived

def twoLans : Interfaces 2 where
  mac := fun interf => ⟨2, 0, 0, 0, 0, interf.val.toUInt8⟩
  segment := fun interf => interf.val

def consoleMac (number : UInt8) : MacAddr := ⟨0x7c, 0, 0, 0, 0, number⟩

def consoleIp (number : UInt8) : Ipv4Addr := ⟨10, 13, 0, number⟩

def emptyPacket (src dst : Ipv4Addr) : Bytes := ipv4Header 20 0 ipv4ProtocolUdp 0 src dst

def frameArrives (interf : Fin 2) (dst src : MacAddr) (srcIp dstIp : Ipv4Addr) : PcapEvent 2 :=
  .captured 0 interf
    (Memory.write (fun _ => 0) 0 (etherHeader dst src etherTypeIpv4 ++ emptyPacket srcIp dstIp)) 34

def firstLan : Fin 2 := ⟨0, Nat.zero_lt_two⟩

def secondLan : Fin 2 := ⟨1, Nat.one_lt_two⟩

/-- Console 8 is heard on the first LAN by a broadcast; console 9 is heard on the second one. -/
def heardTwo : List (PcapEvent 2) :=
  [frameArrives firstLan broadcastMac (consoleMac 8) (consoleIp 8) ⟨10, 13, 255, 255⟩,
    frameArrives secondLan broadcastMac (consoleMac 9) (consoleIp 9) ⟨10, 13, 255, 255⟩]

def clientAfter (interfaces : Interfaces count) (history : List (PcapEvent count))
    : Option (PcapClient count) :=
  (pcapMachine interfaces).run (some (.init ⟨10, 13, 37, 1⟩ ⟨10, 13, 0, 0⟩ ⟨255, 255, 0, 0⟩))
    history

theorem emitted_where_captured_iff_heardTwo
    : ∃ client frame,
        clientAfter twoLans heardTwo = some client
        ∧ sendEther client.packetCtx (consoleMac 8) etherTypeIpv4 [] = some frame
        ∧ 0 ∈ (twoLans.sendpacket client.map frame).map Prod.fst := by
  have runs : (clientAfter twoLans heardTwo).isSome = true := by decide +kernel
  obtain ⟨client, reached⟩ := Option.isSome_iff_exists.mp runs
  have sends
      : (clientAfter twoLans heardTwo).map (fun client =>
          sendEther client.packetCtx (consoleMac 8) etherTypeIpv4 [])
        = some (some (etherHeader (consoleMac 8) (twoLans.mac 1) etherTypeIpv4)) := by
    decide +kernel
  rw [reached] at sends
  have sent := Option.some.inj sends
  refine ⟨client, _, reached, sent, ?_⟩
  have last
      : lastOf? Capture.src (captures twoLans heardTwo) (consoleMac 8)
        = some ⟨0, broadcastMac, consoleMac 8⟩ := by
    decide
  refine (emitted_where_captured_iff reached last sent).mpr ?_
  intro newest toUs final
  have second : (captures twoLans heardTwo).getLast? = some ⟨1, broadcastMac, consoleMac 9⟩ := by
    decide
  rw [second] at final
  cases final
  intro found
  have none
      : lastOf? Capture.dst (captures twoLans heardTwo) (twoLans.mac 1) = Option.none := by
    decide
  rw [none] at found
  cases found

/-- Console 9 now answers the client's own address, and the relay has a packet for console 8: it is
sent on the second LAN only.
-/
theorem frame_sent_on_wrong_lan
    : ((clientAfter twoLans
            (heardTwo
              ++ [frameArrives 1 (twoLans.mac 1) (consoleMac 9) (consoleIp 9) (consoleIp 7)])).bind
          (fun client =>
            client.step twoLans
              (.relayed 0 (Memory.write (fun _ => 0) 0 (emptyPacket (consoleIp 7) (consoleIp 8)))
                20))).map
          (fun outcome =>
            outcome.2.emitted.map (fun sent => (sent.1, readMac sent.2 etherOffDst)))
        = some [(1, consoleMac 8)]
      ∧ lastOf? Capture.src
          (captures twoLans
            (heardTwo
              ++ [frameArrives 1 (twoLans.mac 1) (consoleMac 9) (consoleIp 9) (consoleIp 7)]))
          (consoleMac 8)
        = some ⟨0, broadcastMac, consoleMac 8⟩ := by
  constructor <;> decide +kernel

end SwitchLanPlay.Client
