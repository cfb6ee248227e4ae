import SwitchLanPlay.Sysmodule.Runtime

/-! How often a packet from the relay reaches `tap_send_packet`. The number depends on the
broadcast flag and on the running ARP entries at the moment it is received.
-/

namespace SwitchLanPlay.Sysmodule

open Option
open Foundation
open Packet

variable {packet : Bytes} {lp : LanPlay}

/-- The packet that the octets behind a type octet complete: themselves, or the packet put
together from them and earlier fragments.
-/
def completedPacket (table : Client.FragTable) (type : UInt8) (octets : Bytes)
    : Option Bytes :=
  match lanClientType? type with
  | some .ipv4 => some octets
  | some .ipv4Frag =>
    (collectFragment table octets).2.map
      (fun handed => (Memory.ofArray handed.buffer).read handed.len)
  | _ => none

def LanPlay.receivedPacket (lp : LanPlay) (datagram : Bytes) : Option Bytes :=
  match datagram.take relayBufLen with
  | [] => none
  | type :: octets => completedPacket lp.table type octets

def carries (packet frame : Bytes) : Bool :=
  readBe16 frame etherOffType == etherTypeIpv4 && frame.drop etherHeaderLen == packet

def injections (packet : Bytes) (frames : List Bytes) : Nat := frames.countP (carries packet)

def LanPlay.deliveries (lp : LanPlay) (now : Nat) (packet : Bytes) : Nat :=
  let dst := readIpv4 packet ipv4OffDst
  if lp.packetCtx.bufferLen ≤ etherHeaderLen + packet.length then 0
  else if isBroadcast dst lp.packetCtx.subnetNet lp.packetCtx.subnetMask then
    if lp.nextRealBroadcast then 1 else (runningLeases lp.packetCtx.arpList now).length
  else if arpHasIp lp.packetCtx now dst then 1
  else 0

-- Counting the frames of one packet

theorem carries_etherHeader_append (dst src : MacAddr) (type : Nat) (payload packet : Bytes)
    : carries packet (etherHeader dst src type ++ payload)
      = (type % 65536 == etherTypeIpv4 && payload == packet) := by
  rw [carries, readBe16_etherHeader_append,
    List.drop_left' (etherHeader_length dst src type)]

/-- A packet sent once is counted once, unless it does not fit the buffer. -/
theorem injections_sendEther {ctx : PacketCtx} (room : etherHeaderLen < ctx.bufferLen)
    (dst : MacAddr) (packet : Bytes)
    : injections packet (sendEther ctx dst etherTypeIpv4 [packet]).toList
      = if ctx.bufferLen ≤ etherHeaderLen + packet.length then 0 else 1 := by
  rw [sendEther_eq room]
  by_cases fits : etherHeaderLen + packet.length < ctx.bufferLen
  · have itself : carries packet (etherHeader dst ctx.mac etherTypeIpv4 ++ packet) = true := by
      rw [carries_etherHeader_append, beq_self_eq_true, Bool.and_true]
      rfl
    rw [if_pos fits, if_neg (Nat.not_le_of_lt fits), injections, toList_some,
      List.countP_singleton, itself, if_pos rfl]
  · rw [if_neg fits, if_pos (Nat.le_of_not_lt fits)]
    rfl

/-- An ARP request is no delivery of any packet. -/
theorem injections_sendArpRequest {ctx : PacketCtx} (room : etherHeaderLen < ctx.bufferLen)
    (targetIp : Ipv4Addr) (packet : Bytes)
    : injections packet (sendArpRequest ctx targetIp).toList = 0 := by
  rw [sendArpRequest, sendArpEx, sendEther_eq room]
  split
  · rw [injections, toList_some, List.countP_singleton, carries_etherHeader_append]
    rfl
  · rfl

/-- Sending a packet to every running entry counts it once for each. -/
theorem injections_flatMap {send : ArpItem → List Bytes} {times : Nat}
    (each : ∀ item, injections packet (send item) = times) (items : List ArpItem)
    : injections packet (items.flatMap send) = items.length * times := by
  induction items with
  | nil => simp [injections]
  | cons item rest ih =>
    have head := each item
    unfold injections at *
    rw [List.flatMap_cons, List.countP_append, ih, head, List.length_cons, Nat.succ_mul,
      Nat.add_comm]

theorem LanPlay.lanClientOnBroadcast_injections (room : etherHeaderLen < lp.packetCtx.bufferLen)
    (now : Nat) (packet : Bytes)
    : injections packet (lp.lanClientOnBroadcast now packet).2
      = if lp.packetCtx.bufferLen ≤ etherHeaderLen + packet.length then 0
        else if lp.nextRealBroadcast then 1
        else (runningLeases lp.packetCtx.arpList now).length := by
  unfold lanClientOnBroadcast
  cases lp.nextRealBroadcast with
  | true => simpa using injections_sendEther room broadcastMac packet
  | false =>
    have each (item : ArpItem) := injections_sendEther room item.value packet
    have total := injections_flatMap each (runningLeases lp.packetCtx.arpList now)
    rw [← arpForEach_eq] at total
    simp only [Bool.false_eq_true, if_false]
    refine Eq.trans total ?_
    split <;> simp

/-- The destination is read from the packet itself when it has a whole header. -/
theorem readIpv4_read (packet : Memory) {len : Nat} (whole : ipv4HeaderLen ≤ len)
    : readIpv4 (packet.read ipv4HeaderLen) ipv4OffDst
      = readIpv4 (packet.read len) ipv4OffDst := by
  have small (position : Nat) (inside : position < ipv4HeaderLen)
      : (packet.read ipv4HeaderLen).getD position 0 = (packet.read len).getD position 0 := by
    rw [packet.getD_read inside, packet.getD_read (inside.trans_le whole)]
  simp only [readIpv4, ipv4OffDst]
  rw [small 16 (by decide), small (16 + 1) (by decide), small (16 + 2) (by decide),
    small (16 + 3) (by decide)]

namespace LanPlay

/-- `lan_client_process` sends a packet with a whole header as often as stated. -/
theorem lanClientProcess_injections (lp : LanPlay)
    (room : etherHeaderLen < lp.packetCtx.bufferLen) (now : Nat) (packet : Memory) {len : Nat}
    (whole : ipv4HeaderLen ≤ len)
    : injections (packet.read len) (lp.lanClientProcess now packet len).2
      = lp.deliveries now (packet.read len) := by
  have nonempty : len ≠ 0 := Nat.ne_of_gt (Nat.lt_of_lt_of_le (by decide) whole)
  unfold lanClientProcess deliveries
  rw [if_neg nonempty, readIpv4_read packet whole]
  dsimp only
  generalize packet.read len = payload
  generalize readIpv4 payload ipv4OffDst = dst
  split
  · exact lanClientOnBroadcast_injections room now payload
  · cases found : findLease lp.packetCtx.arpList now dst with
    | none =>
      have miss : arpGetMacByIp lp.packetCtx now dst
          = (none, (sendArpRequest lp.packetCtx dst).toList) := by
        rw [arpGetMacByIp, found]
      have absent : ¬ arpHasIp lp.packetCtx now dst = true := by
        rw [arpHasIp, found]
        decide
      rw [miss, if_neg absent, ite_self]
      exact injections_sendArpRequest room dst payload
    | some item =>
      have hit : arpGetMacByIp lp.packetCtx now dst = (some item.value, []) := by
        rw [arpGetMacByIp, found]
      have present : arpHasIp lp.packetCtx now dst = true := by
        rw [arpHasIp, found, isSome_some]
      rw [hit, if_pos present]
      exact injections_sendEther room item.value payload

/-- A completed packet is sent as often as stated. -/
theorem lanClientProcessFrag_injections (lp : LanPlay)
    (room : etherHeaderLen < lp.packetCtx.bufferLen) (now : Nat) {fragment : Bytes}
    {handed : Client.Handed} (collected : (collectFragment lp.table fragment).2 = some handed)
    (whole : ipv4HeaderLen ≤ handed.len)
    : injections ((Memory.ofArray handed.buffer).read handed.len)
        (lp.lanClientProcessFrag now fragment).2
      = lp.deliveries now ((Memory.ofArray handed.buffer).read handed.len) := by
  unfold lanClientProcessFrag
  cases outcome : collectFragment lp.table fragment with
  | mk table result =>
    rw [outcome] at collected
    cases collected
    exact { lp with table := table }.lanClientProcess_injections room now
      (.ofArray handed.buffer) whole

theorem lanClientSwitch_ipv4 (type : lanClientType? (lp.relayBuf 0) = some .ipv4)
    (sha1 : Bytes → Bytes) (sends : Bytes → Bool) (now len : Nat)
    : (lp.lanClientSwitch sha1 sends now len).2.frames
      = (lp.lanClientProcess now (lp.relayBuf.shift 1) len).2 := by
  unfold lanClientSwitch
  rw [type]

theorem lanClientSwitch_ipv4Frag (type : lanClientType? (lp.relayBuf 0) = some .ipv4Frag)
    (sha1 : Bytes → Bytes) (sends : Bytes → Bool) (now len : Nat)
    : (lp.lanClientSwitch sha1 sends now len).2.frames
      = (lp.lanClientProcessFrag now ((lp.relayBuf.shift 1).read len)).2 := by
  unfold lanClientSwitch
  rw [type]

/-- The receive thread sends what it completes as often as stated, whether it came in one
datagram or in fragments.
-/
theorem lanClientSwitch_injections (lp : LanPlay) (room : etherHeaderLen < lp.packetCtx.bufferLen)
    (sha1 : Bytes → Bytes) (sends : Bytes → Bool) (now : Nat) {octets : Bytes}
    (contents : (lp.relayBuf.shift 1).read octets.length = octets)
    (completed : completedPacket lp.table (lp.relayBuf 0) octets = some packet)
    (whole : ipv4HeaderLen ≤ packet.length)
    : injections packet (lp.lanClientSwitch sha1 sends now octets.length).2.frames
      = lp.deliveries now packet := by
  unfold completedPacket at completed
  split at completed
  · rename_i isIpv4
    cases completed
    have sent := lp.lanClientProcess_injections room now (lp.relayBuf.shift 1) whole
    rw [contents] at sent
    rw [lanClientSwitch_ipv4 isIpv4]
    exact sent
  · rename_i isFrag
    obtain ⟨handed, collected, rfl⟩ := map_eq_some_iff.mp completed
    rw [Memory.read_length] at whole
    rw [lanClientSwitch_ipv4Frag isFrag, contents]
    exact lp.lanClientProcessFrag_injections room now collected whole
  · cases completed

theorem lanClientRecv_injections (lp : LanPlay) (room : etherHeaderLen < lp.packetCtx.bufferLen)
    (sha1 : Bytes → Bytes) (sends : Bytes → Bool) (now : Nat) {datagram : Bytes}
    (received : lp.receivedPacket datagram = some packet) (whole : ipv4HeaderLen ≤ packet.length)
    : injections packet (lp.lanClientRecv sha1 sends now datagram).2.frames
      = lp.deliveries now packet := by
  unfold receivedPacket at received
  unfold lanClientRecv
  cases taken : datagram.take relayBufLen with
  | nil =>
    rw [taken] at received
    cases received
  | cons type octets =>
    rw [taken] at received
    have contents := lp.relayBuf.read_write_drop (type :: octets) 1
    exact { lp with relayBuf := lp.relayBuf.write 0 (type :: octets)
      }.lanClientSwitch_injections room sha1 sends now contents received whole

end LanPlay

/-- In a running sysmodule every packet with a whole header is sent as often as the state
before the step says: never when it is too long for the send buffer.
-/
theorem Config.step_injections (sha1 : Bytes → Bytes) (config : Config) (history : List Event)
    (running : (config.stateAfter sha1 history).running = true) (now : Nat) (sends : Bytes → Bool)
    {datagram : Bytes}
    (received : (config.stateAfter sha1 history).receivedPacket datagram = some packet)
    (whole : ipv4HeaderLen ≤ packet.length)
    : injections packet
        ((config.stateAfter sha1 history).step sha1 (.received now datagram sends)).2.frames
      = if 2033 < packet.length then 0
        else if isBroadcast (readIpv4 packet ipv4OffDst) config.subnetNet config.subnetMask then
          if (config.stateAfter sha1 history).nextRealBroadcast then 1
          else (runningLeases (config.stateAfter sha1 history).packetCtx.arpList now).length
        else if arpHasIp (config.stateAfter sha1 history).packetCtx now
            (readIpv4 packet ipv4OffDst) then 1
        else 0 := by
  have settings := config.stateAfter_settings sha1 history
  have size : (config.stateAfter sha1 history).packetCtx.bufferLen = 2048 := settings.bufferLen
  have net : (config.stateAfter sha1 history).packetCtx.subnetNet = config.subnetNet :=
    settings.subnetNet
  have mask : (config.stateAfter sha1 history).packetCtx.subnetMask = config.subnetMask :=
    settings.subnetMask
  have room : etherHeaderLen < (config.stateAfter sha1 history).packetCtx.bufferLen := by
    rw [size]
    decide
  have limit : 2048 ≤ etherHeaderLen + packet.length ↔ 2033 < packet.length := by
    unfold etherHeaderLen
    omega
  rw [LanPlay.step, if_pos running]
  refine (LanPlay.lanClientRecv_injections _ room sha1 sends now received whole).trans ?_
  simp only [LanPlay.deliveries, size, net, mask, limit]

-- Broadcasts

/-- A well-formed IPv4 packet that carries one UDP datagram. -/
structure IsUdpPacket (packet : Bytes) : Prop where
  version : readU8 packet ipv4OffVerLen / 16 = 4
  headerLen : ipv4HeaderLen ≤ readU8 packet ipv4OffVerLen % 16 * 4
  totalLen : readBe16 packet ipv4OffTotalLen = packet.length
  protocol : readU8 packet ipv4OffProtocol = ipv4ProtocolUdp
  udpHeader : readU8 packet ipv4OffVerLen % 16 * 4 + 8 ≤ packet.length
  udpLength : readBe16 packet (readU8 packet ipv4OffVerLen % 16 * 4 + 4)
    = packet.length - readU8 packet ipv4OffVerLen % 16 * 4

/-- In every reachable state a broadcast from the relay is passed to the console exactly once
just when it fits the send buffer and either the broadcast flag is set or exactly one entry of
the ARP cache is running.
-/
theorem broadcast_injected_once_iff (sha1 : Bytes → Bytes) (config : Config)
    (history : List Event) (running : (config.stateAfter sha1 history).running = true)
    (now : Nat) (sends : Bytes → Bool) {datagram packet : Bytes}
    (received : (config.stateAfter sha1 history).receivedPacket datagram = some packet)
    (udp : IsUdpPacket packet)
    (broadcast
      : isBroadcast (readIpv4 packet ipv4OffDst) config.subnetNet config.subnetMask = true)
    : injections packet
        ((config.stateAfter sha1 history).step sha1 (.received now datagram sends)).2.frames = 1
      ↔ packet.length ≤ 2033
        ∧ ((config.stateAfter sha1 history).nextRealBroadcast = true
          ∨ (runningLeases (config.stateAfter sha1 history).packetCtx.arpList now).length
            = 1) := by
  have whole : ipv4HeaderLen ≤ packet.length :=
    udp.headerLen.trans ((Nat.le_add_right _ 8).trans udp.udpHeader)
  rw [config.step_injections sha1 history running now sends received whole, if_pos broadcast,
    ← Nat.not_lt]
  by_cases long : 2033 < packet.length
  · simp [long]
  · cases (config.stateAfter sha1 history).nextRealBroadcast with
    | true => simp [long]
    | false => simp [long]

def sampleConfig : Config where
  myIp := ⟨10, 13, 0, 5⟩
  subnetNet := ⟨10, 13, 0, 0⟩
  subnetMask := ⟨255, 255, 0, 0⟩
  myMac := ⟨0x02, 0x4E, 0x58, 0x4C, 0x50, 0x01⟩
  wifiIp := ⟨192, 168, 1, 5⟩
  username := none
  key := []
  frameBuf := fun _ => 0

def samplePacket (dst : Ipv4Addr) : Bytes :=
  [0x45, 0, 0, 29, 0, 0, 0, 0, 64, 17, 0, 0, 10, 13, 0, 2] ++ dst.toBytes
    ++ [0x2C, 0xBC, 0x2C, 0xBC, 0, 9, 0, 0, 7]

def relayed (now : Nat) (dst : Ipv4Addr) : Event :=
  .received now (0x01 :: samplePacket dst) (fun _ => true)

theorem samplePacket_isUdpPacket : IsUdpPacket (samplePacket ⟨10, 13, 255, 255⟩) :=
  ⟨by decide, by decide, by decide, by decide, by decide, by decide⟩

theorem broadcast_injected_once_iff_first
    : injections (samplePacket ⟨10, 13, 255, 255⟩)
        ((sampleConfig.stateAfter id []).step id (relayed 0 ⟨10, 13, 255, 255⟩)).2.frames
      = 1 :=
  (broadcast_injected_once_iff id sampleConfig [] rfl 0 (fun _ => true) rfl
    samplePacket_isUdpPacket (by decide)).mpr ⟨by decide, Or.inl rfl⟩

/-- The second broadcast between two keepalives reaches nobody while the ARP cache is empty. -/
theorem second_broadcast_dropped
    : (sampleConfig.stateAfter id [relayed 0 ⟨10, 13, 255, 255⟩]).running = true
      ∧ (sampleConfig.stateAfter id [relayed 0 ⟨10, 13, 255, 255⟩]).receivedPacket
          (0x01 :: samplePacket ⟨10, 13, 255, 255⟩)
        = some (samplePacket ⟨10, 13, 255, 255⟩)
      ∧ IsUdpPacket (samplePacket ⟨10, 13, 255, 255⟩)
      ∧ isBroadcast (readIpv4 (samplePacket ⟨10, 13, 255, 255⟩) ipv4OffDst)
          sampleConfig.subnetNet sampleConfig.subnetMask = true
      ∧ ((sampleConfig.stateAfter id [relayed 0 ⟨10, 13, 255, 255⟩]).step id
          (relayed 1 ⟨10, 13, 255, 255⟩)).2.frames = [] := by
  exact ⟨by decide +kernel, by decide +kernel, samplePacket_isUdpPacket, by decide,
    by decide +kernel⟩

-- Packets for the console itself

/-- In every reachable state a packet for the console's own address is passed on just when
that address has a running ARP entry. Such an entry goes back to a datagram with that source
captured less than 300 seconds before. (An own address that is the broadcast address of the
subnet is treated as a broadcast.)
-/
theorem unicast_injected_iff (sha1 : Bytes → Bytes) (config : Config) (history : List Event)
    (running : (config.stateAfter sha1 history).running = true) (now : Nat)
    (sends : Bytes → Bool) {datagram packet : Bytes}
    (received : (config.stateAfter sha1 history).receivedPacket datagram = some packet)
    (whole : 20 ≤ packet.length) (fits : packet.length ≤ 2033)
    (addressed
      : readIpv4 packet ipv4OffDst = (config.stateAfter sha1 history).myIp)
    : (0 < injections packet
          ((config.stateAfter sha1 history).step sha1 (.received now datagram sends)).2.frames
        ↔ if isBroadcast config.myIp config.subnetNet config.subnetMask then
            (config.stateAfter sha1 history).nextRealBroadcast = true
            ∨ runningLeases (config.stateAfter sha1 history).packetCtx.arpList now ≠ []
          else
            ∃ index,
              ((config.stateAfter sha1 history).packetCtx.arpList index).key = config.myIp
              ∧ now < ((config.stateAfter sha1 history).packetCtx.arpList index).expireAt)
      ∧ ∀ index,
          ((config.stateAfter sha1 history).packetCtx.arpList index).key = config.myIp
          → now < ((config.stateAfter sha1 history).packetCtx.arpList index).expireAt
          → ∃ before after captured src octets beyond results,
              history = before ++ .captured captured src octets beyond results :: after
              ∧ (config.stateAfter sha1 before).capturedSource octets = config.myIp
              ∧ now < captured + 300 := by
  have own : readIpv4 packet ipv4OffDst = config.myIp :=
    addressed.trans (config.stateAfter_settings sha1 history).myIp
  constructor
  · rw [config.step_injections sha1 history running now sends received whole, own,
      if_neg (Nat.not_lt_of_le fits)]
    split
    · cases (config.stateAfter sha1 history).nextRealBroadcast with
      | true => simp
      | false => simp [List.length_pos_iff]
    · rw [← findLease_isSome_iff, arpHasIp]
      cases findLease (config.stateAfter sha1 history).packetCtx.arpList now config.myIp with
      | none => simp
      | some item => simp
  · intro index key runs
    rcases config.stateAfter_arpList sha1 history index with
      empty | ⟨before, after, captured, src, octets, beyond, results, split, source, ends⟩
    · rw [empty] at runs
      exact absurd runs (Nat.not_lt_zero now)
    · exact ⟨before, after, captured, src, octets, beyond, results, split, source.trans key,
        by rw [← ends]; exact runs⟩

/-- A datagram with the console's virtual address as source, captured from a host of the WiFi
network.
-/
def spoofedCapture : Event :=
  .captured 0 ⟨192, 168, 1, 9⟩
    [0x45, 0, 0, 20, 0, 0, 0, 0, 64, 17, 0, 0, 10, 13, 0, 5, 10, 13, 0, 9] (fun _ => 0)
    (fun _ => true)

theorem unicast_injected_iff_spoofed
    : 0 < injections (samplePacket ⟨10, 13, 0, 5⟩)
        ((sampleConfig.stateAfter id [spoofedCapture]).step id
          (relayed 10 ⟨10, 13, 0, 5⟩)).2.frames :=
  (unicast_injected_iff id sampleConfig [spoofedCapture] (by decide +kernel) 10
    (fun _ => true) (by decide +kernel) (by decide) (by decide) (by decide +kernel)).1.mpr
    (by decide +kernel)

/-- The first packet for the console is answered by an ARP request for its own address. -/
theorem unicast_dropped
    : (sampleConfig.stateAfter id []).running = true
      ∧ (sampleConfig.stateAfter id []).receivedPacket (0x01 :: samplePacket ⟨10, 13, 0, 5⟩)
        = some (samplePacket ⟨10, 13, 0, 5⟩)
      ∧ readIpv4 (samplePacket ⟨10, 13, 0, 5⟩) ipv4OffDst
        = (sampleConfig.stateAfter id []).myIp
      ∧ injections (samplePacket ⟨10, 13, 0, 5⟩)
          ((sampleConfig.stateAfter id []).step id (relayed 0 ⟨10, 13, 0, 5⟩)).2.frames = 0
      ∧ ((sampleConfig.stateAfter id []).step id (relayed 0 ⟨10, 13, 0, 5⟩)).2.frames
        = (sendArpRequest sampleConfig.start.packetCtx sampleConfig.myIp).toList := by
  exact ⟨by decide +kernel, by decide +kernel, by decide +kernel, by decide +kernel,
    by decide +kernel⟩

end SwitchLanPlay.Sysmodule
