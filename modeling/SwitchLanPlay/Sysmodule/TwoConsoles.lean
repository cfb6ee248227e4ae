import SwitchLanPlay.Sysmodule.EndToEnd
import SwitchLanPlay.Sysmodule.Tunnel
import SwitchLanPlay.Sysmodule.WifiRefresh

/-! Two consoles with the bridge and a relay that forwards in order and without loss: what the
session threads of the station send to the host, and what the host writes to its own connections.
-/

namespace SwitchLanPlay.Sysmodule

open List
open Foundation
open Packet
open Client (LanClientType)

variable {packet : Bytes} {ip : UInt32} {console : Console} {sessions : Sessions}

structure Console where
  lp : LanPlay
  wifiIp : UInt32
  tap : Tap

def Console.virtualIp (console : Console) : UInt32 := hostOrder console.lp.myIp

def Console.addresses (console : Console) : Addresses := ⟨console.wifiIp, console.virtualIp⟩

inductive ConsoleEvent where
  /-- A turn of a thread of the runtime; its frames are passed to `tap_send_packet`. -/
  | turn (event : Event) (calls : TapCalls)
  | refreshWifi (current : Option UInt32)
  | tcpThreadStart
  | accepted (clientFd : Nat) (stream : Bytes) (created : Bool)
  /-- A session thread receives octets from its connection. -/
  | chunk (slot : Fin tcpSessionMax) (data : Bytes) (sends : Bytes → Bool)
  | sessionEnd (slot : Fin tcpSessionMax)
  | bridgeClose
  | waitSessions
  | tapClose

/-- What a step sends into the tunnel, with its target, what it passes to `tap_send_packet`,
and what reaches local sockets.
-/
structure ConsoleOutput where
  tunnelled : List (UInt32 × Bytes)
  frames : List Bytes
  deliveries : List Delivery
deriving DecidableEq, Repr

def ConsoleOutput.none : ConsoleOutput := ⟨[], [], []⟩

def Console.turn (sha1 : Bytes → Bytes) (console : Console) (event : Event) (calls : TapCalls)
    : Console × ConsoleOutput :=
  let outcome := console.lp.step sha1 event
  let sent := console.tap.tapSendPackets calls outcome.2.frames
  ({ console with lp := outcome.1, tap := sent.1 }, ⟨[], outcome.2.frames, sent.2⟩)

/-- One turn of `tcp_session_thread_fn`. The thread is alive while its session is active, and
`recv` fails once the descriptor is closed.
-/
def Console.sessionTurn (console : Console) (slot : Fin tcpSessionMax) (data : Bytes)
    (sends : Bytes → Bool)
    : Console × ConsoleOutput :=
  let session := console.tap.sessions.slots slot
  if console.lp.running ∧ session.active ∧ session.clientFd.isSome ∧ 0 < data.length
      ∧ data.length ≤ 2048 then
    match sessionPacket console.addresses session.targetIp data with
    | none => (console, .none)
    | some packet =>
      let outcome := console.lp.lanClientSendIpv4 sends (packetMemory packet) packet.length
      ({ console with lp := outcome.1 },
        ⟨outcome.2.map (session.targetIp, ·), [], []⟩)
  else (console, .none)

def Console.withTap (console : Console) (tap : Tap) : Console × ConsoleOutput :=
  ({ console with tap := tap }, .none)

def Console.step (sha1 : Bytes → Bytes) (console : Console)
    : ConsoleEvent → Console × ConsoleOutput
  | .turn event calls => console.turn sha1 event calls
  | .refreshWifi current => ({ console with wifiIp := current.getD console.wifiIp }, .none)
  | .tcpThreadStart =>
    console.withTap { console.tap with sessions := console.tap.sessions.tcpThreadStart }
  | .accepted clientFd stream created =>
    -- The accept loop runs behind the initialisation of the table.
    if console.tap.sessions.ready then
      console.withTap
        { console.tap with sessions := console.tap.sessions.accept clientFd stream created }
    else (console, .none)
  | .chunk slot data sends => console.sessionTurn slot data sends
  | .sessionEnd slot =>
    console.withTap { console.tap with sessions := console.tap.sessions.sessionEnd slot }
  | .bridgeClose =>
    console.withTap
      {
        console.tap with
        bridgeInjectOpen := false
        sessions := console.tap.sessions.close
      }
  | .waitSessions => console.withTap { console.tap with sessions := console.tap.sessions.wait }
  | .tapClose => console.withTap { console.tap with injectOpen := false }

structure World where
  station : Console
  host : Console
  wire : List Bytes

inductive WorldEvent where
  | station (event : ConsoleEvent)
  | host (event : ConsoleEvent)
  /-- The relay forwards the oldest datagram of the tunnel to the host. -/
  | relayed (now : Nat) (sends : Bytes → Bool) (calls : TapCalls)

/-- For a forwarded datagram, the payloads that reach `tap_send_packet` of the host and what
is written to its connections.
-/
structure TunnelOutput where
  reached : List Bytes
  written : List Bytes
deriving DecidableEq, Repr

def payloadsOf (frames : List Bytes) : List Bytes :=
  frames.filterMap (fun frame => (tapParse frame).map UdpPacket.payload)

def World.step (sha1 : Bytes → Bytes) (world : World) : WorldEvent → World × TunnelOutput
  | .station event =>
    let outcome := world.station.step sha1 event
    let toHost := outcome.2.tunnelled.filter (fun sent => sent.1 = world.host.virtualIp)
    ({ world with station := outcome.1, wire := world.wire ++ toHost.map Prod.snd }, ⟨[], []⟩)
  | .host event => ({ world with host := (world.host.step sha1 event).1 }, ⟨[], []⟩)
  | .relayed now sends calls =>
    match world.wire with
    | [] => (world, ⟨[], []⟩)
    | datagram :: rest =>
      let outcome := world.host.turn sha1 (.received now datagram sends) calls
      ({ world with host := outcome.1, wire := rest },
        ⟨payloadsOf outcome.2.frames,
          (outcome.2.deliveries.filterMap Delivery.tcp?).map Prod.snd⟩)

def worldMachine (sha1 : Bytes → Bytes) : Machine World WorldEvent TunnelOutput := ⟨World.step sha1⟩

structure ConsoleSetup where
  config : Config
  wifiIp : UInt32
  injectOpen : Bool
  bridgeInjectOpen : Bool

def ConsoleSetup.start (setup : ConsoleSetup) : Console :=
  ⟨setup.config.start, setup.wifiIp, ⟨.zero, setup.injectOpen, setup.bridgeInjectOpen, .init⟩⟩

structure WorldSetup where
  station : ConsoleSetup
  host : ConsoleSetup

def WorldSetup.start (setup : WorldSetup) : World := ⟨setup.station.start, setup.host.start, []⟩

def WorldSetup.stateAfter (sha1 : Bytes → Bytes) (setup : WorldSetup)
    (history : List WorldEvent)
    : World := (worldMachine sha1).run setup.start history

-- Frames of a tunnelled packet

/-- A frame is the packet behind an IPv4 header, or one of ARP. -/
def FrameOf (packet frame : Bytes) : Prop :=
  (∃ dst src, frame = etherHeader dst src etherTypeIpv4 ++ packet)
  ∨ readBe16 frame etherOffType = etherTypeArp

theorem frameOf_sendEther {ctx : PacketCtx} (room : etherHeaderLen < ctx.bufferLen) (dst : MacAddr)
    {frame : Bytes} (member : frame ∈ (sendEther ctx dst etherTypeIpv4 [packet]).toList)
    : FrameOf packet frame := by
  rw [sendEther_eq room] at member
  split at member
  · exact .inl ⟨dst, ctx.mac, mem_singleton.mp member⟩
  · cases member

theorem frameOf_sendArpRequest {ctx : PacketCtx} (room : etherHeaderLen < ctx.bufferLen)
    (targetIp : Ipv4Addr) (packet : Bytes) {frame : Bytes}
    (member : frame ∈ (sendArpRequest ctx targetIp).toList)
    : FrameOf packet frame := by
  rw [sendArpRequest, sendArpEx, sendEther_eq room] at member
  split at member
  · rw [mem_singleton.mp member]
    exact .inr (readBe16_etherHeader_append ..)
  · cases member

/-- The host passes nothing else to `tap_send_packet` for a packet from the relay. -/
theorem LanPlay.lanClientProcess_frameOf (lp : LanPlay)
    (room : etherHeaderLen < lp.packetCtx.bufferLen) (now : Nat) {memory : Memory} {frame : Bytes}
    (stored : memory.read packet.length = packet)
    (member : frame ∈ (lp.lanClientProcess now memory packet.length).2)
    : FrameOf packet frame := by
  unfold lanClientProcess lanClientOnBroadcast arpGetMacByIp at member
  dsimp only at member
  rw [stored] at member
  split at member
  · cases member
  · split at member
    · split at member
      · exact frameOf_sendEther room _ member
      · rw [show lanClientArpCb lp.packetCtx packet
            = fun item => ((sendEther lp.packetCtx item.value etherTypeIpv4 [packet]).toList, 0)
            from rfl, arpForEach_eq] at member
        obtain ⟨item, _, sent⟩ := mem_flatMap.mp member
        exact frameOf_sendEther room _ sent
    · cases found : findLease lp.packetCtx.arpList now
          (readIpv4 (memory.read ipv4HeaderLen) ipv4OffDst) with
      | some item =>
        rw [found] at member
        exact frameOf_sendEther room item.value member
      | none =>
        rw [found] at member
        exact frameOf_sendArpRequest room _ packet member

variable (sha1 : Bytes → Bytes)

theorem LanPlay.step_received_frameOf (lp : LanPlay)
    (room : etherHeaderLen < lp.packetCtx.bufferLen) (now : Nat) (sends : Bytes → Bool)
    {frame : Bytes} (fits : packet.length < relayBufLen)
    (member
      : frame ∈ (lp.step sha1 (.received now (LanClientType.ipv4.toByte :: packet) sends)).2.frames)
    : FrameOf packet frame := by
  unfold LanPlay.step at member
  split at member
  · obtain ⟨relayBuf, stored, frames⟩ := lp.lanClientRecv_ipv4 sha1 sends now fits
    dsimp only at member
    rw [frames] at member
    exact lanClientProcess_frameOf _ (by exact room) now stored member
  · cases member

/-- What is done with the frames of a tunnelled packet, however many there are. -/
theorem Tap.tapSendPackets_tunnel (tap : Tap) {calls : TapCalls} (succeed : SendsSucceed calls.send)
    {srcIp dstIp : UInt32} {payload : Bytes} (nonempty : 0 < payload.length)
    (bounded : payload.length ≤ 2048)
    (built
      : buildIpUdp (2048 + 28) srcIp dstIp ldnBridgePort ldnGamePort payload = some packet)
    {frames : List Bytes} (each : ∀ frame ∈ frames, FrameOf packet frame)
    : (∀ reached ∈ payloadsOf frames, reached = payload)
      ∧ ((tap.tapSendPackets calls frames).2.filterMap Delivery.tcp?).map Prod.snd
        = if 4 ≤ payload.length ∧ (tap.sessions.socketFor srcIp).isSome then payloadsOf frames
          else [] := by
  induction frames with
  | nil =>
    exact ⟨fun _ member => absurd member not_mem_nil,
      by simp [tapSendPackets, payloadsOf]⟩
  | cons frame frames ih =>
    rw [forall_mem_cons] at each
    obtain ⟨same, later⟩ := ih each.2
    rcases each.1 with ⟨dst, src, rfl⟩ | arp
    · obtain ⟨kept, written⟩ :=
        tap.tapSendPacket_tunnel succeed nonempty bounded built dst src
      have parsed := tapParse_buildIpUdp (by decide) (by decide) nonempty (by omega) built dst src
      have payloads : payloadsOf ((etherHeader dst src etherTypeIpv4 ++ packet) :: frames)
          = payload :: payloadsOf frames := by
        rw [payloadsOf, filterMap_cons_some (by rw [parsed]; rfl)]
        rfl
      rw [payloads]
      refine ⟨forall_mem_cons.mpr ⟨rfl, same⟩, ?_⟩
      rw [tapSendPackets]
      simp only [kept, filterMap_append, map_append, written, later]
      by_cases long : 4 ≤ payload.length
      · cases tap.sessions.socketFor srcIp <;> simp [long]
      · simp [long]
    · obtain ⟨skipped, kept, nothing⟩ := tap.tapSendPacket_other calls
        (by rw [arp]; decide : readBe16 frame etherOffType ≠ 0x0800)
      have payloads : payloadsOf (frame :: frames) = payloadsOf frames := by
        rw [payloadsOf, filterMap_cons_none (by rw [skipped]; rfl)]
        rfl
      rw [payloads]
      refine ⟨same, ?_⟩
      rw [tapSendPackets]
      simp only [kept, nothing, nil_append]
      exact later

-- What holds in every run

/-- A step keeps the settings of its console and the sender. -/
theorem Console.step_keeps (unlimited : console.lp.sender.pmtu = 0) (event : ConsoleEvent)
    : SameSettings console.lp (console.step sha1 event).1.lp
      ∧ (console.step sha1 event).1.lp.sender = console.lp.sender := by
  cases event with
  | turn event calls =>
    exact ⟨(console.lp.step_changes sha1 event).1, LanPlay.step_sender sha1 unlimited event⟩
  | accepted clientFd stream created =>
    simp only [Console.step]
    split <;> exact ⟨.refl _, rfl⟩
  | chunk slot data sends =>
    simp only [Console.step, sessionTurn]
    split
    · split
      · exact ⟨.refl _, rfl⟩
      · rw [LanPlay.lanClientSendIpv4_lp unlimited]
        exact ⟨.refl _, rfl⟩
    · exact ⟨.refl _, rfl⟩
  | refreshWifi current => exact ⟨.refl _, rfl⟩
  | tcpThreadStart => exact ⟨.refl _, rfl⟩
  | sessionEnd slot => exact ⟨.refl _, rfl⟩
  | bridgeClose => exact ⟨.refl _, rfl⟩
  | waitSessions => exact ⟨.refl _, rfl⟩
  | tapClose => exact ⟨.refl _, rfl⟩

def TunnelDatagram (srcIp dstIp : UInt32) (datagram : Bytes) : Prop :=
  ∃ payload packet,
    datagram = LanClientType.ipv4.toByte :: packet
    ∧ 0 < payload.length ∧ payload.length ≤ 2048
    ∧ buildIpUdp (2048 + 28) srcIp dstIp ldnBridgePort ldnGamePort payload = some packet

/-- Only session threads send into the tunnel. -/
theorem Console.step_tunnelled (unlimited : console.lp.sender.pmtu = 0) (event : ConsoleEvent)
    {sent : UInt32 × Bytes} (member : sent ∈ (console.step sha1 event).2.tunnelled)
    : TunnelDatagram console.virtualIp sent.1 sent.2 := by
  cases event with
  | chunk slot data sends =>
    simp only [Console.step, sessionTurn] at member
    split at member
    · rename_i alive
      split at member
      · cases member
      · rename_i packet built
        unfold LanPlay.lanClientSendIpv4 at member
        rw [lanClientSend_whole unlimited] at member
        split at member
        · rw [mem_singleton.mp member]
          refine ⟨_, packet, rfl, ?_, ?_, built⟩
          · rw [rewriteIps_length]
            exact alive.2.2.2.1
          · rw [rewriteIps_length]
            exact alive.2.2.2.2
        · cases member
    · cases member
  | accepted clientFd stream created =>
    simp only [Console.step] at member
    split at member <;> cases member
  | turn event calls => cases member
  | refreshWifi current => cases member
  | tcpThreadStart => cases member
  | sessionEnd slot => cases member
  | bridgeClose => cases member
  | waitSessions => cases member
  | tapClose => cases member

def WorldSetup.stationIp (setup : WorldSetup) : UInt32 := hostOrder setup.station.config.myIp
def WorldSetup.hostIp (setup : WorldSetup) : UInt32 := hostOrder setup.host.config.myIp

/-- Settings never change, nothing is fragmented, and the wire holds chunks of the station. -/
structure World.Sound (setup : WorldSetup) (world : World) : Prop where
  station : SameSettings setup.station.config.start world.station.lp
  stationSender : world.station.lp.sender.pmtu = 0
  host : SameSettings setup.host.config.start world.host.lp
  hostSender : world.host.lp.sender.pmtu = 0
  wire : ∀ datagram ∈ world.wire, TunnelDatagram setup.stationIp setup.hostIp datagram

theorem World.Sound.step {setup : WorldSetup} {world : World} (sound : world.Sound setup)
    (event : WorldEvent)
    : (world.step sha1 event).1.Sound setup := by
  cases event with
  | station event =>
    obtain ⟨kept, sender⟩ := Console.step_keeps sha1 sound.stationSender event
    refine
      {
        sound with
        station := sound.station.trans kept
        stationSender := (congrArg _ sender).trans sound.stationSender
        wire := ?_
      }
    intro datagram member
    rcases mem_append.mp member with earlier | new
    · exact sound.wire datagram earlier
    · obtain ⟨sent, chosen, rfl⟩ := mem_map.mp new
      obtain ⟨listed, target⟩ := mem_filter.mp chosen
      have tunnelled := Console.step_tunnelled sha1 sound.stationSender event listed
      rw [of_decide_eq_true target, Console.virtualIp, Console.virtualIp, sound.station.myIp,
        sound.host.myIp] at tunnelled
      exact tunnelled
  | host event =>
    obtain ⟨kept, sender⟩ := Console.step_keeps sha1 sound.hostSender event
    exact
      {
        sound with
        host := sound.host.trans kept
        hostSender := (congrArg _ sender).trans sound.hostSender
      }
  | relayed now sends calls =>
    unfold World.step
    dsimp only
    split
    · exact sound
    · rename_i datagram rest wire
      obtain ⟨kept, sender⟩ := Console.step_keeps sha1 sound.hostSender
        (.turn (.received now datagram sends) calls)
      refine
        {
          sound with
          host := sound.host.trans kept
          hostSender := (congrArg _ sender).trans sound.hostSender
          wire := ?_
        }
      intro other member
      exact sound.wire other (by rw [wire]; exact mem_cons_of_mem _ member)

theorem WorldSetup.stateAfter_sound (setup : WorldSetup) (history : List WorldEvent)
    : (setup.stateAfter sha1 history).Sound setup :=
  (worldMachine sha1).run_invariant (World.Sound setup)
    (fun _ event sound => sound.step sha1 event)
    ⟨.refl _, rfl, .refl _, rfl, fun _ member => absurd member not_mem_nil⟩ history

-- What the host writes

/-- Calls of `send` in the step take at least one octet each. -/
def WorldEvent.SendsSucceed : WorldEvent → Prop
  | .relayed _ _ calls => Sysmodule.SendsSucceed calls.send
  | _ => True

/-- The host has an open connection for data from the station. -/
def World.HostListens (setup : WorldSetup) (world : World) : Prop :=
  (world.host.tap.sessions.socketFor setup.stationIp).isSome = true

/-- A datagram that reaches `tap_send_packet` is written as a whole or not at all. -/
theorem World.Sound.written {setup : WorldSetup} {world : World} (sound : world.Sound setup)
    {event : WorldEvent} (succeed : event.SendsSucceed)
    : (world.step sha1 event).2.written.length ≤ (world.step sha1 event).2.reached.length
      ∧ ((world.step sha1 event).2.written = (world.step sha1 event).2.reached
        ↔ ∀ payload ∈ (world.step sha1 event).2.reached,
            4 ≤ payload.length ∧ world.HostListens setup) := by
  have idle : ([] : List Bytes).length ≤ ([] : List Bytes).length
      ∧ (([] : List Bytes) = []
        ↔ ∀ payload ∈ ([] : List Bytes), 4 ≤ payload.length ∧ world.HostListens setup) :=
    ⟨le_rfl, iff_of_true rfl fun _ member => absurd member not_mem_nil⟩
  cases event with
  | station event => exact idle
  | host event => exact idle
  | relayed now sends calls =>
    unfold World.step
    dsimp only
    split
    · exact idle
    · rename_i datagram rest wire
      obtain ⟨payload, packet, rfl, nonempty, bounded, built⟩ :=
        sound.wire datagram (by rw [wire]; exact mem_cons_self)
      have length := (buildIpUdp_fields built).1
      have room : etherHeaderLen < world.host.lp.packetCtx.bufferLen := by
        rw [sound.host.bufferLen]
        exact show etherHeaderLen < bufferSize by decide
      have fits : packet.length < relayBufLen := by
        rw [length, relayBufLen]
        omega
      obtain ⟨same, written⟩ := world.host.tap.tapSendPackets_tunnel succeed nonempty bounded
        built fun _ => world.host.lp.step_received_frameOf sha1 room now sends fits
      simp only [Console.turn]
      rw [written]
      split
      · rename_i listens
        refine ⟨le_rfl, iff_of_true rfl fun reached member => ?_⟩
        rw [same reached member]
        exact listens
      · rename_i closed
        refine ⟨Nat.zero_le _, fun none reached member => ?_, fun all => ?_⟩
        · rw [← none] at member
          cases member
        · symm
          rw [eq_nil_iff_forall_not_mem]
          intro reached member
          have holds := all reached member
          rw [same reached member] at holds
          exact closed holds

/-- In every run of the two consoles, all that reaches `tap_send_packet` of the host from the
station's session threads is written to a connection of the host exactly when at each such
moment the host has an open session for the station and the chunk has four octets or more.
Nothing is kept for later.
-/
theorem WorldSetup.tunnel_written_iff (sha1 : Bytes → Bytes) (setup : WorldSetup)
    {history : List WorldEvent} (succeed : ∀ event ∈ history, event.SendsSucceed)
    : ((worldMachine sha1).outputs setup.start history).flatMap TunnelOutput.written
        = ((worldMachine sha1).outputs setup.start history).flatMap TunnelOutput.reached
      ↔ ∀ before event after,
          history = before ++ event :: after
          → ∀ payload ∈ ((setup.stateAfter sha1 before).step sha1 event).2.reached,
              4 ≤ payload.length ∧ (setup.stateAfter sha1 before).HostListens setup := by
  have single {before : List WorldEvent} {event : WorldEvent} {after : List WorldEvent}
      (split : history = before ++ event :: after) :=
    (setup.stateAfter_sound sha1 before).written sha1
      (succeed event (by rw [split]; exact List.mem_append_right _ List.mem_cons_self))
  have shorter : ∀ output ∈ (worldMachine sha1).outputs setup.start history,
      output.written.length ≤ output.reached.length := by
    intro output member
    obtain ⟨before, event, after, split, rfl⟩ := (worldMachine sha1).mem_outputs_iff.mp member
    exact (single split).1
  rw [flatMap_eq_flatMap_iff shorter]
  constructor
  · intro same before event after split
    exact (single split).2.mp
      (same _ ((worldMachine sha1).mem_outputs_iff.mpr ⟨before, event, after, split, rfl⟩))
  · intro listens output member
    obtain ⟨before, event, after, split, rfl⟩ := (worldMachine sha1).mem_outputs_iff.mp member
    exact (single split).2.mpr (listens before event after split)

def sampleWorld : WorldSetup :=
  ⟨⟨{ sampleConfig with myIp := ⟨10, 13, 0, 2⟩ }, 0, true, true⟩, ⟨sampleConfig, 0, true, true⟩⟩

def sampleConnect : Bytes := LdnMitm.sendPacket .connect LdnMitm.NodeInfo.zero.toBytes

def stationConnects : List WorldEvent :=
  [
    .station .tcpThreadStart,
    .station (.accepted 7 [10, 13, 0, 5] true),
    .host (.turn spoofedCapture slowCalls),
    .station (.chunk ⟨0, by decide⟩ sampleConnect (fun _ => true))
  ]

def hostConnects : List WorldEvent :=
  [.host .tcpThreadStart, .host (.accepted 9 [10, 13, 0, 2] true)]

theorem tunnel_written_hostConnects
    : ((worldMachine id).outputs sampleWorld.start
          (hostConnects ++ stationConnects ++ [.relayed 10 (fun _ => true) slowCalls])).flatMap
          TunnelOutput.written
        = [sampleConnect]
      ∧ (sampleWorld.stateAfter id (hostConnects ++ stationConnects)).HostListens sampleWorld := by
  have written : ((worldMachine id).outputs sampleWorld.start
      (hostConnects ++ stationConnects ++ [.relayed 10 (fun _ => true) slowCalls])).flatMap
      TunnelOutput.written = [sampleConnect] := by
    decide +kernel
  have reached : ((worldMachine id).outputs sampleWorld.start
      (hostConnects ++ stationConnects ++ [.relayed 10 (fun _ => true) slowCalls])).flatMap
      TunnelOutput.reached = [sampleConnect] := by
    decide +kernel
  have succeed : ∀ event ∈ hostConnects ++ stationConnects
      ++ [.relayed 10 (fun _ => true) slowCalls], event.SendsSucceed := by
    simp only [hostConnects, stationConnects, List.cons_append, List.nil_append,
      List.forall_mem_cons, WorldEvent.SendsSucceed, true_and]
    exact ⟨fun _ _ => Nat.one_pos, fun _ member => absurd member List.not_mem_nil⟩
  have listens := (sampleWorld.tunnel_written_iff id succeed).mp (written.trans reached.symm)
    (hostConnects ++ stationConnects) (.relayed 10 (fun _ => true) slowCalls) [] rfl sampleConnect
    (by decide +kernel)
  exact ⟨written, listens.2⟩

/-- A host that only listens has no session for the station, and the `Connect` is dropped. -/
theorem tunnel_connect_dropped
    : ((sampleWorld.stateAfter id (.host .tcpThreadStart :: stationConnects)).station.tap.sessions.slots
          ⟨0, by decide⟩)
        = ⟨true, true, some 7, sampleWorld.hostIp⟩
      ∧ ((worldMachine id).outputs sampleWorld.start
          (.host .tcpThreadStart :: stationConnects
            ++ [.relayed 10 (fun _ => true) slowCalls])).flatMap TunnelOutput.reached
        = [sampleConnect]
      ∧ ((worldMachine id).outputs sampleWorld.start
          (.host .tcpThreadStart :: stationConnects
            ++ [.relayed 10 (fun _ => true) slowCalls])).flatMap TunnelOutput.written
        = [] := by
  refine ⟨?_, ?_, ?_⟩
  all_goals decide +kernel

end SwitchLanPlay.Sysmodule
