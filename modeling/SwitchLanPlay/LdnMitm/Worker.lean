import SwitchLanPlay.Foundation.Machine
import SwitchLanPlay.LdnMitm.LANDiscovery

/-! What the worker thread of `LANDiscovery` does with the events of its sockets, and the class as
a machine of calls and events, each of them whole. A `scan` and a `connect` sleep, so that events
come in between.
-/

namespace SwitchLanPlay.LdnMitm

open Foundation

/-- `TcpLanSocketBase::recvfrom`: the end of the stream is an error. -/
def tcpRecvfrom : Except Int Bytes → Except Int Bytes
  | .ok [] => .error (-0xFD23)
  | arrived => arrived

def LANDiscovery.modifyStation (lan : LANDiscovery) (index : Fin stationCountMax)
    (change : LanStation → LanStation)
    : LANDiscovery :=
  { lan with stations := Function.update lan.stations index (change (lan.stations index)) }

def nodeOf (index : Fin stationCountMax) : Fin nodeCountMax :=
  ⟨index.val + 1, by
    have bound := index.isLt
    unfold stationCountMax at bound
    omega⟩

def LANDiscovery.stationCallback (lan : LANDiscovery) (index : Fin stationCountMax) (type : UInt8)
    (body : Bytes)
    : Option (LANDiscovery × Int) :=
  if type = LANPacketType.connect.toByte then
    match NodeInfo.layout.read? body with
    | none => some (lan, -1)
    | some info =>
      let lan := lan.modifyInfo (fun network => network.setNode (nodeOf index) info)
      (lan.modifyStation index
        (fun station => { station with status := .connected })).updateNodes.map
          (fun lan => (lan, 0))
  else some (lan, 0)

def LANDiscovery.stationOnRead (lan : LANDiscovery) (index : Fin stationCountMax)
    (arrived : Except Int Bytes)
    : Option (LANDiscovery × Int) :=
  match (lan.stations index).socket with
  | none => some (lan, -1)
  | some socket =>
    let (socket, outcome) := socket.recvPacket (tcpRecvfrom arrived)
    let lan := lan.modifyStation index (fun station => { station with socket := some socket })
    match outcome with
    | .returned code => some (lan, code)
    | .callback type body => lan.stationCallback index type body

def LANDiscovery.stationOnClose (lan : LANDiscovery) (index : Fin stationCountMax)
    : Option LANDiscovery := (lan.modifyStation index (fun _ => .empty)).updateNodes

def insertNew (results : OrderedMap (Block 6) NetworkInfo) (info : NetworkInfo)
    : OrderedMap (Block 6) NetworkInfo :=
  if (results.get? info.common.bssid).isSome then results else results.set info.common.bssid info

/-- The filter of a `Scan` packet; older clients send none. -/
def scanFilter? (body : Bytes) : Option ScanFilter := ScanFilter.layout.read? (body.take 96)

namespace LANDiscovery

def udpCallback (lan : LANDiscovery) (udp : LDUdpSocket) (type : UInt8) (body : Bytes)
    : LANDiscovery :=
  if type = LANPacketType.scan.toByte then
    if lan.state = .accessPointCreated
        ∧ scanFilterMatchesNetwork (scanFilter? body) lan.networkInfo then
      lan.emit (.reply (sendPacket .scanResp lan.networkInfo.toBytes))
    else lan
  else if type = LANPacketType.scanResp.toByte then
    match NetworkInfo.layout.read? body with
    | none => lan
    | some info =>
      { lan with udp := some { udp with scanResults := insertNew udp.scanResults info } }
  else lan

def udpOnRead (lan : LANDiscovery) (udp : LDUdpSocket) (arrived : Except Int Bytes)
    : LANDiscovery × Int :=
  let (socket, outcome) := udp.socket.recvPacket arrived
  let udp := { udp with socket := socket }
  let lan := { lan with udp := some udp }
  match outcome with
  | .returned code => (lan, code)
  | .callback type body => (lan.udpCallback udp type body, 0)

def udpOnClose (lan : LANDiscovery) : LANDiscovery :=
  { lan with disconnectReason := .signalLost }.setState .error

def onSyncNetwork (lan : LANDiscovery) (info : NetworkInfo) : LANDiscovery :=
  let lan := { lan with networkInfo := info }.emit (.synced info)
  let lan := if lan.state = .station then lan.setState .stationConnected else lan
  lan.onNetworkInfoChanged

def onConnect (lan : LANDiscovery) : LANDiscovery :=
  if stationCountMax ≤ lan.stationCount then lan
  else
    match (List.finRange stationCountMax).find?
        (fun index => (lan.stations index).status = .disconnected) with
    | none => lan
    | some index => lan.modifyStation index (fun _ => ⟨.connect, some .empty⟩)

def onDisconnectFromHost (lan : LANDiscovery) : LANDiscovery :=
  if lan.state = .stationConnected then lan.setState .station else lan

def tcpCallback (lan : LANDiscovery) (type : UInt8) (body : Bytes)
    : LANDiscovery × Int :=
  if type = LANPacketType.syncNetwork.toByte then
    match NetworkInfo.layout.read? body with
    | none => (lan, -1)
    | some info => (lan.onSyncNetwork info, 0)
  else (lan, -1)

def readHost (lan : LANDiscovery) (tcp : LDTcpSocket) (arrived : Except Int Bytes)
    : LANDiscovery × Int :=
  let (socket, outcome) := tcp.socket.recvPacket (tcpRecvfrom arrived)
  let lan := { lan with tcp := some { tcp with socket := socket } }
  match outcome with
  | .returned code => (lan, code)
  | .callback type body => lan.tcpCallback type body

/-- `LDTcpSocket::onRead`; `accepted` tells whether `accept` would succeed. -/
def tcpOnRead (lan : LANDiscovery) (tcp : LDTcpSocket) (arrived : Except Int Bytes)
    (accepted : Bool)
    : LANDiscovery × Int :=
  match lan.state with
  | .station | .stationConnected => lan.readHost tcp arrived
  | .accessPointCreated => if accepted then (lan.onConnect, 0) else (lan, -1)
  | _ => (lan, -1)

end LANDiscovery

/-- What `poll` reports for a descriptor: an error or hang-up, or octets to read and a connection
to accept.
-/
inductive Readiness where
  | hangUp
  | readable (arrived : Except Int Bytes) (accepted : Bool)

inductive Descriptor where
  | udp
  | tcp
  | station (index : Fin stationCountMax)

/-- One descriptor of `Pollable::Poll` in `loopPoll`. Closed descriptors are not polled; a read that
fails closes.
-/
def LANDiscovery.poll (lan : LANDiscovery) (descriptor : Descriptor) (readiness : Readiness)
    : Option LANDiscovery :=
  if ¬ lan.initialized then some lan
  else
    match descriptor with
    | .udp =>
      match lan.udp.filter LDUdpSocket.isOpen, readiness with
      | none, _ => some lan
      | some _, .hangUp => some lan.udpOnClose
      | some udp, .readable arrived _ =>
        let (lan, rc) := lan.udpOnRead udp arrived
        some (if rc = 0 then lan else lan.udpOnClose)
    | .tcp =>
      match lan.tcp.filter LDTcpSocket.isOpen, readiness with
      | none, _ => some lan
      | some _, .hangUp => some lan.onDisconnectFromHost
      | some tcp, .readable arrived accepted =>
        let (lan, rc) := lan.tcpOnRead tcp arrived accepted
        some (if rc = 0 then lan else lan.onDisconnectFromHost)
    | .station index =>
      match (lan.stations index).socket, readiness with
      | none, _ => some lan
      | some _, .hangUp => lan.stationOnClose index
      | some _, .readable arrived _ =>
        (lan.stationOnRead index arrived).bind
          (fun (lan, rc) => if rc = 0 then some lan else lan.stationOnClose index)

-- Calls and events

/-- The calls of the service, with the results of the system calls they make. -/
inductive Call where
  | initializeLan (processId : Nat) (calls : InitializeCalls)
  | finalize (calls : FinalizeCalls)
  | openAccessPoint
  | closeAccessPoint
  | openStation
  | closeStation
  | createNetwork (securityMode : UInt16) (user : UserConfig) (config : NetworkConfig)
      (calls : CreateCalls)
  | destroyNetwork
  | setAdvertiseData (data : Bytes)
  | scan (filter : ScanFilter) (count : Nat) (sent : Bool)
  | connect (networkInfo : NetworkInfo) (user : UserConfig) (version : UInt16)
      (calls : StationCalls)
  | disconnect
  | getNetworkInfo
  | getNetworkInfoLatestUpdate (bufferCount : Int)

inductive Answer where
  | none
  | code (rc : Nat)
  | network (result : Except Nat NetworkInfo)
  | updates (result : Except Nat (NetworkInfo × List UInt8))
  | networks (infos : List NetworkInfo)

inductive LanEvent where
  | call (call : Call)
  | resume (order : MapOrder)
  | poll (descriptor : Descriptor) (readiness : Readiness)

namespace LANDiscovery

def answer (outcome : LANDiscovery × Nat) : Option (LANDiscovery × Answer) :=
  some (outcome.1, .code outcome.2)

def answerLater (outcome : LANDiscovery × Nat) : LANDiscovery × Answer :=
  (outcome.1, if outcome.1.pending.isSome then .none else .code outcome.2)

def handle (lan : LANDiscovery) : Call → Option (LANDiscovery × Answer)
  | .initializeLan _ calls => LANDiscovery.answer (lan.initializeLan calls)
  | .finalize calls => LANDiscovery.answer (lan.finalize calls)
  | .openAccessPoint => LANDiscovery.answer lan.openAccessPoint
  | .closeAccessPoint => LANDiscovery.answer lan.closeAccessPoint
  | .openStation => LANDiscovery.answer lan.openStation
  | .closeStation => LANDiscovery.answer lan.closeStation
  | .createNetwork securityMode user config calls =>
    (lan.createNetwork securityMode user config calls).bind LANDiscovery.answer
  | .destroyNetwork => LANDiscovery.answer lan.destroyNetwork
  | .setAdvertiseData data => (lan.setAdvertiseData data).bind LANDiscovery.answer
  | .scan filter count sent => (lan.startScan filter count sent).map LANDiscovery.answerLater
  | .connect networkInfo user version calls =>
    some (LANDiscovery.answerLater (lan.startConnect networkInfo user version calls))
  | .disconnect => LANDiscovery.answer lan.disconnect
  | .getNetworkInfo => some (lan, .network lan.getNetworkInfo)
  | .getNetworkInfoLatestUpdate bufferCount =>
    let outcome := lan.getNetworkInfoLatestUpdate bufferCount
    some (outcome.1, .updates outcome.2)

/-- The end of a sleep: a scan collects its results, a `connect` clears the node changes and
then returns.
-/
def resume (lan : LANDiscovery) (order : MapOrder)
    : Option (LANDiscovery × Answer) :=
  match lan.pending with
  | none => some (lan, .none)
  | some (.scan filter count) =>
    (lan.finishScan filter count order).map (fun outcome => (outcome.1, .networks outcome.2))
  | some .connectSent =>
    some ({ lan.initNodeStateChange with pending := some .connectCleared }, .none)
  | some .connectCleared => some ({ lan with pending := none }, .code 0)

/-- One step; no result after a null pointer. While a call sleeps there is no other. -/
def step (lan : LANDiscovery) (event : LanEvent) : Option (LANDiscovery × Answer) :=
  let lan := { lan with effects := [] }
  match event with
  | .call call => if lan.pending.isSome then some (lan, .none) else lan.handle call
  | .resume order => lan.resume order
  | .poll descriptor readiness => (lan.poll descriptor readiness).map (fun lan => (lan, .none))

theorem step_poll {lan next : LANDiscovery} {descriptor : Descriptor}
    {readiness : Readiness}
    (polled : ({ lan with effects := [] } : LANDiscovery).poll descriptor readiness = some next)
    : lan.step (.poll descriptor readiness) = some (next, .none) := by
  unfold LANDiscovery.step
  dsimp only
  rw [polled]
  rfl

end LANDiscovery

def discovery : Machine (Option LANDiscovery) LanEvent Answer := .failing LANDiscovery.step .none

-- Packets with a network

theorem NetworkInfo.length_toBytes (info : NetworkInfo) : info.toBytes.length = 1152 := by
  rw [← layout_val]
  exact (layout info).property

theorem NetworkInfo.read?_toBytes (info : NetworkInfo)
    : NetworkInfo.layout.read? info.toBytes = some info := layout.read?_eq_some.mpr info.layout_val

/-- A packet with a network that arrives whole reaches the callback. -/
theorem recvPacket_network (type : LANPacketType) (info : NetworkInfo)
    : LanSocket.empty.recvPacket (.ok (sendPacket type info.toBytes))
      = (.empty, .callback type.toByte info.toBytes) := by
  have size := info.length_toBytes
  have buffer : bufferSize = 2048 := rfl
  have header : headerSize = 12 := rfl
  obtain ⟨isPacket, length, decodes⟩ := sendPacket_spec type
    (by omega : info.toBytes.length ≤ bufferSize)
  rw [recvPacket_whole isPacket (by omega), decodes]

end SwitchLanPlay.LdnMitm
