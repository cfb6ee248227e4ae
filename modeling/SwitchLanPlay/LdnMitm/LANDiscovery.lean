import SwitchLanPlay.Foundation.Latest
import SwitchLanPlay.Foundation.OrderedMap
import SwitchLanPlay.LdnMitm.Discovery
import SwitchLanPlay.LdnMitm.Records

/-! The class `LANDiscovery` of `ldn_mitm`: its state and the calls of the service thread.
Results of system calls are arguments; a result code of zero is success.
-/

namespace SwitchLanPlay.LdnMitm

open Foundation

def makeResult (module_ description : Nat) : Nat := module_ + description * 512

def moduleId : Nat := 0xFD

def ldnModuleId : Nat := 0xCB

inductive CommState where
  | none
  | initialized
  | accessPoint
  | accessPointCreated
  | station
  | stationConnected
  | error
deriving DecidableEq, Repr

inductive NodeStatus where
  | disconnected
  | connect
  | connected
deriving DecidableEq, Repr

inductive DisconnectReason where
  | none
  | disconnectedByUser
  | disconnectedBySystem
  | destroyedByUser
  | destroyedBySystem
  | rejected
  | signalLost
deriving DecidableEq, Repr

def stationCountMax : Nat := nodeCountMax - 1

instance : NeZero stationCountMax := ⟨by decide⟩

/-- `LanStation`; a linked station has the socket of its connection. -/
structure LanStation where
  status : NodeStatus
  socket : Option LanSocket

def LanStation.empty : LanStation := ⟨.disconnected, none⟩

/-- `LDUdpSocket`. `unordered_map::insert` keeps what is there. -/
structure LDUdpSocket where
  isOpen : Bool
  socket : LanSocket
  scanResults : OrderedMap (Block 6) NetworkInfo

structure LDTcpSocket where
  isOpen : Bool
  socket : LanSocket

/-- What `LANDiscovery` tells others: calls of its two callbacks, a change of state with what
`getNetworkInfo` returns inside the callback, and packets sent; and the network it takes over from
a `SyncNetwork` packet.
-/
inductive Effect where
  | lanEvent
  | stateChange (previous next : CommState) (info : Option NetworkInfo)
  | sync (station : Fin stationCountMax) (packet : Bytes)
  | reply (packet : Bytes)
  | broadcast (packet : Bytes)
  | connect (connection : Connection)
  | synced (info : NetworkInfo)

/-- A call that sleeps: a scan waits for answers, a `connect` has sent its packet, or has cleared
the node changes behind that.
-/
inductive Pending where
  | scan (filter : ScanFilter) (count : Nat)
  | connectSent
  | connectCleared

/-- The class with the call its caller is in, the MTU of the console's network profile, and the
effects of the current step. `isReady` tells whether the stations point to their nodes and the
callbacks are set.
-/
structure LANDiscovery where
  disconnectReason : DisconnectReason
  udp : Option LDUdpSocket
  tcp : Option LDTcpSocket
  stations : Fin stationCountMax → LanStation
  nodeChanges : Fin nodeCountMax → UInt8
  nodeLastStates : Fin nodeCountMax → UInt8
  originalMtu : Nat
  initialized : Bool
  networkInfo : NetworkInfo
  state : CommState
  isReady : Bool
  pending : Option Pending
  profileMtu : Nat
  effects : List Effect

namespace LANDiscovery

/-- The constructor. The two arrays and the saved MTU are left as they are in memory. -/
def fresh (nodeChanges nodeLastStates : Fin nodeCountMax → UInt8)
    (originalMtu profileMtu : Nat)
    : LANDiscovery where
  disconnectReason := .none
  udp := none
  tcp := none
  stations := fun _ => .empty
  nodeChanges := nodeChanges
  nodeLastStates := nodeLastStates
  originalMtu := originalMtu
  initialized := false
  networkInfo := .zero
  state := .none
  isReady := false
  pending := none
  profileMtu := profileMtu
  effects := []

def emit (lan : LANDiscovery) (effect : Effect) : LANDiscovery :=
  { lan with effects := lan.effects ++ [effect] }

def lanEvent (lan : LANDiscovery) : LANDiscovery := if lan.isReady then lan.emit .lanEvent else lan

def getNetworkInfo (lan : LANDiscovery) : Except Nat NetworkInfo :=
  if lan.state = .accessPointCreated ∨ lan.state = .stationConnected then .ok lan.networkInfo
  else .error (makeResult ldnModuleId 32)

def setState (lan : LANDiscovery) (next : CommState) : LANDiscovery :=
  let moved := { lan with state := next }
  let told :=
    if lan.state ≠ next ∧ lan.isReady then
      moved.emit (.stateChange lan.state next moved.getNetworkInfo.toOption)
    else moved
  told.lanEvent

theorem lanEvent_frame (lan : LANDiscovery)
    : lan.lanEvent = { lan with effects := lan.lanEvent.effects } := by
  unfold lanEvent
  split <;> rfl

theorem setState_frame (lan : LANDiscovery) (next : CommState)
    : lan.setState next = { lan with state := next, effects := (lan.setState next).effects } := by
  unfold setState
  dsimp only
  rw [lanEvent_frame]
  split <;> rfl

end LANDiscovery

-- Nodes and their changes

namespace LANDiscovery

def initNodeStateChange (lan : LANDiscovery) : LANDiscovery :=
  { lan with nodeChanges := fun _ => 0, nodeLastStates := fun _ => 0 }

/-- `isConnected != nodeLastStates[i]`. The left side is signed, so a value from 128 on differs
from every octet.
-/
def differs (lan : LANDiscovery) (index : Fin nodeCountMax) : Bool :=
  (lan.networkInfo.node index).isConnected ≠ lan.nodeLastStates index
  ∨ 128 ≤ (lan.networkInfo.node index).isConnected

def noteNodeStates (lan : LANDiscovery) : LANDiscovery :=
  {
    lan with
    nodeChanges := fun index =>
      if lan.differs index then
        lan.nodeChanges index
          ||| (if (lan.networkInfo.node index).isConnected ≠ 0 then 1 else 2)
      else lan.nodeChanges index
    nodeLastStates := fun index =>
      if lan.differs index then (lan.networkInfo.node index).isConnected
      else lan.nodeLastStates index
  }

def isNodeStateChanged (lan : LANDiscovery) : LANDiscovery × Bool :=
  (lan.noteNodeStates, (List.finRange nodeCountMax).any lan.differs)

def onNetworkInfoChanged (lan : LANDiscovery) : LANDiscovery :=
  let (lan, changed) := lan.isNodeStateChanged
  if changed then lan.lanEvent else lan

theorem onNetworkInfoChanged_frame (lan : LANDiscovery)
    : lan.onNetworkInfoChanged
      = { lan.noteNodeStates with effects := lan.onNetworkInfoChanged.effects } := by
  unfold onNetworkInfoChanged isNodeStateChanged
  dsimp only
  split
  · rw [lanEvent_frame]
  · rfl

end LANDiscovery

def LanStation.overrideInfo (station : LanStation) (index : Fin nodeCountMax) (node : NodeInfo)
    : NodeInfo :=
  {
    node with
    nodeId := UInt8.ofNat index
    isConnected := if station.status = .connected then 1 else 0
  }

namespace LANDiscovery

def stationOf (lan : LANDiscovery) (index : Fin nodeCountMax) : Option LanStation :=
  if behind : 0 < index.val then
    some (lan.stations ⟨index.val - 1, by
      have bound := index.isLt
      unfold stationCountMax
      omega⟩)
  else none

def overriddenNodes (lan : LANDiscovery) (index : Fin nodeCountMax) : NodeInfo :=
  match lan.stationOf index with
  | none => lan.networkInfo.node index
  | some station => station.overrideInfo index (lan.networkInfo.node index)

def countStations (lan : LANDiscovery) (test : NodeStatus → Bool) : Nat :=
  (List.finRange stationCountMax).countP (fun index => test (lan.stations index).status)

def stationCount (lan : LANDiscovery) : Nat :=
  lan.countStations (fun status => status ≠ .disconnected)

def updatedInfo (lan : LANDiscovery) : NetworkInfo :=
  (lan.networkInfo.withNodes lan.overriddenNodes).withNodeCount
    (lan.countStations (fun status => status = .connected) + 1)

def syncs (lan : LANDiscovery) : List Effect :=
  ((List.finRange stationCountMax).filter
      (fun index =>
        (lan.stations index).status = .connected ∧ (lan.stations index).socket.isSome)).map
    (fun index => .sync index (sendPacket .syncNetwork lan.networkInfo.toBytes))

/-- `updateNodes`; a null pointer when the stations have no nodes yet. -/
def updateNodes (lan : LANDiscovery) : Option LANDiscovery :=
  if lan.isReady then
    let updated := { lan with networkInfo := lan.updatedInfo }
    some { updated with effects := updated.effects ++ updated.syncs }.onNetworkInfoChanged
  else none

end LANDiscovery

-- Sockets

def LANDiscovery.resetStations (lan : LANDiscovery) : LANDiscovery :=
  { lan with stations := fun _ => .empty }

def LANDiscovery.closeTcp (lan : LANDiscovery) : LANDiscovery :=
  { lan with tcp := lan.tcp.map (fun tcp => { tcp with isOpen := false }) }

def LANDiscovery.closeUdp (lan : LANDiscovery) : LANDiscovery :=
  { lan with udp := lan.udp.map (fun udp => { udp with isOpen := false }) }

/-- Which system calls of `initTcp` or `initUdp` succeed; `initUdp` does not listen. -/
structure SocketCalls where
  socket : Bool
  bind : Bool
  listen : Bool
  broadcast : Bool

/-- `initTcp`: the old socket is closed even when there will be no new one. -/
def LANDiscovery.initTcp (lan : LANDiscovery) (calls : SocketCalls) (listening : Bool)
    : LANDiscovery × Nat :=
  let lan := lan.closeTcp
  if ¬ calls.socket then (lan, makeResult moduleId 6)
  else if listening ∧ ¬ calls.bind then (lan, makeResult moduleId 7)
  else if listening ∧ ¬ calls.listen then (lan, makeResult moduleId 8)
  else if ¬ calls.broadcast then (lan, makeResult moduleId 4)
  else ({ lan with tcp := some ⟨true, .empty⟩ }, 0)

def LANDiscovery.initUdp (lan : LANDiscovery) (calls : SocketCalls) : LANDiscovery × Nat :=
  let lan := lan.closeUdp
  if ¬ calls.socket then (lan, makeResult moduleId 1)
  else if ¬ calls.bind then (lan, makeResult moduleId 2)
  else if ¬ calls.broadcast then (lan, makeResult moduleId 4)
  else ({ lan with udp := some ⟨true, .empty, .empty⟩ }, 0)

theorem LANDiscovery.initTcp_frame (lan : LANDiscovery) (calls : SocketCalls) (listening : Bool)
    : (lan.initTcp calls listening).1
      = { lan with tcp := (lan.initTcp calls listening).1.tcp } := by
  unfold initTcp
  dsimp only
  split
  · rfl
  · split
    · rfl
    · split
      · rfl
      · split <;> rfl

theorem LANDiscovery.initUdp_frame (lan : LANDiscovery) (calls : SocketCalls)
    : (lan.initUdp calls).1 = { lan with udp := (lan.initUdp calls).1.udp } := by
  unfold initUdp
  dsimp only
  split
  · rfl
  · split
    · rfl
    · split <;> rfl

-- Life of the service

structure InitializeCalls where
  getProfile : Nat
  setProfile : Nat
  createRequest : Nat
  setLocalNetworkMode : Nat
  submit : Nat
  udp : SocketCalls
  createThread : Nat

/-- The second half of `initialize`: the stations, the callbacks, the socket and the worker. -/
def LANDiscovery.startWorker (lan : LANDiscovery) (calls : InitializeCalls)
    : LANDiscovery × Nat :=
  let (lan, rc) := { lan.resetStations with isReady := true }.initUdp calls.udp
  if rc ≠ 0 then (lan, rc)
  else if calls.createThread ≠ 0 then (lan, 0xF601)
  else ({ lan.setState .initialized with initialized := true }, 0)

/-- `initialize`. It leaves by the first failing call and undoes nothing. -/
def LANDiscovery.initializeLan (lan : LANDiscovery) (calls : InitializeCalls)
    : LANDiscovery × Nat :=
  if lan.initialized then (lan, 0)
  else if calls.getProfile ≠ 0 then (lan, calls.getProfile)
  else
    let lan := { lan with originalMtu := lan.profileMtu }
    if calls.setProfile ≠ 0 then (lan, calls.setProfile)
    else
      let lan := { lan with profileMtu := 1500 }
      if calls.createRequest ≠ 0 then (lan, calls.createRequest)
      else if calls.setLocalNetworkMode ≠ 0 then (lan, calls.setLocalNetworkMode)
      else if calls.submit ≠ 0 then (lan, calls.submit)
      else lan.startWorker calls

structure FinalizeCalls where
  cancel : Nat
  getProfile : Nat
  setProfile : Nat

namespace LANDiscovery

/-- `finalize`. When the profile cannot be read, what is written back is not the profile. -/
def finalize (lan : LANDiscovery) (calls : FinalizeCalls) : LANDiscovery × Nat :=
  if lan.initialized then
    let lan := { lan with udp := none, tcp := none }.resetStations
    let profileMtu :=
      if calls.getProfile = 0 ∧ calls.setProfile = 0 then lan.originalMtu else lan.profileMtu
    ({ lan with initialized := false, profileMtu := profileMtu }.setState .none, calls.setProfile)
  else (lan.setState .none, 0)

def enter (lan : LANDiscovery) (next : CommState) : LANDiscovery :=
  lan.closeTcp.resetStations.setState next

def openAccessPoint (lan : LANDiscovery) : LANDiscovery × Nat :=
  let lan := { lan with disconnectReason := .none }
  if lan.state = .none then (lan, makeResult ldnModuleId 32) else (lan.enter .accessPoint, 0)

def closeAccessPoint (lan : LANDiscovery) : LANDiscovery × Nat :=
  if lan.state = .none then (lan, makeResult ldnModuleId 32) else (lan.enter .initialized, 0)

def openStation (lan : LANDiscovery) : LANDiscovery × Nat :=
  let lan := { lan with disconnectReason := .none }
  if lan.state = .none then (lan, makeResult ldnModuleId 32) else (lan.enter .station, 0)

def closeStation (lan : LANDiscovery) : LANDiscovery × Nat :=
  if lan.state = .none then (lan, makeResult ldnModuleId 32) else (lan.enter .initialized, 0)

/-- `destroyNetwork`; there is no check of the state. -/
def destroyNetwork (lan : LANDiscovery) : LANDiscovery × Nat := (lan.enter .accessPoint, 0)

/-- `disconnect`; there is no check of the state, and the stations stay. -/
def disconnect (lan : LANDiscovery) : LANDiscovery × Nat := (lan.closeTcp.setState .station, 0)

end LANDiscovery

-- Hosting

structure UserConfig where
  userName : Block 33
  terminated : 0 ∈ userName.val

structure NetworkConfig where
  intentId : Block 16
  channel : UInt16
  nodeCountMax : UInt8
  localCommunicationVersion : UInt16

/-- The text in front of the NUL is shorter than the field. -/
theorem length_takeWhile_lt {octets : Bytes} (terminated : 0 ∈ octets)
    : (octets.takeWhile (· ≠ 0)).length < octets.length := by
  induction octets with
  | nil => cases terminated
  | cons octet octets ih =>
    by_cases nul : octet = 0
    · simp [nul]
    · have behind : 0 ∈ octets := by
        rcases List.mem_cons.mp terminated with same | behind
        · exact absurd same.symm nul
        · exact behind
      simpa [nul] using ih behind

def UserConfig.copyName (user : UserConfig) (name : Block 33) : Block 33 :=
  let text := user.userName.val.takeWhile (· ≠ 0) ++ [0]
  ⟨text ++ name.val.drop text.length, by
    have shorter := length_takeWhile_lt user.terminated
    have size := user.userName.property
    simp only [text, List.length_append, List.length_drop, List.length_singleton,
      name.property]
    omega⟩

/-- `nifmGetCurrentIpAddress`: the result code, and with success the address, here in host byte
order.
-/
structure IpCall where
  rc : Nat
  address : UInt32

def getFakeMac (ip : IpCall) (mac : Block 6) : Block 6 × Nat :=
  if ip.rc = 0 then (⟨[0x02, 0x00] ++ le32 ip.address.toNat, rfl⟩, ip.rc)
  else (⟨[0x02, 0x00] ++ mac.val.drop 2, by simp⟩, ip.rc)

/-- `getNodeInfo`; the address of the console is asked for twice. -/
def getNodeInfo (node : NodeInfo) (user : UserConfig) (version : UInt16) (ip macIp : IpCall)
    : NodeInfo × Nat :=
  if ip.rc ≠ 0 then (node, ip.rc)
  else
    let (mac, rc) := getFakeMac macIp node.macAddress
    let node := { node with macAddress := mac }
    if rc ≠ 0 then (node, rc)
    else
      ({
          node with
          isConnected := 1
          userName := user.copyName node.userName
          localCommunicationVersion := version
          ipv4Address := ip.address
        }, 0)

def fakeSsid : Block 34 :=
  ⟨32 :: ((List.replicate 4 [0x31, 0x32, 0x33, 0x34, 0x35, 0x36, 0x37, 0x38]).flatten ++ [0]), rfl⟩

def LANDiscovery.modifyInfo (lan : LANDiscovery) (change : NetworkInfo → NetworkInfo)
    : LANDiscovery := { lan with networkInfo := change lan.networkInfo }

def LANDiscovery.initNetworkInfo (lan : LANDiscovery) (ip : IpCall) : LANDiscovery × Nat :=
  let (bssid, rc) := getFakeMac ip lan.networkInfo.common.bssid
  let lan :=
    lan.modifyInfo (fun info => { info with common := { info.common with bssid := bssid } })
  if rc ≠ 0 then (lan, rc)
  else
    let lan :=
      lan.modifyInfo
        (fun info =>
          {
            info with
            common :=
              { info.common with channel := 6, linkLevel := 3, networkType := 2, ssid := fakeSsid }
          })
    (lan.modifyInfo
      (fun info =>
        info.withNodes
          (fun index => { info.node index with nodeId := UInt8.ofNat index, isConnected := 0 })), 0)

def NetworkInfo.configure (info : NetworkInfo) (securityMode : UInt16) (config : NetworkConfig)
    (sessionId : Block 16)
    : NetworkInfo :=
  {
    networkId := ⟨config.intentId.val ++ sessionId.val, by simp⟩
    common := { info.common with channel := if config.channel = 0 then 6 else config.channel }
    ldn := { info.ldn with nodeCountMax := config.nodeCountMax, securityMode := securityMode }
  }

structure CreateCalls where
  tcp : SocketCalls
  bssidIp : IpCall
  sessionId : Block 16
  ip : IpCall
  macIp : IpCall

def LANDiscovery.beginHosting (lan : LANDiscovery) : Option LANDiscovery :=
  let lan := (lan.setState .accessPointCreated).initNodeStateChange
  (lan.modifyInfo
    (fun info => info.setNode 0 { info.node 0 with isConnected := 1 })).updateNodes

/-- `createNetwork`; no result when `updateNodes` finds no nodes. -/
def LANDiscovery.createNetwork (lan : LANDiscovery) (securityMode : UInt16) (user : UserConfig)
    (config : NetworkConfig) (calls : CreateCalls)
    : Option (LANDiscovery × Nat) :=
  if lan.state ≠ .accessPoint then some (lan, makeResult ldnModuleId 32)
  else
    let (lan, rc) := lan.initTcp calls.tcp true
    if rc ≠ 0 then some (lan, rc)
    else
      let (lan, rc) := lan.initNetworkInfo calls.bssidIp
      if rc ≠ 0 then some (lan, rc)
      else
        let lan := lan.modifyInfo (fun info => info.configure securityMode config calls.sessionId)
        let (node0, rc) := getNodeInfo (lan.networkInfo.node 0) user
          config.localCommunicationVersion calls.ip calls.macIp
        let lan := lan.modifyInfo (fun info => info.setNode 0 node0)
        if rc ≠ 0 then some (lan, rc) else lan.beginHosting.map (fun lan => (lan, 0))

def advertiseDataSizeMax : Nat := 384

def NetworkInfo.advertise (info : NetworkInfo) (data : Bytes)
    (fits : data.length ≤ advertiseDataSizeMax)
    : NetworkInfo :=
  {
    info with
    ldn :=
      {
        info.ldn with
        advertiseDataSize := UInt16.ofNat data.length
        advertiseData :=
          ⟨data ++ info.ldn.advertiseData.val.drop data.length, by
            have size : advertiseDataSizeMax = 384 := rfl
            simp only [List.length_append, List.length_drop, Block.length_val]
            omega⟩
      }
  }

/-- `setAdvertiseData`; the size has sixteen bits, and there is no check of the state. -/
def LANDiscovery.setAdvertiseData (lan : LANDiscovery) (data : Bytes)
    : Option (LANDiscovery × Nat) :=
  let taken := data.take (data.length % 65536)
  if fits : taken.length ≤ advertiseDataSizeMax then
    (lan.modifyInfo (fun info => info.advertise taken fits)).updateNodes.map (fun lan => (lan, 0))
  else some (lan, makeResult moduleId 10)

-- Scanning and connecting

/-- `scan` up to its sleep; a null pointer without a UDP socket. -/
def LANDiscovery.startScan (lan : LANDiscovery) (filter : ScanFilter) (count : Nat) (sent : Bool)
    : Option (LANDiscovery × Nat) :=
  lan.udp.map
    (fun udp =>
      let lan := { lan with udp := some { udp with scanResults := .empty } }
      if sent ∧ udp.isOpen then
        ({ lan with pending := some (.scan filter count) }.emit
          (.broadcast (sendPacket .scan (ScanFilter.layout filter).val)), 0)
      else (lan, makeResult moduleId 20))

def collectScan (filter : ScanFilter) (count : Nat) : List NetworkInfo → List NetworkInfo
  | [] => []
  | info :: rest =>
    if count = 0 then []
    else if scanFilterMatchesNetwork (some filter) info then
      info :: collectScan filter (count - 1) rest
    else collectScan filter count rest

/-- An order in which an `unordered_map` may be walked. -/
abbrev MapOrder := Walk NetworkInfo

def LANDiscovery.finishScan (lan : LANDiscovery) (filter : ScanFilter) (count : Nat)
    (order : MapOrder)
    : Option (LANDiscovery × List NetworkInfo) :=
  lan.udp.map
    (fun udp =>
      ({ lan with pending := none },
        collectScan filter count (order.val (udp.scanResults.entries.map Prod.snd))))

structure StationCalls where
  tcp : SocketCalls
  connected : Bool
  ip : IpCall
  macIp : IpCall
  sent : Bool

def LANDiscovery.startConnect (lan : LANDiscovery) (networkInfo : NetworkInfo) (user : UserConfig)
    (version : UInt16) (calls : StationCalls)
    : LANDiscovery × Nat :=
  if networkInfo.ldn.nodeCount = 0 then (lan, makeResult moduleId 30)
  else
    let (lan, rc) := lan.initTcp calls.tcp false
    if rc ≠ 0 then (lan, rc)
    else if ¬ calls.connected then (lan, makeResult moduleId 31)
    else
      let (myNode, rc) := getNodeInfo .zero user version calls.ip calls.macIp
      if rc ≠ 0 then (lan, rc)
      else if ¬ calls.sent then (lan, makeResult moduleId 32)
      else
        let hostIp := networkInfo.host.ipv4Address
        ({ lan with pending := some .connectSent }.emit
          (.connect ⟨(route hostIp).1, (route hostIp).2, sendPacket .connect myNode.toBytes⟩), 0)

def LANDiscovery.getNetworkInfoLatestUpdate (lan : LANDiscovery) (bufferCount : Int)
    : LANDiscovery × Except Nat (NetworkInfo × List UInt8) :=
  if bufferCount < 0 ∨ nodeCountMax < bufferCount then (lan, .error (makeResult moduleId 50))
  else
    match lan.getNetworkInfo with
    | .error rc => (lan, .error rc)
    | .ok info =>
      ({
          lan with
          nodeChanges := fun index => if index.val < bufferCount then 0 else lan.nodeChanges index
        }, .ok (info, (List.ofFn lan.nodeChanges).take bufferCount.toNat))

end SwitchLanPlay.LdnMitm
