import SwitchLanPlay.LdnMitm.Worker

/-! The session that a `LANDiscovery` holds, seen from outside: its state, the statuses of its
stations, its network, and what it tells and takes over in a step. Every step makes one of a few
moves.
-/

namespace SwitchLanPlay.LdnMitm

open Option
open Foundation

abbrev Statuses := Fin stationCountMax → NodeStatus

structure View where
  initialized : Bool
  isReady : Bool
  hasUdp : Bool
  scanning : Bool
  state : CommState
  status : Statuses
  networkInfo : NetworkInfo
  changes : List (CommState × CommState)
  synced : List NetworkInfo

def Effect.change? : Effect → Option (CommState × CommState)
  | .stateChange previous next _ => some (previous, next)
  | _ => none

def Effect.synced? : Effect → Option NetworkInfo
  | .synced info => some info
  | _ => none

def Pending.isScan : Pending → Bool
  | .scan _ _ => true
  | .connectSent | .connectCleared => false

def LANDiscovery.view (lan : LANDiscovery) : View where
  initialized := lan.initialized
  isReady := lan.isReady
  hasUdp := lan.udp.isSome
  scanning := lan.pending.any Pending.isScan
  state := lan.state
  status := fun index => (lan.stations index).status
  networkInfo := lan.networkInfo
  changes := lan.effects.filterMap Effect.change?
  synced := lan.effects.filterMap Effect.synced?

def View.begun (view : View) : View := { view with changes := [], synced := [] }

/-- A change of state is told once the callbacks are set. -/
def View.setState (view : View) (next : CommState) : View :=
  {
    view with
    state := next
    changes :=
      view.changes ++ (if view.state ≠ next ∧ view.isReady then [(view.state, next)] else [])
  }

def View.reset (view : View) : View := { view with status := fun _ => .disconnected }

def View.withStatus (view : View) (index : Fin stationCountMax) (status : NodeStatus) : View :=
  { view with status := Function.update view.status index status }

def View.withInfo (view : View) (info : NetworkInfo) : View := { view with networkInfo := info }

-- Views behind the parts of a step

section Parts

variable (lan : LANDiscovery)

namespace LANDiscovery

@[simp] theorem view_lanEvent : lan.lanEvent.view = lan.view := by
  unfold lanEvent
  split
  · simp [view, emit, Effect.change?, Effect.synced?]
  · rfl

@[simp] theorem view_setState (next : CommState)
    : (lan.setState next).view = lan.view.setState next := by
  unfold setState
  dsimp only
  rw [view_lanEvent]
  split
  · rename_i told
    simp [view, emit, View.setState, told, Effect.change?,
      Effect.synced?]
  · rename_i silent
    simp [view, View.setState, silent]

@[simp] theorem view_onNetworkInfoChanged : lan.onNetworkInfoChanged.view = lan.view := by
  unfold onNetworkInfoChanged isNodeStateChanged
  dsimp only
  split
  · rw [view_lanEvent]
    rfl
  · rfl

/-- Packets sent do not show. -/
theorem view_emit {effect : Effect} (unchanged : effect.change? = none)
    (unsynced : effect.synced? = none)
    : (lan.emit effect).view = lan.view := by
  simp [view, emit, unchanged, unsynced]

@[simp] theorem view_initNodeStateChange : lan.initNodeStateChange.view = lan.view := rfl

@[simp] theorem view_resetStations : lan.resetStations.view = lan.view.reset := rfl

@[simp] theorem view_closeTcp : lan.closeTcp.view = lan.view := rfl

@[simp] theorem view_modifyInfo (change : NetworkInfo → NetworkInfo)
    : (lan.modifyInfo change).view = lan.view.withInfo (change lan.networkInfo) := rfl

theorem view_modifyStation (index : Fin stationCountMax)
    (change : LanStation → LanStation)
    : (lan.modifyStation index change).view
      = lan.view.withStatus index (change (lan.stations index)).status := by
  simp only [view, modifyStation, View.withStatus, View.mk.injEq,
    true_and, and_true]
  funext other
  simp only [Function.update_apply]
  split <;> rfl

@[simp] theorem view_enter (next : CommState)
    : (lan.enter next).view = lan.view.reset.setState next := by
  simp [enter]

theorem view_initTcp (calls : SocketCalls) (listening : Bool)
    : (lan.initTcp calls listening).1.view = lan.view := by
  rw [initTcp_frame]
  rfl

/-- `initUdp` closes an old socket and keeps it, or replaces it. -/
theorem view_initUdp (calls : SocketCalls)
    : (lan.initUdp calls).2 ≠ 0 ∧ (lan.initUdp calls).1.view = lan.view
      ∨ (lan.initUdp calls).2 = 0
        ∧ (lan.initUdp calls).1.view = { lan.view with hasUdp := true } := by
  have closed : lan.closeUdp.view = lan.view := by
    simp [view, closeUdp]
  unfold initUdp
  dsimp only
  split
  · exact .inl ⟨by simp [makeResult, moduleId], closed⟩
  · split
    · exact .inl ⟨by simp [makeResult, moduleId], closed⟩
    · split
      · exact .inl ⟨by simp [makeResult, moduleId], closed⟩
      · exact .inr ⟨rfl, rfl⟩

end LANDiscovery

end Parts

-- The list of nodes

def connectedCount (status : Statuses) : Nat :=
  (List.finRange stationCountMax).countP (fun index => status index = .connected)

/-- The network lists `host` and the connected ones of the stations. -/
structure Listed (status : Statuses) (host : NodeInfo) (info : NetworkInfo) : Prop where
  host : info.node 0 = host
  nodeId : ∀ index, (info.node (nodeOf index)).nodeId = UInt8.ofNat (index.val + 1)
  isConnected
    : ∀ index,
        (info.node (nodeOf index)).isConnected = if status index = .connected then 1 else 0
  nodeCount : info.ldn.nodeCount = UInt8.ofNat (connectedCount status + 1)

namespace LANDiscovery

theorem overriddenNodes_zero (lan : LANDiscovery)
    : lan.overriddenNodes 0 = lan.networkInfo.node 0 := rfl

theorem overriddenNodes_nodeOf (lan : LANDiscovery) (index : Fin stationCountMax)
    : lan.overriddenNodes (nodeOf index)
      = (lan.stations index).overrideInfo (nodeOf index) (lan.networkInfo.node (nodeOf index)) := by
  unfold overriddenNodes stationOf
  rw [dif_pos (by simp [nodeOf])]
  rfl

theorem node_updatedInfo (lan : LANDiscovery) : lan.updatedInfo.node = lan.overriddenNodes := by
  simp [updatedInfo]

theorem updatedInfo_listed (lan : LANDiscovery)
    : Listed lan.view.status (lan.networkInfo.node 0) lan.updatedInfo where
  host := by rw [lan.node_updatedInfo, lan.overriddenNodes_zero]
  nodeId index := by
    rw [lan.node_updatedInfo, lan.overriddenNodes_nodeOf]
    rfl
  isConnected index := by
    rw [lan.node_updatedInfo, lan.overriddenNodes_nodeOf]
    rfl
  nodeCount := rfl

theorem view_updateNodes {lan next : LANDiscovery}
    (updated : lan.updateNodes = some next)
    : lan.isReady ∧ next.view = lan.view.withInfo lan.updatedInfo := by
  unfold updateNodes at updated
  split at updated
  · rename_i ready
    cases updated
    refine ⟨ready, ?_⟩
    rw [view_onNetworkInfoChanged]
    have told {α : Type} (project : Effect → Option α)
        (silent : ∀ station packet, project (.sync station packet) = none)
        : { lan with networkInfo := lan.updatedInfo }.syncs.filterMap project = [] := by
      simp [syncs, silent]
    simp only [view, View.withInfo, List.filterMap_append,
      told Effect.change? (fun _ _ => rfl), told Effect.synced? (fun _ _ => rfl),
      List.append_nil]
  · cases updated

/-- `updateNodes` lists the stations; it needs their nodes. -/
theorem updateNodes_some {lan next : LANDiscovery}
    (updated : lan.updateNodes = some next)
    : lan.isReady
      ∧ ∃ info,
          Listed lan.view.status (lan.networkInfo.node 0) info
          ∧ next.view = lan.view.withInfo info := by
  obtain ⟨ready, view⟩ := view_updateNodes updated
  exact ⟨ready, lan.updatedInfo, lan.updatedInfo_listed, view⟩

end LANDiscovery

-- Moves

def CommState.Idle (state : CommState) : Prop :=
  state = .initialized ∨ state = .accessPoint ∨ state = .station

/-- What a step may do to a session. -/
inductive View.Moves (view : View) : LanEvent → View → Prop where
  | stay {event} : view.Moves event view
  | prepare {event} {hasUdp : Bool}
      : view.initialized = false
        → (view.hasUdp → hasUdp)
        → view.Moves event { view.reset with isReady := true, hasUdp := hasUdp }
  | start {event}
      : view.initialized = false
        → view.Moves event
            {
              { view.reset with isReady := true, hasUdp := true }.setState .initialized with
              initialized := true
            }
  | stop {event}
      : view.initialized
        → view.scanning = false
        → view.Moves event
            ({ view.reset with initialized := false, hasUdp := false }.setState .none)
  | halt {event} : view.initialized = false → view.Moves event (view.setState .none)
  | enter {event next}
      : view.state ≠ .none → next.Idle → view.Moves event (view.reset.setState next)
  | destroy : view.Moves (.call .destroyNetwork) (view.reset.setState .accessPoint)
  | disconnect : view.Moves (.call .disconnect) (view.setState .station)
  | draft {event info} : view.state = .accessPoint → view.Moves event (view.withInfo info)
  | host {event host info}
      : view.state = .accessPoint
        → view.isReady
        → host.nodeId = 0 ∧ host.isConnected = 1
        → Listed view.status host info
        → view.Moves event ((view.setState .accessPointCreated).withInfo info)
  | advertise {data info}
      : view.isReady
        → data.length % 65536 ≤ advertiseDataSizeMax
        → Listed view.status (view.networkInfo.node 0) info
        → view.Moves (.call (.setAdvertiseData data)) (view.withInfo info)
  | link {event index}
      : view.initialized
        → view.state = .accessPointCreated
        → view.status index = .disconnected
        → view.Moves event (view.withStatus index .connect)
  | list {index readiness status info}
      : view.initialized
        → Listed (view.withStatus index status).status (view.networkInfo.node 0) info
        → view.Moves (.poll (.station index) readiness)
            ((view.withStatus index status).withInfo info)
  | sync {event info}
      : view.initialized
        → view.state = .station ∨ view.state = .stationConnected
        → view.Moves event
            ({ (view.withInfo info) with synced := view.synced ++ [info] }.setState
              .stationConnected)
  | scan {filter count sent}
      : view.hasUdp
        → view.Moves (.call (.scan filter count sent)) { view with scanning := true }
  | resume {order} : view.Moves (.resume order) { view with scanning := false }
  | lostHost {event}
      : view.state = .stationConnected → view.Moves event (view.setState .station)
  | lostSignal {event} : view.initialized → view.Moves event (view.setState .error)

theorem View.withStatus_self (view : View) (index : Fin stationCountMax)
    : view.withStatus index (view.status index) = view := by
  simp [withStatus]

section Calls

variable (lan : LANDiscovery) (event : LanEvent)

namespace LANDiscovery

theorem view_started : ({ lan.setState .initialized with initialized := true } : LANDiscovery).view
      = { lan.view.setState .initialized with initialized := true } := by
  rw [← view_setState]
  rfl

/-- The stations and callbacks are set; only the last two calls may still fail. -/
theorem startWorker_moves (calls : InitializeCalls)
    (uninitialized : lan.initialized = false)
    : lan.view.Moves event (lan.startWorker calls).1.view := by
  unfold startWorker
  dsimp only
  rcases view_initUdp { lan.resetStations with isReady := true } calls.udp with
    ⟨failed, view⟩ | ⟨opened, view⟩
  · rw [if_pos failed, view]
    exact .prepare uninitialized id
  · rw [if_neg (not_not.mpr opened)]
    split
    · rw [view]
      exact .prepare uninitialized (fun _ => rfl)
    · rw [view_started, view]
      exact .start uninitialized

theorem initializeLan_moves (calls : InitializeCalls)
    : lan.view.Moves event (lan.initializeLan calls).1.view := by
  unfold initializeLan
  by_cases initialized : lan.initialized = true
  · rw [if_pos initialized]
    exact .stay
  · rw [if_neg initialized]
    rw [Bool.not_eq_true] at initialized
    split
    · exact .stay
    · dsimp only
      split
      · exact .stay
      · split
        · exact .stay
        · split
          · exact .stay
          · split
            · exact .stay
            · exact startWorker_moves
                { lan with originalMtu := lan.profileMtu, profileMtu := 1500 } event calls
                initialized

theorem finalize_moves (calls : FinalizeCalls) (idle : lan.pending = none)
    : lan.view.Moves event (lan.finalize calls).1.view := by
  unfold finalize
  split
  · rename_i initialized
    rw [view_setState]
    exact .stop initialized (by simp [view, idle])
  · rename_i uninitialized
    rw [view_setState]
    exact .halt (Bool.not_eq_true _ ▸ uninitialized)

/-- The calls that open or close a role. -/
theorem enter_moves {next : CommState} (idle : next.Idle)
    (live : lan.state ≠ .none)
    : lan.view.Moves event (lan.enter next).view := by
  rw [view_enter]
  exact .enter live idle

theorem openAccessPoint_moves : lan.view.Moves event lan.openAccessPoint.1.view := by
  unfold openAccessPoint
  dsimp only
  split
  · exact .stay
  · rename_i live
    exact enter_moves { lan with disconnectReason := .none } event
      (.inr (.inl rfl)) live

theorem closeAccessPoint_moves : lan.view.Moves event lan.closeAccessPoint.1.view := by
  unfold closeAccessPoint
  split
  · exact .stay
  · rename_i live
    exact lan.enter_moves event (.inl rfl) live

theorem openStation_moves : lan.view.Moves event lan.openStation.1.view := by
  unfold openStation
  dsimp only
  split
  · exact .stay
  · rename_i live
    exact enter_moves { lan with disconnectReason := .none } event
      (.inr (.inr rfl)) live

/-- A network under construction: the nodes are numbered. -/
theorem initNetworkInfo_numbers (ip : IpCall)
    (done : (lan.initNetworkInfo ip).2 = 0) (index : Fin nodeCountMax)
    : ((lan.initNetworkInfo ip).1.networkInfo.node index).nodeId = UInt8.ofNat index := by
  unfold initNetworkInfo at done ⊢
  dsimp only at done ⊢
  split at done
  · rename_i failed
    exact absurd done failed
  · rename_i succeeded
    rw [if_neg succeeded]
    simp [modifyInfo]

theorem view_initNetworkInfo (ip : IpCall)
    : (lan.initNetworkInfo ip).1.view
      = lan.view.withInfo (lan.initNetworkInfo ip).1.networkInfo := by
  unfold initNetworkInfo
  dsimp only
  split <;> rfl

end LANDiscovery

theorem getNodeInfo_nodeId (node : NodeInfo) (user : UserConfig) (version : UInt16)
    (ip macIp : IpCall)
    : (getNodeInfo node user version ip macIp).1.nodeId = node.nodeId := by
  unfold getNodeInfo
  split
  · rfl
  · dsimp only
    split <;> rfl

@[simp] theorem NetworkInfo.node_setNode_self (info : NetworkInfo) (index : Fin nodeCountMax)
    (node : NodeInfo)
    : (info.setNode index node).node index = node := by
  simp [setNode]

theorem NetworkInfo.node_setNode_of_ne (info : NetworkInfo) {index other : Fin nodeCountMax}
    (node : NodeInfo) (differ : other ≠ index)
    : (info.setNode index node).node other = info.node other := by
  simp [setNode, differ]

theorem LANDiscovery.networkInfo_setState (next : CommState)
    : (lan.setState next).networkInfo = lan.networkInfo :=
  congrArg View.networkInfo (lan.view_setState next)

variable {lan event}

namespace LANDiscovery

/-- A new network lists its host. -/
theorem beginHosting_some {next : LANDiscovery}
    (begun : lan.beginHosting = some next)
    : lan.isReady
      ∧ ∃ host info,
          host.nodeId = (lan.networkInfo.node 0).nodeId
          ∧ host.isConnected = 1
          ∧ Listed lan.view.status host info
          ∧ next.view = (lan.view.setState .accessPointCreated).withInfo info := by
  obtain ⟨ready, info, listed, view⟩ := updateNodes_some begun
  simp only [view_modifyInfo, view_initNodeStateChange,
    view_setState] at listed view
  refine ⟨?_, _, info, ?_, ?_, listed, view⟩
  · exact (congrArg View.isReady (lan.view_setState .accessPointCreated)).symm.trans ready
  · simp [modifyInfo, initNodeStateChange,
      networkInfo_setState]
  · simp [modifyInfo]

theorem createNetwork_moves {securityMode : UInt16} {user : UserConfig}
    {config : NetworkConfig} {calls : CreateCalls} {outcome : LANDiscovery × Nat}
    (created : lan.createNetwork securityMode user config calls = some outcome)
    : lan.view.Moves event outcome.1.view := by
  unfold createNetwork at created
  split at created
  · cases created
    exact .stay
  · rename_i role
    rw [ne_eq, not_not] at role
    have bound := lan.view_initTcp calls.tcp true
    generalize lan.initTcp calls.tcp true = listening at created bound
    obtain ⟨listening, rc⟩ := listening
    dsimp only at created bound
    split at created
    · cases created
      rw [bound]
      exact .stay
    · have drafted := listening.view_initNetworkInfo calls.bssidIp
      have numbers := listening.initNetworkInfo_numbers calls.bssidIp
      rw [bound] at drafted
      generalize listening.initNetworkInfo calls.bssidIp = draft at created drafted numbers
      obtain ⟨draft, rc⟩ := draft
      dsimp only at created drafted numbers
      split at created
      · cases created
        rw [drafted]
        exact .draft role
      · rename_i succeeded
        rw [ne_eq, not_not] at succeeded
        split at created
        · cases created
          simp only [view_modifyInfo, drafted]
          exact .draft role
        · obtain ⟨next, begun, rfl⟩ := map_eq_some_iff.mp created
          obtain ⟨ready, host, info, hostId, connected, listed, view⟩ := beginHosting_some begun
          simp only [view_modifyInfo, drafted] at listed view
          rw [view]
          refine .host role ?_ ⟨?_, connected⟩ listed
          · exact (congrArg View.isReady drafted).symm.trans ready
          · simp only [hostId, modifyInfo, NetworkInfo.node_setNode_self,
              getNodeInfo_nodeId]
            exact numbers succeeded 0

theorem setAdvertiseData_moves {data : Bytes} {outcome : LANDiscovery × Nat}
    (set : lan.setAdvertiseData data = some outcome)
    : lan.view.Moves (.call (.setAdvertiseData data)) outcome.1.view := by
  unfold setAdvertiseData at set
  dsimp only at set
  split at set
  · rename_i fits
    obtain ⟨next, updated, rfl⟩ := map_eq_some_iff.mp set
    obtain ⟨ready, info, listed, view⟩ := updateNodes_some updated
    rw [view]
    refine .advertise ready ?_ listed
    have length := Nat.mod_le data.length 65536
    rw [List.length_take, Nat.min_eq_left length] at fits
    exact fits
  · cases set
    exact .stay

theorem startScan_moves {filter : ScanFilter} {count : Nat} {sent : Bool}
    {outcome : LANDiscovery × Nat} (started : lan.startScan filter count sent = some outcome)
    : lan.view.Moves (.call (.scan filter count sent)) outcome.1.view := by
  obtain ⟨udp, opened, rfl⟩ := map_eq_some_iff.mp started
  have hasUdp : lan.view.hasUdp = true := by simp [view, opened]
  have cleared : ({ lan with udp := some { udp with scanResults := .empty } } : LANDiscovery).view
        = lan.view := by
    simp [view, opened]
  dsimp only
  split
  · rw [view_emit _ rfl rfl]
    have waiting
        : ({
              lan with
              udp := some { udp with scanResults := .empty }
              pending := some (.scan filter count)
            } : LANDiscovery).view
          = { lan.view with scanning := true } := by
      simp [view, opened, Pending.isScan]
    rw [waiting]
    exact .scan hasUdp
  · rw [cleared]
    exact .stay

theorem view_startConnect (networkInfo : NetworkInfo) (user : UserConfig)
    (version : UInt16) (calls : StationCalls) (idle : lan.pending = none)
    : (lan.startConnect networkInfo user version calls).1.view = lan.view := by
  unfold startConnect
  split
  · rfl
  · have bound := lan.view_initTcp calls.tcp false
    generalize lan.initTcp calls.tcp false = opened at bound
    obtain ⟨opened, rc⟩ := opened
    dsimp only at bound ⊢
    split
    · exact bound
    · split
      · exact bound
      · split
        · exact bound
        · split
          · exact bound
          · rw [view_emit _ rfl rfl, ← bound]
            have quiet : opened.view.scanning = false := by
              rw [bound]
              simp [view, idle]
            have waiting : ({ opened with pending := some .connectSent } : LANDiscovery).view
                  = { opened.view with scanning := false } := rfl
            rw [waiting, ← quiet]

theorem view_getNetworkInfoLatestUpdate (bufferCount : Int)
    : (lan.getNetworkInfoLatestUpdate bufferCount).1.view = lan.view := by
  unfold getNetworkInfoLatestUpdate
  split
  · rfl
  · split <;> rfl

theorem handle_moves {call : Call} {outcome : LANDiscovery × Answer}
    (idle : lan.pending = none) (handled : lan.handle call = some outcome)
    : lan.view.Moves (.call call) outcome.1.view := by
  cases call with
  | initializeLan processId calls =>
    cases handled
    exact lan.initializeLan_moves _ calls
  | finalize calls =>
    cases handled
    exact lan.finalize_moves _ calls idle
  | openAccessPoint =>
    cases handled
    exact lan.openAccessPoint_moves _
  | closeAccessPoint =>
    cases handled
    exact lan.closeAccessPoint_moves _
  | openStation =>
    cases handled
    exact lan.openStation_moves _
  | closeStation =>
    cases handled
    exact lan.closeAccessPoint_moves _
  | createNetwork securityMode user config calls =>
    obtain ⟨created, result, same⟩ := bind_eq_some_iff.mp handled
    cases same
    exact createNetwork_moves result
  | destroyNetwork =>
    cases handled
    rw [LANDiscovery.destroyNetwork, view_enter]
    exact .destroy
  | setAdvertiseData data =>
    obtain ⟨set, result, same⟩ := bind_eq_some_iff.mp handled
    cases same
    exact setAdvertiseData_moves result
  | scan filter count sent =>
    obtain ⟨started, result, rfl⟩ := map_eq_some_iff.mp handled
    exact startScan_moves result
  | connect networkInfo user version calls =>
    cases handled
    rw [answerLater, view_startConnect _ _ _ _ idle]
    exact .stay
  | disconnect =>
    cases handled
    rw [LANDiscovery.disconnect, view_setState, view_closeTcp]
    exact .disconnect
  | getNetworkInfo =>
    cases handled
    exact .stay
  | getNetworkInfoLatestUpdate bufferCount =>
    cases handled
    rw [view_getNetworkInfoLatestUpdate]
    exact .stay

theorem resume_moves {order : MapOrder} {outcome : LANDiscovery × Answer}
    (resumed : lan.resume order = some outcome)
    : lan.view.Moves (.resume order) outcome.1.view := by
  unfold resume at resumed
  split at resumed
  · cases resumed
    exact .stay
  · obtain ⟨finished, result, rfl⟩ := map_eq_some_iff.mp resumed
    obtain ⟨udp, _, rfl⟩ := map_eq_some_iff.mp result
    exact .resume
  · cases resumed
    exact .resume
  · cases resumed
    exact .resume

end LANDiscovery

end Calls

-- Events of the worker

section Worker

variable {lan next : LANDiscovery}

theorem nodeOf_ne_zero (index : Fin stationCountMax) : (0 : Fin nodeCountMax) ≠ nodeOf index :=
  fun same => Nat.noConfusion (congrArg Fin.val same)

namespace LANDiscovery

theorem stationOnClose_some {index : Fin stationCountMax}
    (closed : lan.stationOnClose index = some next)
    : ∃ info,
        Listed (lan.view.withStatus index .disconnected).status (lan.networkInfo.node 0) info
        ∧ next.view = (lan.view.withStatus index .disconnected).withInfo info := by
  obtain ⟨_, info, listed, view⟩ := updateNodes_some closed
  rw [view_modifyStation] at listed view
  exact ⟨info, listed, view⟩

/-- The octets that wait in a socket do not show. -/
theorem view_buffered (index : Fin stationCountMax) (socket : LanSocket)
    : (lan.modifyStation index (fun station => { station with socket := some socket })).view
      = lan.view := by
  rw [view_modifyStation]
  exact lan.view.withStatus_self index

/-- A read from a station fails without a trace, or lists a station that connects. -/
theorem stationOnRead_some {index : Fin stationCountMax} {arrived : Except Int Bytes}
    {rc : Int} (read : lan.stationOnRead index arrived = some (next, rc))
    : next.view = lan.view
      ∨ rc = 0
        ∧ ∃ info,
            Listed (lan.view.withStatus index .connected).status (lan.networkInfo.node 0) info
            ∧ next.view = (lan.view.withStatus index .connected).withInfo info := by
  unfold stationOnRead at read
  split at read
  · cases read
    exact .inl rfl
  · rename_i socket _
    dsimp only at read
    generalize socket.recvPacket (tcpRecvfrom arrived) = received at read
    obtain ⟨socket, outcome⟩ := received
    dsimp only at read
    have buffered := lan.view_buffered index socket
    split at read
    · cases read
      exact .inl buffered
    · unfold stationCallback at read
      split at read
      · split at read
        · cases read
          exact .inl buffered
        · rename_i node _
          obtain ⟨connected, updated, same⟩ := map_eq_some_iff.mp read
          cases same
          obtain ⟨_, info, listed, view⟩ := updateNodes_some updated
          rw [view_modifyStation, view_modifyInfo, buffered] at listed view
          refine .inr ⟨rfl, info, ?_, view⟩
          have host := lan.networkInfo.node_setNode_of_ne node (nodeOf_ne_zero index)
          exact host ▸ listed
      · cases read
        exact .inl buffered

theorem view_udpOnRead (udp : LDUdpSocket) (arrived : Except Int Bytes)
    (hasUdp : lan.udp.isSome)
    : (lan.udpOnRead udp arrived).1.view = lan.view := by
  have replaced (udp : LDUdpSocket)
      : ({ lan with udp := some udp } : LANDiscovery).view = lan.view := by
    simp [view, hasUdp]
  unfold udpOnRead
  dsimp only
  split
  · exact replaced _
  · unfold udpCallback
    split
    · split
      · rw [view_emit _ rfl rfl]
        exact replaced _
      · exact replaced _
    · split
      · split <;> exact replaced _
      · exact replaced _

theorem onDisconnectFromHost_moves (event : LanEvent)
    : lan.view.Moves event lan.onDisconnectFromHost.view := by
  unfold onDisconnectFromHost
  split
  · rename_i connected
    rw [view_setState]
    exact .lostHost connected
  · exact .stay

theorem onSyncNetwork_moves (lan : LANDiscovery) (event : LanEvent)
    (info : NetworkInfo) (initialized : lan.initialized)
    (role : lan.state = .station ∨ lan.state = .stationConnected)
    : lan.view.Moves event (lan.onSyncNetwork info).view := by
  have view
      : (lan.onSyncNetwork info).view
        = { (lan.view.withInfo info) with synced := lan.view.synced ++ [info] }.setState
            .stationConnected := by
    have taken : ({ lan with networkInfo := info }.emit (.synced info)).view
          = { (lan.view.withInfo info) with synced := lan.view.synced ++ [info] } := by
      simp [LANDiscovery.view, emit, View.withInfo, Effect.change?, Effect.synced?]
    unfold onSyncNetwork
    dsimp only
    rw [view_onNetworkInfoChanged]
    split
    · rw [view_setState, taken]
    · rename_i other
      have connected : lan.state = .stationConnected := role.resolve_left other
      rw [taken]
      simp [View.setState, View.withInfo, LANDiscovery.view, connected]
  rw [view]
  exact .sync initialized role

theorem onConnect_moves (event : LanEvent) (initialized : lan.initialized)
    (role : lan.state = .accessPointCreated)
    : lan.view.Moves event lan.onConnect.view := by
  unfold onConnect
  split
  · exact .stay
  · split
    · exact .stay
    · rename_i index found
      have free : (lan.stations index).status = .disconnected := by
        simpa using List.find?_some found
      rw [view_modifyStation]
      exact .link initialized role free

/-- A read from the host fails without a trace or takes a network over. -/
theorem readHost_moves (event : LanEvent) (initialized : lan.initialized)
    (role : lan.state = .station ∨ lan.state = .stationConnected) (tcp : LDTcpSocket)
    (arrived : Except Int Bytes)
    : (lan.readHost tcp arrived).1.view = lan.view
      ∨ (lan.readHost tcp arrived).2 = 0
        ∧ lan.view.Moves event (lan.readHost tcp arrived).1.view := by
  unfold readHost
  generalize tcp.socket.recvPacket (tcpRecvfrom arrived) = received
  obtain ⟨socket, outcome⟩ := received
  dsimp only
  split
  · exact .inl rfl
  · unfold tcpCallback
    split
    · split
      · exact .inl rfl
      · rename_i info _
        refine .inr ⟨rfl, ?_⟩
        exact onSyncNetwork_moves
          { lan with tcp := some { tcp with socket := socket } } event info initialized role
    · exact .inl rfl

/-- A read from the TCP socket fails without a trace or makes a move. -/
theorem tcpOnRead_moves (event : LanEvent) (initialized : lan.initialized)
    (tcp : LDTcpSocket) (arrived : Except Int Bytes) (accepted : Bool)
    : (lan.tcpOnRead tcp arrived accepted).1.view = lan.view
      ∨ (lan.tcpOnRead tcp arrived accepted).2 = 0
        ∧ lan.view.Moves event (lan.tcpOnRead tcp arrived accepted).1.view := by
  unfold tcpOnRead
  split
  · rename_i role
    exact readHost_moves event initialized (.inl role) tcp arrived
  · rename_i role
    exact readHost_moves event initialized (.inr role) tcp arrived
  · rename_i role
    split
    · exact .inr ⟨rfl, onConnect_moves event initialized role⟩
    · exact .inl rfl
  · exact .inl rfl

/-- An event of the UDP socket shows at most in the state. -/
theorem poll_udp {readiness : Readiness} (initialized : lan.initialized = true)
    (polled : lan.poll .udp readiness = some next)
    : next.view = lan.view ∨ next.view = lan.view.setState .error := by
  rw [poll.eq_def, if_neg (not_not_intro initialized)] at polled
  dsimp only at polled
  split at polled
  · cases polled
    exact .inl rfl
  · cases polled
    rw [udpOnClose, view_setState]
    exact .inr rfl
  · rename_i udp arrived _ opened
    have hasUdp : lan.udp.isSome := by simp [(filter_eq_some_iff.mp opened).1]
    have unchanged := view_udpOnRead udp arrived hasUdp
    cases polled
    split
    · exact .inl unchanged
    · rw [udpOnClose, view_setState]
      exact .inr (congrArg (View.setState · .error) unchanged)

theorem poll_moves {descriptor : Descriptor} {readiness : Readiness}
    (polled : lan.poll descriptor readiness = some next)
    : lan.view.Moves (.poll descriptor readiness) next.view := by
  by_cases initialized : lan.initialized = true
  · cases descriptor with
    | udp =>
      rcases poll_udp initialized polled with same | failed
      · rw [same]
        exact .stay
      · rw [failed]
        exact .lostSignal initialized
    | tcp =>
      rw [poll.eq_def, if_neg (not_not_intro initialized)] at polled
      dsimp only at polled
      split at polled
      · cases polled
        exact .stay
      · cases polled
        exact onDisconnectFromHost_moves _
      · rename_i tcp arrived accepted _
        cases polled
        rcases tcpOnRead_moves (.poll .tcp (.readable arrived accepted)) initialized
          tcp arrived accepted with unchanged | ⟨succeeded, moves⟩
        · split
          · rw [unchanged]
            exact .stay
          · rw [← unchanged]
            exact onDisconnectFromHost_moves _
        · rw [if_pos succeeded]
          exact moves
    | station index =>
      rw [poll.eq_def, if_neg (not_not_intro initialized)] at polled
      dsimp only at polled
      split at polled
      · cases polled
        exact .stay
      · obtain ⟨info, listed, view⟩ := stationOnClose_some polled
        rw [view]
        exact .list initialized listed
      · obtain ⟨⟨read, rc⟩, result, handled⟩ := bind_eq_some_iff.mp polled
        dsimp only at handled
        rcases stationOnRead_some result with
          unchanged | ⟨succeeded, info, listed, view⟩
        · split at handled
          · cases handled
            rw [unchanged]
            exact .stay
          · obtain ⟨info, listed, view⟩ := stationOnClose_some handled
            rw [view]
            rw [unchanged] at listed view ⊢
            have host : read.networkInfo = lan.networkInfo := congrArg View.networkInfo unchanged
            rw [host] at listed
            exact .list initialized listed
        · rw [if_pos succeeded] at handled
          cases handled
          rw [view]
          exact .list initialized listed
  · rw [poll.eq_def, if_pos initialized] at polled
    cases polled
    exact .stay

end LANDiscovery

end Worker

/-- Every step makes a move. -/
theorem LANDiscovery.step_moves {lan : LANDiscovery} {event : LanEvent}
    {outcome : LANDiscovery × Answer} (stepped : lan.step event = some outcome)
    : lan.view.begun.Moves event outcome.1.view := by
  cases event with
  | call call =>
    simp only [LANDiscovery.step] at stepped
    split at stepped
    · cases stepped
      exact .stay
    · rename_i idle
      exact handle_moves (by simpa using idle) stepped
  | resume order => exact resume_moves stepped
  | poll descriptor readiness =>
    obtain ⟨next, polled, rfl⟩ := map_eq_some_iff.mp stepped
    exact poll_moves polled

-- Runs

/-- What every move keeps holds after every run. -/
theorem discovery_run_invariant (property : View → Prop)
    (moves : ∀ view event next, property view → view.begun.Moves event next → property next)
    {start lan : LANDiscovery} (initially : property start.view) {history : List LanEvent}
    (reached : discovery.run (some start) history = some lan)
    : property lan.view := by
  refine Machine.failing_run_invariant (fun lan => property lan.view) ?_ initially reached
  intro lan event next answer holds outcome
  exact moves _ event _ holds (LANDiscovery.step_moves outcome)

/-- The worker runs with the callbacks set, stations are linked by the worker only, and a scan
has its socket.
-/
structure View.Sound (view : View) : Prop where
  ready : view.initialized → view.isReady
  unlinked : view.initialized = false → view.status = fun _ => .disconnected
  socket : view.scanning → view.hasUdp

theorem View.Sound.moves {view next : View} {event : LanEvent} (sound : view.Sound)
    (moves : view.begun.Moves event next)
    : next.Sound := by
  cases moves with
  | stay => exact ⟨sound.ready, sound.unlinked, sound.socket⟩
  | prepare uninitialized kept =>
    exact ⟨fun _ => rfl, fun _ => rfl, fun scanning => kept (sound.socket scanning)⟩
  | start => exact ⟨fun _ => rfl, fun _ => rfl, fun _ => rfl⟩
  | stop _ idle => exact ⟨nofun, fun _ => rfl, fun scanning => nomatch idle.symm.trans scanning⟩
  | halt => exact ⟨sound.ready, sound.unlinked, sound.socket⟩
  | enter | destroy => exact ⟨sound.ready, fun _ => rfl, sound.socket⟩
  | disconnect | draft | host | advertise | sync | lostHost | lostSignal =>
    exact ⟨sound.ready, sound.unlinked, sound.socket⟩
  | link initialized | list initialized =>
    exact ⟨sound.ready, fun uninitialized => (nomatch uninitialized.symm.trans initialized),
      sound.socket⟩
  | scan hasUdp => exact ⟨sound.ready, sound.unlinked, fun _ => hasUdp⟩
  | resume => exact ⟨sound.ready, sound.unlinked, nofun⟩

theorem discovery_run_sound {start lan : LANDiscovery} (initially : start.view.Sound)
    {history : List LanEvent} (reached : discovery.run (some start) history = some lan)
    : lan.view.Sound :=
  discovery_run_invariant View.Sound (fun _ _ _ sound moves => sound.moves moves) initially reached

def SocketCalls.succeeding : SocketCalls := ⟨true, true, true, true⟩

def InitializeCalls.succeeding : InitializeCalls := ⟨0, 0, 0, 0, 0, .succeeding, 0⟩

def CreateCalls.succeeding : CreateCalls where
  tcp := .succeeding
  bssidIp := ⟨0, 0x0a000001⟩
  sessionId := zeroBlock 16
  ip := ⟨0, 0x0a000001⟩
  macIp := ⟨0, 0x0a000001⟩

def StationCalls.succeeding : StationCalls where
  tcp := .succeeding
  connected := true
  ip := ⟨0, 0x0a000001⟩
  macIp := ⟨0, 0x0a000001⟩
  sent := true

def UserConfig.anonymous : UserConfig := ⟨zeroBlock 33, by simp [zeroBlock]⟩

def NetworkConfig.zero : NetworkConfig := ⟨zeroBlock 16, 0, 8, 0⟩

theorem LANDiscovery.fresh_sound (nodeChanges nodeLastStates : Fin nodeCountMax → UInt8)
    (originalMtu profileMtu : Nat)
    : (fresh nodeChanges nodeLastStates originalMtu profileMtu).view.Sound :=
  ⟨nofun, fun _ => rfl, nofun⟩

def openedStation : List LanEvent := [.call (.initializeLan 1 .succeeding), .call .openStation]

end SwitchLanPlay.LdnMitm
