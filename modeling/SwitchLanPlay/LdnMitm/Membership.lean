import SwitchLanPlay.LdnMitm.Session

/-! The members of a hosted network. They are kept in the statuses of the stations, in the flags
of the nodes, which a joining station overwrites, and in the number of nodes.
-/

namespace SwitchLanPlay.LdnMitm

open Foundation

variable {lan : LANDiscovery} {event : LanEvent}

/-- The network lists the host and exactly the connected stations as connected, and numbers its
nodes.
-/
structure Members (status : Statuses) (info : NetworkInfo) : Prop where
  nodeCount : info.ldn.nodeCount.toNat = 1 + connectedCount status
  host : (info.node 0).isConnected = 1
  isConnected
    : ∀ index,
        (info.node (nodeOf index)).isConnected = if status index = .connected then 1 else 0
  nodeId : ∀ index : Fin nodeCountMax, (info.node index).nodeId.toNat = index.val

theorem connectedCount_le (status : Statuses) : connectedCount status ≤ stationCountMax := by
  have bound := List.countP_le_length
    (p := fun index => decide (status index = .connected)) (l := List.finRange stationCountMax)
  rwa [List.length_finRange] at bound

/-- A node is the host's or a station's. -/
theorem eq_zero_or_nodeOf (index : Fin nodeCountMax)
    : index = 0 ∨ ∃ station, index = nodeOf station := by
  obtain ⟨value, bound⟩ := index
  cases value with
  | zero => exact .inl rfl
  | succ value =>
    refine .inr ⟨⟨value, ?_⟩, rfl⟩
    unfold stationCountMax
    omega

/-- A list behind a numbered and connected host is a list of members. -/
theorem Listed.members {status : Statuses} {host : NodeInfo} {info : NetworkInfo}
    (listed : Listed status host info) (hostId : host.nodeId = 0) (connected : host.isConnected = 1)
    : Members status info where
  nodeCount := by
    have bound : connectedCount status ≤ 7 := connectedCount_le status
    rw [listed.nodeCount, UInt8.toNat_ofNat']
    omega
  host := by rw [listed.host, connected]
  isConnected := listed.isConnected
  nodeId index := by
    rcases eq_zero_or_nodeOf index with rfl | ⟨station, rfl⟩
    · rw [listed.host, hostId]
      rfl
    · have bound : station.val < 7 := station.isLt
      rw [listed.nodeId station, UInt8.toNat_ofNat']
      simp only [nodeOf]
      omega

/-- Only the connected stations count. -/
theorem Members.congr {status other : Statuses} {info : NetworkInfo}
    (members : Members status info)
    (same : ∀ index, other index = .connected ↔ status index = .connected)
    : Members other info where
  nodeCount := by
    simp only [connectedCount, same]
    exact members.nodeCount
  host := members.host
  isConnected index := by
    simp only [same]
    exact members.isConnected index
  nodeId := members.nodeId

def View.Hosts (view : View) : Prop :=
  view.state = .accessPointCreated → Members view.status view.networkInfo

theorem View.Hosts.moves {view next : View} (sound : view.Sound) (hosts : view.Hosts)
    (moves : view.begun.Moves event next)
    : next.Hosts := by
  -- Most moves leave the state, or the members, alone.
  have relist {status : Statuses} {info : NetworkInfo}
      (hosting : view.state = .accessPointCreated)
      (listed : Listed status (view.networkInfo.node 0) info)
      : Members status info := by
    have members := hosts hosting
    exact listed.members (UInt8.toNat_inj.mp (members.nodeId 0)) members.host
  cases moves with
  | stay | scan | resume => exact hosts
  | prepare uninitialized =>
    intro hosting
    refine (hosts hosting).congr ?_
    intro index
    rw [sound.unlinked uninitialized]
    rfl
  | start | stop | halt | destroy | disconnect | sync | lostHost | lostSignal => exact nofun
  | enter _ idle =>
    intro hosting
    rcases idle with rfl | rfl | rfl <;> cases hosting
  | draft role => exact fun hosting => nomatch role.symm.trans hosting
  | host _ _ host listed => exact fun _ => listed.members host.1 host.2
  | advertise _ _ listed => exact fun hosting => relist hosting listed
  | link _ _ free =>
    intro hosting
    refine (hosts hosting).congr ?_
    intro index
    simp only [withStatus, Function.update_apply]
    split
    · rename_i same
      have unconnected : view.status index = .disconnected := same ▸ free
      simp [unconnected]
    · rfl
  | list _ listed => exact fun hosting => relist hosting listed

-- Steps without a null pointer

def LanEvent.IsScan : LanEvent → Prop
  | .call (.scan _ _ _) => True
  | _ => False

namespace LANDiscovery

theorem updateNodes_of_ready (lan : LANDiscovery) (ready : lan.isReady)
    : ∃ next, lan.updateNodes = some next := ⟨_, if_pos ready⟩

theorem map_updateNodes_of_ready {α : Type} (lan : LANDiscovery)
    (ready : lan.isReady) (finish : LANDiscovery → α)
    : ∃ outcome, lan.updateNodes.map finish = some outcome := by
  obtain ⟨next, updated⟩ := lan.updateNodes_of_ready ready
  exact ⟨finish next, by rw [updated]; rfl⟩

theorem beginHosting_of_ready (lan : LANDiscovery) (ready : lan.isReady)
    : ∃ next, lan.beginHosting = some next :=
  updateNodes_of_ready _
    ((congrArg View.isReady (lan.view_setState .accessPointCreated)).trans ready)

theorem createNetwork_of_ready (ready : lan.isReady) (securityMode : UInt16)
    (user : UserConfig) (config : NetworkConfig) (calls : CreateCalls)
    : ∃ outcome, lan.createNetwork securityMode user config calls = some outcome := by
  unfold createNetwork
  split
  · exact ⟨_, rfl⟩
  · have bound := congrArg View.isReady (lan.view_initTcp calls.tcp true)
    generalize lan.initTcp calls.tcp true = listening at bound
    obtain ⟨listening, rc⟩ := listening
    dsimp only at bound ⊢
    split
    · exact ⟨_, rfl⟩
    · have drafted := congrArg View.isReady (listening.view_initNetworkInfo calls.bssidIp)
      generalize listening.initNetworkInfo calls.bssidIp = draft at drafted
      obtain ⟨draft, rc⟩ := draft
      dsimp only at drafted ⊢
      split
      · exact ⟨_, rfl⟩
      · split
        · exact ⟨_, rfl⟩
        · obtain ⟨next, begun⟩ := beginHosting_of_ready
            ((draft.modifyInfo _).modifyInfo _) (drafted.trans (bound.trans ready))
          exact ⟨(next, 0), by rw [begun]; rfl⟩

theorem setAdvertiseData_of_ready (ready : lan.isReady) (data : Bytes)
    : ∃ outcome, lan.setAdvertiseData data = some outcome := by
  unfold setAdvertiseData
  dsimp only
  split
  · refine map_updateNodes_of_ready _ ?_ _
    exact ready
  · exact ⟨_, rfl⟩

theorem handle_of_ready {call : Call} (ready : lan.isReady)
    (other : ¬ (LanEvent.call call).IsScan)
    : ∃ outcome, lan.handle call = some outcome := by
  cases call with
  | createNetwork securityMode user config calls =>
    obtain ⟨outcome, created⟩ := createNetwork_of_ready ready securityMode user config calls
    exact ⟨_, by rw [handle, created]; rfl⟩
  | setAdvertiseData data =>
    obtain ⟨outcome, set⟩ := setAdvertiseData_of_ready ready data
    exact ⟨_, by rw [handle, set]; rfl⟩
  | scan => exact (other trivial).elim
  | _ => exact ⟨_, rfl⟩

theorem stationOnClose_of_ready (ready : lan.isReady) (index : Fin stationCountMax)
    : ∃ next, lan.stationOnClose index = some next :=
  updateNodes_of_ready (lan.modifyStation index _) ready

theorem stationOnRead_of_ready (ready : lan.isReady) (index : Fin stationCountMax)
    (arrived : Except Int Bytes)
    : ∃ outcome, lan.stationOnRead index arrived = some outcome := by
  unfold stationOnRead
  split
  · exact ⟨_, rfl⟩
  · dsimp only
    split
    · exact ⟨_, rfl⟩
    · unfold stationCallback
      split
      · split
        · exact ⟨_, rfl⟩
        · refine map_updateNodes_of_ready _ ?_ _
          exact ready
      · exact ⟨_, rfl⟩

theorem poll_of_ready (lan : LANDiscovery) (ready : lan.isReady)
    (descriptor : Descriptor) (readiness : Readiness)
    : ∃ next, lan.poll descriptor readiness = some next := by
  unfold poll
  split
  · exact ⟨_, rfl⟩
  · cases descriptor with
    | udp => dsimp only; split <;> exact ⟨_, rfl⟩
    | tcp => dsimp only; split <;> exact ⟨_, rfl⟩
    | station index =>
      dsimp only
      split
      · exact ⟨_, rfl⟩
      · exact stationOnClose_of_ready ready index
      · rename_i arrived _ _
        obtain ⟨⟨next, rc⟩, read⟩ := stationOnRead_of_ready ready index arrived
        rw [read, Option.bind_some]
        dsimp only
        split
        · exact ⟨_, rfl⟩
        · have still : next.isReady := by
            rcases stationOnRead_some read with view | ⟨_, info, _, view⟩
            · exact (congrArg View.isReady view).trans ready
            · exact (congrArg View.isReady view).trans ready
          exact stationOnClose_of_ready still index

/-- A discovery that has set its callbacks makes every step but a scan. -/
theorem step_of_ready (ready : lan.isReady) (sound : lan.view.Sound)
    (other : ¬ event.IsScan)
    : ∃ outcome, lan.step event = some outcome := by
  cases event with
  | call call =>
    simp only [LANDiscovery.step]
    split
    · exact ⟨_, rfl⟩
    · exact handle_of_ready ready other
  | resume order =>
    simp only [LANDiscovery.step, LANDiscovery.resume]
    split
    · exact ⟨_, rfl⟩
    · rename_i filter count waiting
      have scanning : lan.view.scanning := by
        simp [view, waiting, Pending.isScan]
      have hasUdp : lan.udp.isSome := sound.socket scanning
      obtain ⟨udp, opened⟩ := Option.isSome_iff_exists.mp hasUdp
      exact ⟨_, by rw [finishScan, opened]; rfl⟩
    · exact ⟨_, rfl⟩
    · exact ⟨_, rfl⟩
  | poll descriptor readiness =>
    obtain ⟨next, polled⟩ := poll_of_ready { lan with effects := [] } ready
      descriptor readiness
    exact ⟨_, by rw [LANDiscovery.step, polled]; rfl⟩

end LANDiscovery

/-- The callbacks stay set. -/
theorem View.Moves.isReady {view next : View} (moves : view.Moves event next) (ready : view.isReady)
    : next.isReady := by
  cases moves with
  | prepare | start => rfl
  | _ => exact ready

/-- A discovery that has set its callbacks takes every run without scans. -/
theorem discovery_run_of_ready {start : LANDiscovery} (ready : start.isReady)
    (sound : start.view.Sound) {history : List LanEvent}
    (others : ∀ event ∈ history, ¬ event.IsScan)
    : ∃ lan, discovery.run (some start) history = some lan := by
  induction history generalizing start with
  | nil => exact ⟨start, rfl⟩
  | cons event history ih =>
    rw [List.forall_mem_cons] at others
    obtain ⟨⟨next, answer⟩, stepped⟩ := LANDiscovery.step_of_ready ready sound others.1
    have moves := LANDiscovery.step_moves stepped
    have here : (discovery.step (some start) event).1 = some next :=
      Machine.failing_step_eq_some.mpr ⟨start, answer, rfl, stepped⟩
    rw [Machine.run_cons, here]
    exact ih (moves.isReady ready) (sound.moves moves) others.2

/-- Every hosted network lists exactly its members, whatever the calls, the stations' packets and
the lost connections before, and a discovery that was initialised once comes to no null pointer
but by a scan. Witness: every move keeps the list.
-/
theorem hosted_network_lists_members (nodeChanges nodeLastStates : Fin nodeCountMax → UInt8)
    (originalMtu profileMtu : Nat) (before after : List LanEvent)
    (initialized
      : ∃ lan,
          discovery.run
              (some (LANDiscovery.fresh nodeChanges nodeLastStates originalMtu profileMtu)) before
            = some lan
          ∧ lan.initialized = true)
    : (∀ lan,
        discovery.run (some (LANDiscovery.fresh nodeChanges nodeLastStates originalMtu profileMtu))
            (before ++ after)
          = some lan
        → lan.state = .accessPointCreated
        → Members (fun index => (lan.stations index).status) lan.networkInfo)
      ∧ ((∀ event ∈ after, ¬ event.IsScan)
        → ∃ lan,
            discovery.run
                (some (LANDiscovery.fresh nodeChanges nodeLastStates originalMtu profileMtu))
                (before ++ after)
              = some lan) := by
  have fresh := LANDiscovery.fresh_sound nodeChanges nodeLastStates originalMtu profileMtu
  constructor
  · intro lan reached
    have invariant := discovery_run_invariant (fun view => view.Sound ∧ view.Hosts)
      (fun _ _ _ holds moves => ⟨holds.1.moves moves, holds.2.moves holds.1 moves⟩)
      ⟨fresh, nofun⟩ reached
    exact invariant.2
  · intro others
    obtain ⟨start, reached, initialized⟩ := initialized
    have sound := discovery_run_sound fresh reached
    rw [Machine.run_append, reached]
    exact discovery_run_of_ready (sound.ready initialized) sound others

def stationConnects : List LanEvent :=
  [
    .call .openAccessPoint,
    .call (.createNetwork 0 .anonymous .zero .succeeding),
    .poll .tcp (.readable (.ok []) true),
    .poll (.station 0) (.readable (.ok (sendPacket .connect NodeInfo.zero.toBytes)) false)
  ]

theorem hosted_network_lists_members_station
    : ∃ lan,
        discovery.run (some (LANDiscovery.fresh (fun _ => 0) (fun _ => 0) 0 1400))
            ([.call (.initializeLan 1 .succeeding)] ++ stationConnects)
          = some lan
        ∧ (lan.state, (lan.stations 0).status) = (.accessPointCreated, .connected)
        ∧ Members (fun index => (lan.stations index).status) lan.networkInfo := by
  have membership := hosted_network_lists_members (fun _ => 0) (fun _ => 0) 0 1400
    [.call (.initializeLan 1 .succeeding)] stationConnects ⟨_, rfl, rfl⟩
  have states
      : (discovery.run (some (LANDiscovery.fresh (fun _ => 0) (fun _ => 0) 0 1400))
            ([.call (.initializeLan 1 .succeeding)] ++ stationConnects)).map
          (fun lan => (lan.state, (lan.stations 0).status))
        = some (.accessPointCreated, .connected) := by
    decide +kernel
  obtain ⟨lan, reached, hosting⟩ := Option.map_eq_some_iff.mp states
  exact ⟨lan, reached, hosting, membership.1 lan reached (congrArg Prod.fst hosting)⟩

end SwitchLanPlay.LdnMitm
