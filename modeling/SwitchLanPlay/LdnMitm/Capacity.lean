import SwitchLanPlay.LdnMitm.Membership

/-! The capacity that a hosted network advertises. A connection is accepted while one of the seven
stations is free, whatever the capacity, and its station counts as a node once its `Connect` packet
has arrived.
-/

namespace SwitchLanPlay.LdnMitm

open Option
open Foundation

variable {index : Fin stationCountMax}

-- The number of connected stations

theorem connectedCount_eq_card (status : Statuses)
    : connectedCount status
      = (Finset.univ.filter (fun index => status index = .connected)).card := by
  have distinct := (List.nodup_finRange stationCountMax).filter
    (fun index => decide (status index = .connected))
  rw [connectedCount, List.countP_eq_length_filter, ← List.toFinset_card_of_nodup distinct]
  congr 1
  ext index
  simp

/-- A station that connects is one more. -/
theorem connectedCount_connects {status : Statuses} (free : status index ≠ .connected)
    : connectedCount (Function.update status index .connected) = connectedCount status + 1 := by
  have one_more
      : (Finset.univ.filter
          (fun other => Function.update status index .connected other = .connected))
        = insert index (Finset.univ.filter (fun other => status other = .connected)) := by
    ext other
    by_cases same : other = index
    · simp [same]
    · simp [same]
  rw [connectedCount_eq_card, connectedCount_eq_card, one_more]
  exact Finset.card_insert_of_notMem (by simp [free])

theorem connectedCount_update_self {status : Statuses} (connected : status index = .connected)
    : connectedCount (Function.update status index .connected) = connectedCount status := by
  rw [← connected, Function.update_eq_self]

theorem connectedCount_leaves (status : Statuses) (index : Fin stationCountMax) {next : NodeStatus}
    (left : next ≠ .connected)
    : connectedCount (Function.update status index next) ≤ connectedCount status := by
  refine List.countP_mono_left ?_
  intro other _ connected
  by_cases same : other = index
  · simp [same, left] at connected
  · simpa [same] using connected

-- What is advertised

/-- The network counts its members and has the capacity `limit`, also when the discovery has lost
its UDP socket.
-/
structure View.Advertises (limit : UInt8) (view : View) : Prop where
  role : view.state = .accessPointCreated ∨ view.state = .error
  nodeCount : view.networkInfo.ldn.nodeCount.toNat = connectedCount view.status + 1
  nodeCountMax : view.networkInfo.ldn.nodeCountMax = limit

/-- Only the number of connected stations counts. -/
theorem View.Advertises.congr {limit : UInt8} {view next : View}
    (advertises : view.Advertises limit)
    (role : next.state = .accessPointCreated ∨ next.state = .error)
    (count : connectedCount next.status = connectedCount view.status)
    (info : next.networkInfo = view.networkInfo)
    : next.Advertises limit where
  role := role
  nodeCount := by rw [info, count, advertises.nodeCount]
  nodeCountMax := by rw [info, advertises.nodeCountMax]

theorem LANDiscovery.updateNodes_advertises {lan next : LANDiscovery} {limit : UInt8}
    (updated : lan.updateNodes = some next)
    (role : lan.state = .accessPointCreated ∨ lan.state = .error)
    (kept : lan.networkInfo.ldn.nodeCountMax = limit)
    : next.view.Advertises limit ∧ next.view.status = lan.view.status := by
  obtain ⟨_, view⟩ := view_updateNodes updated
  rw [view]
  refine ⟨⟨role, ?_, kept⟩, rfl⟩
  have bound : connectedCount lan.view.status ≤ 7 := connectedCount_le lan.view.status
  have count := lan.updatedInfo_listed.nodeCount
  simp only [View.withInfo]
  rw [count, UInt8.toNat_ofNat']
  omega

theorem LANDiscovery.createNetwork_hosts {lan hosting : LANDiscovery} {securityMode : UInt16}
    {user : UserConfig} {config : NetworkConfig} {calls : CreateCalls}
    (created : lan.createNetwork securityMode user config calls = some (hosting, 0))
    : hosting.isReady
      ∧ hosting.view.Advertises config.nodeCountMax
      ∧ hosting.view.status = lan.view.status := by
  unfold createNetwork at created
  split at created
  · simp [makeResult, ldnModuleId] at created
  · have bound := congrArg View.status (lan.view_initTcp calls.tcp true)
    generalize lan.initTcp calls.tcp true = listening at created bound
    obtain ⟨listening, rc⟩ := listening
    dsimp only at created bound
    have drafted := congrArg View.status (listening.view_initNetworkInfo calls.bssidIp)
    generalize listening.initNetworkInfo calls.bssidIp = draft at created drafted
    obtain ⟨draft, rc⟩ := draft
    dsimp only at created drafted
    -- A failed call returns its code, which is not zero.
    have failed {lan : LANDiscovery} {rc : Nat} (nonzero : rc ≠ 0)
        : some (lan, rc) ≠ some (hosting, 0) := by
      simp [nonzero]
    split at created
    · rename_i nonzero
      exact absurd created (failed nonzero)
    · split at created
      · rename_i nonzero
        exact absurd created (failed nonzero)
      · split at created
        · rename_i nonzero
          exact absurd created (failed nonzero)
        · obtain ⟨next, begun, same⟩ := map_eq_some_iff.mp created
          cases same
          obtain ⟨ready, view⟩ := view_updateNodes begun
          obtain ⟨advertises, status⟩ := @updateNodes_advertises _ _
            config.nodeCountMax begun
            (.inl (congrArg View.state (view_setState _ .accessPointCreated)))
            (by
              simp only [modifyInfo, initNodeStateChange,
                networkInfo_setState]
              rfl)
          refine ⟨(congrArg View.isReady view).trans ready, advertises, ?_⟩
          rw [status, view_modifyInfo, view_initNodeStateChange,
            view_setState]
          exact drafted.trans bound

-- Events of the worker while a network is hosted

/-- The node of the `Connect` packet that the arriving octets complete. -/
def LANDiscovery.connectNode? (lan : LANDiscovery) (index : Fin stationCountMax)
    (arrived : Except Int Bytes)
    : Option NodeInfo :=
  (lan.stations index).socket.bind
    (fun socket =>
      match (socket.recvPacket (tcpRecvfrom arrived)).2 with
      | .returned _ => none
      | .callback type body =>
        if type = LANPacketType.connect.toByte then NodeInfo.layout.read? body else none)

def LANDiscovery.Admits (lan : LANDiscovery) : Descriptor → Readiness → Prop
  | .station index, .readable arrived _ =>
    lan.initialized
    ∧ (lan.stations index).status ≠ .connected
    ∧ (lan.connectNode? index arrived).isSome
  | _, _ => False

section Hosting

variable {lan next : LANDiscovery} {limit : UInt8}

namespace LANDiscovery

/-- A read from a station shows exactly when it completes a `Connect` packet. -/
theorem stationOnRead_advertises {arrived : Except Int Bytes} {rc : Int}
    (advertises : lan.view.Advertises limit)
    (read : lan.stationOnRead index arrived = some (next, rc))
    : (lan.connectNode? index arrived = none ∧ next.view = lan.view)
      ∨ ((lan.connectNode? index arrived).isSome
        ∧ rc = 0
        ∧ next.view.Advertises limit
        ∧ next.view.status = Function.update lan.view.status index .connected) := by
  unfold stationOnRead at read
  unfold connectNode?
  split at read
  · rename_i unlinked
    cases read
    simp [unlinked]
  · rename_i socket linked
    rw [linked, bind_some]
    dsimp only at read
    generalize socket.recvPacket (tcpRecvfrom arrived) = received at read
    obtain ⟨socket, outcome⟩ := received
    dsimp only at read ⊢
    have buffered := lan.view_buffered index socket
    cases outcome with
    | returned code =>
      cases read
      exact .inl ⟨rfl, buffered⟩
    | callback type body =>
      simp only [stationCallback] at read
      dsimp only
      split at read
      · rename_i connects
        rw [if_pos connects]
        split at read
        · rename_i short
          cases read
          exact .inl ⟨short, buffered⟩
        · rename_i node whole
          obtain ⟨connected, updated, same⟩ := map_eq_some_iff.mp read
          cases same
          obtain ⟨advertised, status⟩ := updateNodes_advertises updated
            advertises.role advertises.nodeCountMax
          refine .inr ⟨by simp [whole], rfl, advertised, ?_⟩
          rw [status, view_modifyStation, view_modifyInfo, buffered]
          rfl
      · rename_i other
        cases read
        exact .inl ⟨if_neg other, buffered⟩

theorem stationOnClose_advertises (advertises : lan.view.Advertises limit)
    (closed : lan.stationOnClose index = some next)
    : next.view.Advertises limit
      ∧ connectedCount next.view.status ≤ connectedCount lan.view.status := by
  obtain ⟨advertised, status⟩ := updateNodes_advertises closed advertises.role
    advertises.nodeCountMax
  refine ⟨advertised, ?_⟩
  rw [status, view_modifyStation]
  exact connectedCount_leaves _ index (by decide)

theorem onDisconnectFromHost_of_hosting
    (role : lan.state = .accessPointCreated ∨ lan.state = .error)
    : lan.onDisconnectFromHost = lan := by
  unfold onDisconnectFromHost
  rw [if_neg]
  rcases role with hosting | failed
  · rw [hosting]
    decide
  · rw [failed]
    decide

/-- An accepted connection counts for nothing yet. -/
theorem tcpOnRead_advertises (tcp : LDTcpSocket) (arrived : Except Int Bytes)
    (accepted : Bool) (advertises : lan.view.Advertises limit)
    : (lan.tcpOnRead tcp arrived accepted).1.view.Advertises limit
      ∧ connectedCount (lan.tcpOnRead tcp arrived accepted).1.view.status
        ≤ connectedCount lan.view.status := by
  have role : lan.state = .accessPointCreated ∨ lan.state = .error := advertises.role
  unfold tcpOnRead
  split
  · rename_i station
    simp [station] at role
  · rename_i station
    simp [station] at role
  · split
    · unfold onConnect
      split
      · exact ⟨advertises, le_rfl⟩
      · split
        · exact ⟨advertises, le_rfl⟩
        · rename_i index found
          have free : lan.view.status index ≠ .connected := by
            have disconnected : (lan.stations index).status = .disconnected := by
              simpa using List.find?_some found
            simp [view, disconnected]
          have count
              : connectedCount (Function.update lan.view.status index .connect)
                = connectedCount lan.view.status := by
            unfold connectedCount
            congr 1
            funext other
            by_cases same : other = index
            · simp [same, free]
            · simp [same]
          rw [view_modifyStation]
          exact ⟨advertises.congr advertises.role count rfl, count.le⟩
    · exact ⟨advertises, le_rfl⟩
  · exact ⟨advertises, le_rfl⟩

/-- What an event does to what is advertised. -/
theorem poll_advertises {descriptor : Descriptor} {readiness : Readiness}
    (advertises : lan.view.Advertises limit) (polled : lan.poll descriptor readiness = some next)
    : next.view.Advertises limit
      ∧ (lan.Admits descriptor readiness
          ∧ connectedCount next.view.status = connectedCount lan.view.status + 1
        ∨ ¬ lan.Admits descriptor readiness
          ∧ connectedCount next.view.status ≤ connectedCount lan.view.status) := by
  by_cases initialized : lan.initialized = true
  · cases descriptor with
    | udp =>
      refine (?_ : _ ∧ _).imp_right (fun fewer => .inr ⟨id, fewer⟩)
      rcases poll_udp initialized polled with same | failed
      · rw [same]
        exact ⟨advertises, le_rfl⟩
      · rw [failed]
        exact ⟨advertises.congr (.inr rfl) rfl rfl, le_rfl⟩
    | tcp =>
      refine (?_ : _ ∧ _).imp_right (fun fewer => .inr ⟨id, fewer⟩)
      rw [poll.eq_def, if_neg (not_not_intro initialized)] at polled
      dsimp only at polled
      split at polled
      · cases polled
        exact ⟨advertises, le_rfl⟩
      · cases polled
        rw [onDisconnectFromHost_of_hosting advertises.role]
        exact ⟨advertises, le_rfl⟩
      · rename_i tcp arrived accepted _
        cases polled
        have read := tcpOnRead_advertises tcp arrived accepted advertises
        split
        · exact read
        · rw [onDisconnectFromHost_of_hosting read.1.role]
          exact read
    | station index =>
      rw [poll.eq_def, if_neg (not_not_intro initialized)] at polled
      dsimp only at polled
      split at polled
      · rename_i unlinked
        cases polled
        refine ⟨advertises, .inr ⟨?_, le_rfl⟩⟩
        unfold LANDiscovery.Admits
        split
        · rename_i same
          cases same
          simp [connectNode?, unlinked]
        · exact id
      · have closed := stationOnClose_advertises advertises polled
        exact ⟨closed.1, .inr ⟨id, closed.2⟩⟩
      · obtain ⟨⟨read, rc⟩, result, handled⟩ := bind_eq_some_iff.mp polled
        dsimp only at handled
        rcases stationOnRead_advertises advertises result with
          ⟨other, unchanged⟩ | ⟨connects, succeeded, advertised, status⟩
        · have unadmitted (arrived : Except Int Bytes) (accepted : Bool)
              (other : lan.connectNode? index arrived = none)
              : ¬ lan.Admits (.station index) (.readable arrived accepted) := by
            simp [LANDiscovery.Admits, other]
          split at handled
          · cases handled
            rw [unchanged]
            exact ⟨advertises, .inr ⟨unadmitted _ _ other, le_rfl⟩⟩
          · have still : read.view.Advertises limit := by rwa [unchanged]
            have closed := stationOnClose_advertises still handled
            rw [unchanged] at closed
            exact ⟨closed.1, .inr ⟨unadmitted _ _ other, closed.2⟩⟩
        · rw [if_pos succeeded] at handled
          cases handled
          refine ⟨advertised, ?_⟩
          rw [status]
          by_cases already : (lan.stations index).status = .connected
          · refine .inr ⟨fun admits => admits.2.1 already, ?_⟩
            exact (connectedCount_update_self already).le
          · exact .inl ⟨⟨initialized, already, connects⟩, connectedCount_connects already⟩
  · rw [poll.eq_def, if_pos initialized] at polled
    cases polled
    refine ⟨advertises, .inr ⟨?_, le_rfl⟩⟩
    cases descriptor <;> cases readiness <;> simp_all [LANDiscovery.Admits]

end LANDiscovery

end Hosting

def worker : Machine (Option LANDiscovery) (Descriptor × Readiness) Answer :=
  .failing (fun lan polled => lan.step (.poll polled.1 polled.2)) .none

/-- A network that was created keeps what it advertises along every run of the worker, which
comes to no null pointer.
-/
theorem worker_run_advertises {hosting : LANDiscovery} {limit : UInt8} (ready : hosting.isReady)
    (advertises : hosting.view.Advertises limit) (history : List (Descriptor × Readiness))
    : ∃ lan,
        worker.run (some hosting) history = some lan
        ∧ lan.isReady
        ∧ lan.view.Advertises limit := by
  have run := @Machine.failing_run_map LANDiscovery (Descriptor × Readiness) Answer
    (fun lan polled => lan.step (.poll polled.1 polled.2)) .none (Descriptor × Readiness) id
    (fun _ lan => lan.isReady ∧ lan.view.Advertises limit) hosting ⟨ready, advertises⟩ ?_ history
  · rw [List.map_id] at run
    exact run
  · rintro _ lan polled ⟨ready, advertises⟩
    obtain ⟨next, taken⟩ := LANDiscovery.poll_of_ready { lan with effects := [] } ready polled.1
      polled.2
    have quiet : ({ lan with effects := [] } : LANDiscovery).view.Advertises limit :=
      advertises.congr advertises.role rfl rfl
    exact ⟨next, .none, LANDiscovery.step_poll taken, (LANDiscovery.poll_moves taken).isReady ready,
      (LANDiscovery.poll_advertises quiet taken).1⟩

/-- Within the capacity, said of the connected stations. -/
theorem LANDiscovery.within_capacity_iff {lan : LANDiscovery} {limit : UInt8}
    (advertises : lan.view.Advertises limit)
    : lan.networkInfo.ldn.nodeCount ≤ lan.networkInfo.ldn.nodeCountMax
      ↔ connectedCount lan.view.status + 1 ≤ limit.toNat := by
  have nodeCount : lan.networkInfo.ldn.nodeCount.toNat = connectedCount lan.view.status + 1 :=
    advertises.nodeCount
  have nodeCountMax : lan.networkInfo.ldn.nodeCountMax = limit := advertises.nodeCountMax
  rw [UInt8.le_iff_toNat_le, nodeCount, nodeCountMax]

/-- The nodes of a network stay within its capacity exactly when they do at first and every
`Connect` packet of a further station finds the host, the connected stations and one more within
it. `onConnect` does not ask for that. Witness: the event that counts one more.
-/
theorem capacity_respected_iff {lan hosting : LANDiscovery} {securityMode : UInt16}
    {user : UserConfig} {config : NetworkConfig} {calls : CreateCalls}
    (created : lan.createNetwork securityMode user config calls = some (hosting, 0))
    (history : List (Descriptor × Readiness))
    : (∃ last, worker.run (some hosting) history = some last)
      ∧ ((∀ before after,
            history = before ++ after
            → ∀ now,
                worker.run (some hosting) before = some now
                → now.networkInfo.ldn.nodeCount ≤ now.networkInfo.ldn.nodeCountMax)
        ↔ connectedCount lan.view.status + 1 ≤ config.nodeCountMax.toNat
          ∧ ∀ before polled after,
              history = before ++ polled :: after
              → ∀ now,
                  worker.run (some hosting) before = some now
                  → now.Admits polled.1 polled.2
                  → connectedCount now.view.status + 2 ≤ config.nodeCountMax.toNat) := by
  obtain ⟨ready, advertises, status⟩ := LANDiscovery.createNetwork_hosts created
  obtain ⟨last, reached, _⟩ := worker_run_advertises ready advertises history
  refine ⟨⟨last, reached⟩, ?_⟩
  rw [← status]
  by_cases initially : connectedCount hosting.view.status + 1 ≤ config.nodeCountMax.toNat
  · rw [and_iff_right initially]
    refine Machine.failing_fronts_iff
      (fun (lan : LANDiscovery) (polled : Descriptor × Readiness) =>
        lan.step (.poll polled.1 polled.2))
      .none hosting (fun now => now.networkInfo.ldn.nodeCount ≤ now.networkInfo.ldn.nodeCountMax)
      (fun now polled =>
        now.Admits polled.1 polled.2
        → connectedCount now.view.status + 2 ≤ config.nodeCountMax.toNat)
      ((LANDiscovery.within_capacity_iff advertises).mpr initially) ?_ history
    intro before now polled reached fits
    obtain ⟨same, again, ready, here⟩ := worker_run_advertises ready advertises before
    cases again.symm.trans reached
    rw [LANDiscovery.within_capacity_iff here] at fits
    obtain ⟨next, taken⟩ := LANDiscovery.poll_of_ready { now with effects := [] } ready polled.1
      polled.2
    have quiet : ({ now with effects := [] } : LANDiscovery).view.Advertises config.nodeCountMax :=
      here.congr here.role rfl rfl
    obtain ⟨advertised, count⟩ := LANDiscovery.poll_advertises quiet taken
    have kept
        : (∀ after answer,
            now.step (.poll polled.1 polled.2) = some (after, answer)
            → after.networkInfo.ldn.nodeCount ≤ after.networkInfo.ldn.nodeCountMax)
          ↔ connectedCount next.view.status + 1 ≤ config.nodeCountMax.toNat := by
      rw [LANDiscovery.step_poll taken, ← LANDiscovery.within_capacity_iff advertised]
      simp
    rw [kept]
    rcases count with ⟨admits, more⟩ | ⟨other, fewer⟩
    · rw [more]
      exact ⟨fun fits _ => fits, fun guarded => guarded admits⟩
    · exact iff_of_true (le_trans (Nat.succ_le_succ fewer) fits) (fun admits => absurd admits other)
  · refine iff_of_false ?_ (fun holds => initially holds.1)
    intro fits
    exact initially
      ((LANDiscovery.within_capacity_iff advertises).mp (fits [] history rfl hosting rfl))

def openedAccessPoint : Option LANDiscovery :=
  discovery.run (some (LANDiscovery.fresh (fun _ => 0) (fun _ => 0) 0 1400))
    [.call (.initializeLan 1 .succeeding), .call .openAccessPoint]

def oneStation : List (Descriptor × Readiness) :=
  [
    (.tcp, .readable (.ok []) true),
    (.station 0, .readable (.ok (sendPacket .connect NodeInfo.zero.toBytes)) false)
  ]

def NetworkConfig.ofCapacity (nodeCountMax : UInt8) : NetworkConfig :=
  { NetworkConfig.zero with nodeCountMax := nodeCountMax }

theorem openedAccessPoint_hosts
    : ∃ lan hosting,
        openedAccessPoint = some lan
        ∧ lan.createNetwork 0 .anonymous (.ofCapacity 1) .succeeding = some (hosting, 0) := by
  have states
      : (openedAccessPoint.bind
          (fun lan => lan.createNetwork 0 .anonymous (.ofCapacity 1) .succeeding)).map Prod.snd
        = some 0 := by
    decide +kernel
  obtain ⟨⟨hosting, rc⟩, created, rfl⟩ := map_eq_some_iff.mp states
  obtain ⟨lan, reached, created⟩ := bind_eq_some_iff.mp created
  exact ⟨lan, hosting, reached, created⟩

theorem capacity_respected_iff_oneStation
    : ∃ (lan hosting last : LANDiscovery),
        lan.createNetwork 0 .anonymous (.ofCapacity 1) .succeeding = some (hosting, 0)
        ∧ worker.run (some hosting) oneStation = some last := by
  obtain ⟨lan, hosting, _, created⟩ := openedAccessPoint_hosts
  obtain ⟨⟨last, reached⟩, _⟩ := capacity_respected_iff created oneStation
  exact ⟨lan, hosting, last, created, reached⟩

/-- A network for one console has two nodes. -/
theorem capacity_exceeded
    : ∃ lan hosting full,
        openedAccessPoint = some lan
        ∧ lan.createNetwork 0 .anonymous (.ofCapacity 1) .succeeding = some (hosting, 0)
        ∧ worker.run (some hosting) oneStation = some full
        ∧ full.state = .accessPointCreated
        ∧ (full.networkInfo.ldn.nodeCountMax, full.networkInfo.ldn.nodeCount) = (1, 2) := by
  have states
      : ((openedAccessPoint.bind
            (fun lan => lan.createNetwork 0 .anonymous (.ofCapacity 1) .succeeding)).bind
          (fun created => worker.run (some created.1) oneStation)).map
          (fun lan => (lan.state, lan.networkInfo.ldn.nodeCountMax, lan.networkInfo.ldn.nodeCount))
        = some (.accessPointCreated, 1, 2) := by
    decide +kernel
  obtain ⟨lan, hosting, opened, created⟩ := openedAccessPoint_hosts
  rw [opened, Option.bind_some, created, Option.bind_some] at states
  obtain ⟨full, reached, here⟩ := Option.map_eq_some_iff.mp states
  exact ⟨lan, hosting, full, opened, created, reached, congrArg Prod.fst here,
    congrArg Prod.snd here⟩

end SwitchLanPlay.LdnMitm
