import SwitchLanPlay.LdnMitm.Session

/-! The changes of nodes that a station reports behind `connect`. The worker notes them with every
network the host sends, and `connect` clears them behind its packet.
-/

namespace SwitchLanPlay.LdnMitm

open List Option
open Foundation

variable {lan : LANDiscovery}

/-- The discovery reads the connection of a host, with nothing left from earlier packets. -/
structure LANDiscovery.Receives (lan : LANDiscovery) : Prop where
  initialized : lan.initialized = true
  tcp : lan.tcp = some ⟨true, .empty⟩
  role : lan.state = .station ∨ lan.state = .stationConnected

def syncEvent (info : NetworkInfo) : LanEvent :=
  .poll .tcp (.readable (.ok (sendPacket .syncNetwork info.toBytes)) false)

/-- What `onSyncNetwork` writes. -/
theorem LANDiscovery.onSyncNetwork_frame
    (role : lan.state = .station ∨ lan.state = .stationConnected) (info : NetworkInfo)
    : lan.onSyncNetwork info
      = {
          ({ lan with networkInfo := info } : LANDiscovery).noteNodeStates with
          state := .stationConnected
          effects := (lan.onSyncNetwork info).effects
        } := by
  unfold onSyncNetwork
  dsimp only
  rw [onNetworkInfoChanged_frame]
  split
  · rw [setState_frame]
    rfl
  · rename_i other
    have connected : lan.state = .stationConnected := role.resolve_left other
    simp only [noteNodeStates, emit, connected]
    rfl

/-- Behind `isNodeStateChanged`, the noted states are those of the network. -/
theorem LANDiscovery.nodeLastStates_noteNodeStates (lan : LANDiscovery)
    (index : Fin nodeCountMax)
    : lan.noteNodeStates.nodeLastStates index = (lan.networkInfo.node index).isConnected := by
  simp only [noteNodeStates]
  split
  · rfl
  · rename_i same
    have equal := (not_or.mp (of_decide_eq_false (Bool.not_eq_true _ ▸ same))).1
    exact (not_not.mp equal).symm

def ReportsConnect (change : UInt8) : Prop := change &&& 1 = 1

instance (change : UInt8) : Decidable (ReportsConnect change) := inferInstanceAs (Decidable (_ = _))

theorem reportsConnect_or_one (change : UInt8) : ReportsConnect (change ||| 1) := by
  apply UInt8.toNat_inj.mp
  have one : (1 : UInt8).toNat = 1 := rfl
  rw [UInt8.toNat_and, UInt8.toNat_or, one, Nat.and_or_distrib_right, Nat.and_self,
    Nat.and_one_is_mod]
  rcases Nat.mod_two_eq_zero_or_one change.toNat with even | odd
  · rw [even]
    rfl
  · rw [odd]
    rfl

def LANDiscovery.Marks (lan : LANDiscovery) : Prop :=
  ∀ index, lan.nodeLastStates index ≠ 0 → ReportsConnect (lan.nodeChanges index)

/-- `isNodeStateChanged` marks the nodes that are new. -/
theorem LANDiscovery.Marks.noteNodeStates (marks : lan.Marks) : lan.noteNodeStates.Marks := by
  intro index connected
  rw [nodeLastStates_noteNodeStates] at connected
  simp only [LANDiscovery.noteNodeStates]
  split
  · exact reportsConnect_or_one _
  · rename_i same
    have equal := (not_or.mp (of_decide_eq_false (Bool.not_eq_true _ ▸ same))).1
    rw [ne_eq, not_not] at equal
    exact marks index (equal ▸ connected)

/-- The station takes over the networks one after the other. Everything it notes about nodes comes
from the last of them, and what it marked stays marked.
-/
structure LANDiscovery.Follows (lan : LANDiscovery) (infos : List NetworkInfo)
    (next : LANDiscovery) : Prop where
  receives : next.Receives
  networkInfo : next.networkInfo = infos.getLastD lan.networkInfo
  state : next.state = if infos = [] then lan.state else .stationConnected
  marks : lan.Marks → next.Marks
  noted
    : infos ≠ []
      → ∀ index, next.nodeLastStates index = (next.networkInfo.node index).isConnected
  unchanged
    : infos = []
      → next.nodeChanges = lan.nodeChanges ∧ next.nodeLastStates = lan.nodeLastStates

theorem getLastD_append {α : Type*} (front rest : List α) (start : α)
    : (front ++ rest).getLastD start = rest.getLastD (front.getLastD start) := by
  simp only [getLastD_eq_getLast?, getLast?_append]
  cases rest.getLast? <;> rfl

/-- The networks of two stretches are taken over one stretch after the other. -/
theorem LANDiscovery.Follows.trans {middle next : LANDiscovery} {earlier later : List NetworkInfo}
    (first : lan.Follows earlier middle) (second : middle.Follows later next)
    : lan.Follows (earlier ++ later) next where
  receives := second.receives
  networkInfo := by
    rw [second.networkInfo, first.networkInfo, getLastD_append]
  state := by
    rw [second.state, first.state]
    cases later <;> simp
  marks := fun marks => second.marks (first.marks marks)
  noted := by
    intro some_
    cases later with
    | nil =>
      rw [append_nil] at some_
      rw [(second.unchanged rfl).2, second.networkInfo]
      exact first.noted some_
    | cons info later => exact second.noted (cons_ne_nil info later)
  unchanged := by
    intro none_
    obtain ⟨rfl, rfl⟩ := append_eq_nil_iff.mp none_
    rw [(second.unchanged rfl).1, (second.unchanged rfl).2]
    exact first.unchanged rfl

theorem LANDiscovery.onSyncNetwork_follows (receives : lan.Receives) (info : NetworkInfo)
    : lan.Follows [info] (lan.onSyncNetwork info)
      ∧ (lan.onSyncNetwork info).pending = lan.pending := by
  rw [onSyncNetwork_frame receives.role]
  have noted := nodeLastStates_noteNodeStates { lan with networkInfo := info }
  refine ⟨?_, rfl⟩
  exact {
    receives := ⟨receives.initialized, receives.tcp, .inr rfl⟩
    networkInfo := rfl
    state := rfl
    marks := fun marks =>
      LANDiscovery.Marks.noteNodeStates (show { lan with networkInfo := info }.Marks from marks)
    noted := fun _ => noted
    unchanged := nofun
  }

theorem tcpRecvfrom_of_ne_nil {data : Bytes} (some_ : data ≠ [])
    : tcpRecvfrom (.ok data) = .ok data := by
  cases data with
  | nil => exact absurd rfl some_
  | cons octet rest => rfl

/-- A whole `SyncNetwork` packet reaches `onSyncNetwork`. -/
theorem LANDiscovery.tcpOnRead_sync (receives : lan.Receives) (info : NetworkInfo)
    : lan.tcpOnRead ⟨true, .empty⟩ (.ok (sendPacket .syncNetwork info.toBytes)) false
      = (lan.onSyncNetwork info, 0) := by
  have small : info.toBytes.length ≤ bufferSize := by
    rw [info.length_toBytes]
    decide
  have packet := (sendPacket_spec .syncNetwork small).1
  have unchanged : ({ lan with tcp := some ⟨true, .empty⟩ } : LANDiscovery) = lan := by
    rw [← receives.tcp]
  have read
      : lan.readHost ⟨true, .empty⟩ (.ok (sendPacket .syncNetwork info.toBytes))
        = (lan.onSyncNetwork info, 0) := by
    unfold readHost
    rw [tcpRecvfrom_of_ne_nil packet.ne_nil, recvPacket_network]
    dsimp only
    rw [unchanged, tcpCallback, if_pos rfl, info.read?_toBytes]
  unfold tcpOnRead
  rcases receives.role with role | role
  · rw [role]
    exact read
  · rw [role]
    exact read

theorem LANDiscovery.step_syncEvent (receives : lan.Receives) (info : NetworkInfo)
    : ∃ next,
        lan.step (syncEvent info) = some (next, .none)
        ∧ lan.Follows [info] next
        ∧ next.pending = lan.pending := by
  have begun : ({ lan with effects := [] } : LANDiscovery).Receives :=
    ⟨receives.initialized, receives.tcp, receives.role⟩
  obtain ⟨follows, pending⟩ := onSyncNetwork_follows begun info
  have open_ : lan.tcp.filter LDTcpSocket.isOpen = some ⟨true, .empty⟩ := by
    rw [receives.tcp]
    rfl
  have follows : lan.Follows [info] ({ lan with effects := [] }.onSyncNetwork info) :=
    { follows with }
  refine ⟨_, step_poll ?_, follows, pending⟩
  unfold poll
  rw [if_neg (not_not.mpr begun.initialized)]
  dsimp only
  rw [open_]
  dsimp only
  rw [tcpOnRead_sync begun info]
  rfl

/-- A station that reads only `SyncNetwork` packets follows them. -/
theorem discovery_run_syncs (receives : lan.Receives) (infos : List NetworkInfo)
    : ∃ next,
        discovery.run (some lan) (infos.map syncEvent) = some next
        ∧ lan.Follows infos next
        ∧ next.pending = lan.pending := by
  refine Machine.failing_run_map syncEvent
    (fun infos next => lan.Follows infos next ∧ next.pending = lan.pending) ?_ ?_ infos
  · exact ⟨⟨receives, rfl, rfl, id, absurd rfl, fun _ => ⟨rfl, rfl⟩⟩, rfl⟩
  · rintro infos middle info ⟨first, kept⟩
    obtain ⟨next, stepped, second, same⟩ := LANDiscovery.step_syncEvent first.receives info
    exact ⟨next, .none, stepped, first.trans second, same.trans kept⟩

-- The tail of `connect`

/-- A socket that `initTcp` opens has received nothing. -/
theorem LANDiscovery.initTcp_spec (lan : LANDiscovery) (calls : SocketCalls) (listening : Bool)
    : (lan.initTcp calls listening).1.pending = lan.pending
      ∧ (lan.initTcp calls listening).1.effects = lan.effects
      ∧ ((lan.initTcp calls listening).2 = 0
        → (lan.initTcp calls listening).1.tcp = some ⟨true, .empty⟩) := by
  unfold initTcp
  dsimp only
  split
  · exact ⟨rfl, rfl, nofun⟩
  · split
    · exact ⟨rfl, rfl, nofun⟩
    · split
      · exact ⟨rfl, rfl, nofun⟩
      · split
        · exact ⟨rfl, rfl, nofun⟩
        · exact ⟨rfl, rfl, fun _ => rfl⟩

def resultOf {α : Type*} (outcome : α × Nat) : Except Nat α :=
  if outcome.2 = 0 then .ok outcome.1 else .error outcome.2

namespace LANDiscovery

def connectCalls (lan : LANDiscovery) (user : UserConfig) (version : UInt16)
    (calls : StationCalls)
    : ConnectCalls where
  initTcp := (resultOf (lan.initTcp calls.tcp false)).map (fun _ => ())
  connected := calls.connected
  getNodeInfo := resultOf (getNodeInfo .zero user version calls.ip calls.macIp)
  sent := calls.sent

/-- A `connect` fails, or waits behind the packet it sent over a new connection. -/
theorem startConnect_cases (lan : LANDiscovery) (networkInfo : NetworkInfo)
    (user : UserConfig) (version : UInt16) (calls : StationCalls)
    : (∃ code,
        connect (lan.connectCalls user version calls) networkInfo = .error code
        ∧ (lan.startConnect networkInfo user version calls).1.pending = lan.pending
        ∧ (lan.startConnect networkInfo user version calls).1.effects = lan.effects)
      ∨ ∃ connection,
          connect (lan.connectCalls user version calls) networkInfo = .ok connection
          ∧ (lan.startConnect networkInfo user version calls).1.pending = some .connectSent
          ∧ (lan.startConnect networkInfo user version calls).1.effects
            = lan.effects ++ [.connect connection]
          ∧ (lan.startConnect networkInfo user version calls).1.tcp = some ⟨true, .empty⟩ := by
  unfold startConnect connect connectCalls resultOf
  by_cases empty : networkInfo.ldn.nodeCount = 0
  · simp only [if_pos empty, and_true]
    exact .inl ⟨30, rfl⟩
  · obtain ⟨same, quiet, opened⟩ := lan.initTcp_spec calls.tcp false
    generalize lan.initTcp calls.tcp false = attempt at same quiet opened
    obtain ⟨attempt, rc⟩ := attempt
    dsimp only at same quiet opened
    simp only [if_neg empty]
    by_cases succeeded : rc = 0
    · simp only [if_pos succeeded, if_neg (not_not.mpr succeeded)]
      cases calls.connected with
      | false => exact .inl ⟨31, rfl, same, quiet⟩
      | true =>
        generalize getNodeInfo .zero user version calls.ip calls.macIp = node
        obtain ⟨node, rc⟩ := node
        by_cases known : rc = 0
        · simp only [if_pos known, if_neg (not_not.mpr known)]
          cases calls.sent with
          | false => exact .inl ⟨32, rfl, same, quiet⟩
          | true => exact .inr ⟨_, rfl, rfl, congrArg (· ++ _) quiet, opened succeeded⟩
        · simp only [if_neg known, if_pos known]
          exact .inl ⟨rc, rfl, same, quiet⟩
    · simp only [if_neg succeeded, if_pos succeeded]
      exact .inl ⟨rc, rfl, same, quiet⟩

/-- A station whose `connect` waits reads the connection of its host. -/
theorem startConnect_receives (networkInfo : NetworkInfo) (user : UserConfig)
    (version : UInt16) (calls : StationCalls) (idle : lan.pending = none)
    (initialized : lan.initialized = true)
    (role : lan.state = .station ∨ lan.state = .stationConnected)
    (waits : (lan.startConnect networkInfo user version calls).1.pending.isSome)
    : (lan.startConnect networkInfo user version calls).1.Receives
      ∧ (lan.startConnect networkInfo user version calls).1.pending = some .connectSent
      ∧ (lan.startConnect networkInfo user version calls).1.state = lan.state := by
  have view := lan.view_startConnect networkInfo user version calls idle
  have state := congrArg View.state view
  have ready := congrArg View.initialized view
  rcases lan.startConnect_cases networkInfo user version calls with
    ⟨_, _, failed, _⟩ | ⟨_, _, pending, _, opened⟩
  · rw [failed, idle] at waits
    exact absurd waits Bool.false_ne_true
  · have role := role.imp state.trans state.trans
    exact ⟨⟨ready.trans initialized, opened, role⟩, pending, state⟩

theorem step_connect_waits {waiting : LANDiscovery} {networkInfo : NetworkInfo}
    {user : UserConfig} {version : UInt16} {calls : StationCalls} (idle : lan.pending = none)
    (initialized : lan.initialized = true)
    (role : lan.state = .station ∨ lan.state = .stationConnected)
    (sent : lan.step (.call (.connect networkInfo user version calls)) = some (waiting, .none))
    : waiting.Receives ∧ waiting.pending = some .connectSent ∧ waiting.state = lan.state := by
  unfold LANDiscovery.step at sent
  dsimp only at sent
  rw [if_neg (by simp [idle])] at sent
  unfold handle answerLater at sent
  rw [Option.some.injEq, Prod.mk.injEq] at sent
  obtain ⟨rfl, sleeps⟩ := sent
  refine startConnect_receives networkInfo user version calls idle initialized role ?_
  by_contra answered
  rw [if_neg answered] at sleeps
  exact nomatch sleeps

/-- Behind its packet `connect` forgets all changes of nodes. -/
theorem step_resume_clears (receives : lan.Receives)
    (sent : lan.pending = some .connectSent) (order : MapOrder)
    : ∃ next,
        lan.step (.resume order) = some (next, .none)
        ∧ next.Receives
        ∧ next.pending = some .connectCleared
        ∧ next.networkInfo = lan.networkInfo
        ∧ next.state = lan.state
        ∧ (∀ index, next.nodeChanges index = 0)
        ∧ ∀ index, next.nodeLastStates index = 0 := by
  refine ⟨{ lan.initNodeStateChange with effects := [], pending := some .connectCleared }, ?_,
    ⟨receives.initialized, receives.tcp, receives.role⟩, rfl, rfl, rfl, fun _ => rfl, fun _ => rfl⟩
  simp only [LANDiscovery.step, resume, sent, initNodeStateChange]

/-- `connect` returns. -/
theorem step_resume_returns (receives : lan.Receives)
    (cleared : lan.pending = some .connectCleared) (order : MapOrder)
    : ∃ next,
        lan.step (.resume order) = some (next, .code 0)
        ∧ lan.Follows [] next
        ∧ next.pending = none := by
  refine ⟨{ lan with effects := [], pending := none }, ?_, ?_, rfl⟩
  · simp only [LANDiscovery.step, resume, cleared]
  · exact ⟨⟨receives.initialized, receives.tcp, receives.role⟩, rfl, rfl, id, absurd rfl,
      fun _ => ⟨rfl, rfl⟩⟩

end LANDiscovery

/-- `connect` with the networks that the worker takes over in front of `initNodeStateChange`, behind
it, and after the return.
-/
def connectHistory (networkInfo : NetworkInfo) (user : UserConfig) (version : UInt16)
    (calls : StationCalls) (clear back : MapOrder) (before during after : List NetworkInfo)
    : List LanEvent :=
  .call (.connect networkInfo user version calls) :: before.map syncEvent
    ++ .resume clear :: during.map syncEvent
    ++ .resume back :: after.map syncEvent

/-- From the packet of `connect` on, the nodes are those of the networks taken over behind
`initNodeStateChange`.
-/
theorem discovery_run_connect {waiting : LANDiscovery} {networkInfo : NetworkInfo}
    {user : UserConfig} {version : UInt16} {calls : StationCalls} (idle : lan.pending = none)
    (initialized : lan.initialized = true)
    (role : lan.state = .station ∨ lan.state = .stationConnected)
    (sent : lan.step (.call (.connect networkInfo user version calls)) = some (waiting, .none))
    (clear back : MapOrder) (before during after : List NetworkInfo)
    : ∃ cleared final : LANDiscovery,
        discovery.run (some lan)
            (connectHistory networkInfo user version calls clear back before during after)
          = some final
        ∧ final.pending = none
        ∧ cleared.networkInfo = before.getLastD waiting.networkInfo
        ∧ cleared.state = (if before = [] then lan.state else .stationConnected)
        ∧ (∀ index, cleared.nodeChanges index = 0)
        ∧ cleared.Marks
        ∧ cleared.Follows (during ++ after) final := by
  obtain ⟨receives, pending, state⟩ := LANDiscovery.step_connect_waits idle initialized role sent
  obtain ⟨packed, ran, early, kept⟩ := discovery_run_syncs receives before
  obtain ⟨cleared, clears, receives, pending, info, same, changes, states⟩ :=
    LANDiscovery.step_resume_clears early.receives (kept.trans pending) clear
  obtain ⟨slept, ranDuring, middle, kept⟩ := discovery_run_syncs receives during
  obtain ⟨returned, returns, still, done⟩ :=
    LANDiscovery.step_resume_returns middle.receives (kept.trans pending) back
  obtain ⟨final, ranAfter, late, kept⟩ := discovery_run_syncs still.receives after
  refine ⟨cleared, final, ?_, kept.trans done, info.trans early.networkInfo, ?_, changes, ?_, ?_⟩
  · have first : (discovery.step (some lan) (.call (.connect networkInfo user version calls))).1
        = some waiting := Machine.failing_step_eq_some.mpr ⟨lan, .none, rfl, sent⟩
    have second : (discovery.step (some packed) (.resume clear)).1 = some cleared :=
      Machine.failing_step_eq_some.mpr ⟨packed, .none, rfl, clears⟩
    have third : (discovery.step (some slept) (.resume back)).1 = some returned :=
      Machine.failing_step_eq_some.mpr ⟨slept, .code 0, rfl, returns⟩
    simp only [connectHistory, Machine.run_append, Machine.run_cons, first, ran, second, ranDuring,
      third, ranAfter]
  · rw [same, early.state, state]
  · exact fun index connected => absurd (states index) connected
  · have joined := (middle.trans still).trans late
    rwa [append_nil] at joined

/-- What `GetNetworkInfoLatestUpdate` answers a connected station. -/
theorem LANDiscovery.step_latestUpdate (idle : lan.pending = none)
    (connected : lan.state = .stationConnected)
    : (lan.step (.call (.getNetworkInfoLatestUpdate nodeCountMax))).map Prod.snd
      = some (.updates (.ok (lan.networkInfo, ofFn lan.nodeChanges))) := by
  have whole : (ofFn lan.nodeChanges).take (nodeCountMax : Int).toNat
      = ofFn lan.nodeChanges := take_of_length_le (by rw [length_ofFn, Int.toNat_natCast])
  have accepted : ¬ ((nodeCountMax : Int) < 0 ∨ (nodeCountMax : Int) < nodeCountMax) := by decide
  have reported
      : ({ lan with effects := [] } : LANDiscovery).getNetworkInfo = .ok lan.networkInfo :=
    if_pos (.inr connected)
  unfold LANDiscovery.step
  dsimp only
  rw [if_neg (by simp [idle])]
  rw [handle, getNetworkInfoLatestUpdate, if_neg accepted, reported]
  dsimp only
  rw [whole]
  rfl

def NetworkInfo.hosted : NetworkInfo :=
  (NetworkInfo.zero.withNodeCount 1).setNode 0 { NetworkInfo.zero.node 0 with isConnected := 1 }

theorem openedStation_connects
    : ∃ lan waiting,
        discovery.run (some (LANDiscovery.fresh (fun _ => 0) (fun _ => 0) 0 1500)) openedStation
          = some lan
        ∧ lan.pending = none
        ∧ lan.initialized = true
        ∧ lan.state = .station
        ∧ lan.step (.call (.connect .hosted .anonymous 0 .succeeding)) = some (waiting, .none) := by
  have ready
      : (discovery.run (some (LANDiscovery.fresh (fun _ => 0) (fun _ => 0) 0 1500))
            openedStation).map
          (fun lan =>
            (lan.pending.isNone, lan.initialized, lan.state,
              (lan.step (.call (.connect .hosted .anonymous 0 .succeeding))).map
                (fun outcome => outcome.2 matches .none)))
        = some (true, true, .station, some true) := by
    decide +kernel
  obtain ⟨lan, reached, ready⟩ := map_eq_some_iff.mp ready
  simp only [Prod.mk.injEq] at ready
  obtain ⟨idle, initialized, state, sent⟩ := ready
  obtain ⟨⟨waiting, answer⟩, stepped, silent⟩ := map_eq_some_iff.mp sent
  cases answer with
  | none => exact ⟨lan, waiting, reached, isNone_iff_eq_none.mp idle, initialized, state, stepped⟩
  | code rc => exact nomatch silent
  | network result => exact nomatch silent
  | updates result => exact nomatch silent
  | networks infos => exact nomatch silent

end SwitchLanPlay.LdnMitm
