import SwitchLanPlay.Server.Provider

/-! Start and stop of the PC client over RPC. `lan_play_init` starts captures, timers and a socket
one after the other and returns at the first failure; the status is kept apart from what is running.
-/

namespace SwitchLanPlay.Rpc

open List Option
open Foundation
open Server (utf8)

variable {captured : UvHandles}

structure LanPlayConfig where
  relayServer : Bytes
  socks5Server : Bytes
  pmtu : Int
deriving DecidableEq, Repr

inductive LanPlayStatus where
  | none
  | running
deriving DecidableEq, Repr

/-- The handles of libuv in `struct lan_play`; an active one has the number of the call of `start`
that started it. The captures are those in `pcap.inner` and in an `inner` that was replaced.
`reinitialised` counts handles initialised while active.
-/
structure UvHandles where
  inner : List Nat
  lost : List Nat
  client : Option Nat
  clientKeepaliveTimer : Option Nat
  realBroadcastTimer : Option Nat
  reinitialised : Nat
deriving DecidableEq, Repr

/-- `LanPlay` with its `struct lan_play` and the options it sets. -/
structure LanPlay where
  status : LanPlayStatus
  lastError : Bytes
  lastErr : Bytes
  relayServerAddr : Option Bytes
  socks5ServerAddr : Option Bytes
  pmtu : Int
  starts : Nat
  handles : UvHandles
deriving DecidableEq, Repr

def LanPlay.init : LanPlay := ⟨.none, [], [], none, none, 0, 0, ⟨[], [], none, none, none, 0⟩⟩

def UvHandles.clientHandles (handles : UvHandles) : List Nat :=
  handles.client.toList ++ handles.clientKeepaliveTimer.toList
    ++ handles.realBroadcastTimer.toList

def UvHandles.active (handles : UvHandles) : List Nat :=
  handles.lost ++ handles.inner ++ handles.clientHandles

/-- What the calls of one `lan_play_init` answer: whether the addresses are parsed and the
interfaces listed, which of them could be opened, and the results of libuv.
-/
structure InitCalls where
  parseRelay : Bool
  findAllDevs : Bool
  openLive : List Bool
  keepaliveStart : Int
  realBroadcastStart : Int
  recvStart : Int
  parseSocks5 : Bool
deriving DecidableEq, Repr

structure CloseCalls where
  recvStop : Int
  keepaliveStop : Int
  realBroadcastStop : Int
deriving DecidableEq, Repr

def optionOf (text : Bytes) : Option Bytes := if text = [] then none else some text

def LanPlay.applyConfig (lanPlay : LanPlay) (config : LanPlayConfig) : LanPlay :=
  {
    lanPlay with
    pmtu := config.pmtu
    relayServerAddr := optionOf config.relayServer
    socks5ServerAddr := optionOf config.socks5Server
  }

def LanPlay.parseFailed (lanPlay : LanPlay) (option addr : Bytes) : LanPlay × Int :=
  ({
      lanPlay with
      lastErr :=
        (utf8 "Failed to parse and get ip address. --" ++ option ++ utf8 ": " ++ addr).take 255
    },
    -1)

/-- `uv_pcap_init`, in the call of `start` with some number; the process exits when it finds no
interface. The polls of the `inner` that is replaced stay active.
-/
def UvHandles.uvPcapInit (handles : UvHandles) (calls : InitCalls) (number : Nat)
    : Option UvHandles :=
  if calls.findAllDevs then
    some
      {
        handles with
        lost := handles.lost ++ handles.inner
        inner := (calls.openLive.filter id).map fun _ => number
      }
  else none

def UvHandles.initHandles (handles : UvHandles) : UvHandles :=
  {
    handles with
    client := none
    clientKeepaliveTimer := none
    realBroadcastTimer := none
    reinitialised := handles.reinitialised + handles.clientHandles.length
  }

def minFragPayloadLen : Int := 500

/-- `lan_client_init`; the process exits when the path MTU is too small. -/
def UvHandles.lanClientInit (handles : UvHandles) (pmtu : Int) (calls : InitCalls) (number : Nat)
    : Option (UvHandles × Int) :=
  if pmtu ≠ 0 ∧ pmtu < minFragPayloadLen then none
  else
    let handles := handles.initHandles
    if calls.keepaliveStart ≠ 0 then some (handles, calls.keepaliveStart)
    else
      let handles := { handles with clientKeepaliveTimer := some number }
      if calls.realBroadcastStart ≠ 0 then some (handles, calls.realBroadcastStart)
      else
        let handles := { handles with realBroadcastTimer := some number }
        if calls.recvStart ≠ 0 then some (handles, calls.recvStart)
        else some ({ handles with client := some number }, 0)

/-- The end of `lan_play_init`; `gateway_init` does not fail. -/
def LanPlay.gatewayInit (lanPlay : LanPlay) (calls : InitCalls) : LanPlay × Int :=
  match lanPlay.socks5ServerAddr with
  | none => (lanPlay, 0)
  | some addr =>
    if calls.parseSocks5 then (lanPlay, 0)
    else lanPlay.parseFailed (utf8 "socks5-server-addr") addr

def LanPlay.lanPlayInit (lanPlay : LanPlay) (calls : InitCalls) : Option (LanPlay × Int) :=
  let lanPlay := { lanPlay with starts := lanPlay.starts + 1 }
  match lanPlay.relayServerAddr with
  | none => do
      let handles ← lanPlay.handles.uvPcapInit calls lanPlay.starts
      some ({ lanPlay with handles := handles }.gatewayInit calls)
  | some addr =>
    if calls.parseRelay then do
      let handles ← lanPlay.handles.uvPcapInit calls lanPlay.starts
      let (handles, ret) ← handles.lanClientInit lanPlay.pmtu calls lanPlay.starts
      if ret ≠ 0 then some ({ lanPlay with handles := handles }, ret)
      else some ({ lanPlay with handles := handles }.gatewayInit calls)
    else some (lanPlay.parseFailed (utf8 "relay-server-addr") addr)

def LanPlay.start (lanPlay : LanPlay) (config : LanPlayConfig) (calls : InitCalls)
    : Option (LanPlay × Int) :=
  if lanPlay.status = .running then
    some ({ lanPlay with lastError := utf8 "Already running" }, -1)
  else
    ((lanPlay.applyConfig config).lanPlayInit calls).map fun (lanPlay, ret) =>
      if ret = 0 then ({ lanPlay with status := .running }, ret)
      else ({ lanPlay with lastError := lanPlay.lastErr }, ret)

def UvHandles.lanClientClose (handles : UvHandles) (calls : CloseCalls) : UvHandles × Int :=
  if calls.recvStop ≠ 0 then (handles, calls.recvStop)
  else
    let handles := { handles with client := none }
    if calls.keepaliveStop ≠ 0 then (handles, calls.keepaliveStop)
    else
      let handles := { handles with clientKeepaliveTimer := none }
      if calls.realBroadcastStop ≠ 0 then (handles, calls.realBroadcastStop)
      else ({ handles with realBroadcastTimer := none }, 0)

/-- `lan_play_close`; `packet_close` and `gateway_close` do not fail. -/
def LanPlay.lanPlayClose (lanPlay : LanPlay) (calls : CloseCalls) : LanPlay × Int :=
  let handles := { lanPlay.handles with inner := [] }
  match lanPlay.relayServerAddr with
  | none => ({ lanPlay with handles := handles }, 0)
  | some _ =>
    let (handles, ret) := handles.lanClientClose calls
    ({ lanPlay with handles := handles }, ret)

def LanPlay.stop (lanPlay : LanPlay) (calls : CloseCalls) : LanPlay × Int :=
  if lanPlay.status = .none then
    ({ lanPlay with lastError := utf8 "Already stopped" }, -1)
  else
    let (lanPlay, ret) := lanPlay.lanPlayClose calls
    if ret = 0 then ({ lanPlay with status := .none }, ret)
    else ({ lanPlay with lastError := lanPlay.lastErr }, ret)

inductive LanPlayCall where
  | start (config : LanPlayConfig) (calls : InitCalls)
  | stop (calls : CloseCalls)
deriving DecidableEq, Repr

def LanPlay.step (lanPlay : LanPlay) : LanPlayCall → Option (LanPlay × Int)
  | .start config calls => lanPlay.start config calls
  | .stop calls => some (lanPlay.stop calls)

def lanPlayMachine : Machine (Option LanPlay) LanPlayCall Int := Machine.failing LanPlay.step 0

def LanPlay.Reached (calls : List LanPlayCall) (lanPlay : LanPlay) : Prop :=
  lanPlayMachine.run (some .init) calls = some lanPlay

-- What a start does

section Start

variable {lanPlay next : LanPlay} {handles : UvHandles} {config : LanPlayConfig}
  {calls : InitCalls} {number : Nat} {ret : Int}

def InitCalls.Succeeds (calls : InitCalls) (config : LanPlayConfig) : Prop :=
  (config.relayServer ≠ []
    → calls.parseRelay = true
      ∧ calls.keepaliveStart = 0
      ∧ calls.realBroadcastStart = 0
      ∧ calls.recvStart = 0)
  ∧ (config.socks5Server ≠ [] → calls.parseSocks5 = true)

/-- Nothing is started: the relay's address is not parsed, or no interface was opened and there is
no relay or its first timer fails.
-/
def InitCalls.StartsNothing (calls : InitCalls) (config : LanPlayConfig) : Prop :=
  (config.relayServer ≠ [] ∧ calls.parseRelay = false)
  ∨ ((∀ opened ∈ calls.openLive, opened = false)
    ∧ (config.relayServer = [] ∨ calls.keepaliveStart ≠ 0))

theorem optionOf_eq_none {text : Bytes} : optionOf text = none ↔ text = [] := by
  simp [optionOf]

theorem UvHandles.active_eq_nil_iff
    : handles.active = []
      ↔ handles.lost = [] ∧ handles.inner = [] ∧ handles.clientHandles = [] := by
  simp [active]

structure LanPlay.SameCall (next lanPlay : LanPlay) : Prop where
  status : next.status = lanPlay.status
  relay : next.relayServerAddr = lanPlay.relayServerAddr
  starts : next.starts = lanPlay.starts

theorem LanPlay.gatewayInit_eq (ended : lanPlay.gatewayInit calls = (next, ret))
    : next.handles = lanPlay.handles
      ∧ next.SameCall lanPlay
      ∧ (ret = 0 ↔ (lanPlay.socks5ServerAddr ≠ none → calls.parseSocks5 = true)) := by
  unfold gatewayInit at ended
  split at ended
  · next none =>
      cases ended
      exact ⟨rfl, ⟨rfl, rfl, rfl⟩, by simp [none]⟩
  · next addr some_ =>
      split at ended
      · next parsed =>
          cases ended
          exact ⟨rfl, ⟨rfl, rfl, rfl⟩, by simp [parsed]⟩
      · next failed =>
          cases ended
          exact ⟨rfl, ⟨rfl, rfl, rfl⟩, by simp [some_, failed]⟩

/-- The polls that `uv_pcap_init` starts. -/
theorem UvHandles.uvPcapInit_eq_some (started : handles.uvPcapInit calls number = some captured)
    : captured.lost = handles.lost ++ handles.inner
      ∧ captured.clientHandles = handles.clientHandles
      ∧ captured.reinitialised = handles.reinitialised
      ∧ (∀ call ∈ captured.inner, call = number)
      ∧ (captured.inner = [] ↔ ∀ opened ∈ calls.openLive, opened = false) := by
  unfold uvPcapInit at started
  split at started
  · cases started
    refine ⟨rfl, rfl, rfl, fun call member => ?_, by simp [filter_eq_nil_iff]⟩
    obtain ⟨-, -, same⟩ := mem_map.mp member
    exact same.symm
  · cases started

/-- The handles that `lan_client_init` starts. -/
theorem UvHandles.lanClientInit_eq_some {pmtu : Int} {started : UvHandles}
    (initialised : handles.lanClientInit pmtu calls number = some (started, ret))
    : started.lost = handles.lost
      ∧ started.inner = handles.inner
      ∧ started.reinitialised = handles.reinitialised + handles.clientHandles.length
      ∧ (∀ call ∈ started.clientHandles, call = number)
      ∧ (started.clientHandles = [] ↔ calls.keepaliveStart ≠ 0)
      ∧ (ret = 0
        ↔ calls.keepaliveStart = 0 ∧ calls.realBroadcastStart = 0 ∧ calls.recvStart = 0) := by
  unfold lanClientInit at initialised
  dsimp only at initialised
  split at initialised
  · cases initialised
  split at initialised
  · next first =>
      cases initialised
      refine ⟨rfl, rfl, rfl, ?_, iff_of_true rfl first, by simp [first]⟩
      simp [clientHandles, initHandles]
  · next first =>
      rw [not_not] at first
      split at initialised
      · next second =>
          cases initialised
          refine ⟨rfl, rfl, rfl, ?_, iff_of_false ?_ (by simp [first]), by simp [second]⟩
          · simp [clientHandles, initHandles]
          · simp [clientHandles]
      · next second =>
          rw [not_not] at second
          split at initialised
          · next third =>
              cases initialised
              refine ⟨rfl, rfl, rfl, ?_, iff_of_false ?_ (by simp [first]), by simp [third]⟩
              · simp [clientHandles, initHandles]
              · simp [clientHandles]
          · next third =>
              rw [not_not] at third
              cases initialised
              refine ⟨rfl, rfl, rfl, ?_, iff_of_false ?_ (by simp [first]),
                by simp [first, second, third]⟩
              · simp [clientHandles]
              · simp [clientHandles]

structure StartedFrom (lanPlay : LanPlay) (config : LanPlayConfig) (calls : InitCalls)
    (next : LanPlay) (ret : Int) : Prop where
  same : next.SameCall { lanPlay.applyConfig config with starts := lanPlay.starts + 1 }
  ret : ret = 0 ↔ calls.Succeeds config
  lost : next.handles.lost = []
  reinitialised : next.handles.reinitialised = lanPlay.handles.reinitialised
  started : ∀ call ∈ next.handles.active, call = lanPlay.starts + 1
  active_eq_nil : next.handles.active = [] ↔ calls.StartsNothing config
  noRelay : config.relayServer = [] → next.handles.clientHandles = []

/-- A start without a relay. -/
theorem StartedFrom.of_captures (idle : lanPlay.handles.active = [])
    (noRelay : config.relayServer = [])
    (captures : lanPlay.handles.uvPcapInit calls (lanPlay.starts + 1) = some captured)
    (handles : next.handles = captured)
    (same : next.SameCall { lanPlay.applyConfig config with starts := lanPlay.starts + 1 })
    (code : ret = 0 ↔ calls.Succeeds config)
    : StartedFrom lanPlay config calls next ret := by
  obtain ⟨lost, inner, client⟩ := UvHandles.active_eq_nil_iff.mp idle
  obtain ⟨newLost, newClient, counter, numbers, polls⟩ := UvHandles.uvPcapInit_eq_some captures
  rw [lost, inner] at newLost
  rw [client] at newClient
  have active : next.handles.active = captured.inner := by
    simp [handles, UvHandles.active, newLost, newClient]
  refine ⟨same, code, handles ▸ newLost, handles ▸ counter, active ▸ numbers, ?_,
    fun _ => handles ▸ newClient⟩
  rw [active, polls, InitCalls.StartsNothing]
  simp [noRelay]

/-- A start with a relay. -/
theorem StartedFrom.of_client (idle : lanPlay.handles.active = [])
    (hasRelay : config.relayServer ≠ []) (parsed : calls.parseRelay = true) {started : UvHandles}
    {pmtu result : Int}
    (captures : lanPlay.handles.uvPcapInit calls (lanPlay.starts + 1) = some captured)
    (initialised
      : captured.lanClientInit pmtu calls (lanPlay.starts + 1) = some (started, result))
    (handles : next.handles = started)
    (same : next.SameCall { lanPlay.applyConfig config with starts := lanPlay.starts + 1 })
    (code : ret = 0 ↔ calls.Succeeds config)
    : StartedFrom lanPlay config calls next ret := by
  obtain ⟨lost, inner, client⟩ := UvHandles.active_eq_nil_iff.mp idle
  obtain ⟨newLost, newClient, counter, numbers, polls⟩ := UvHandles.uvPcapInit_eq_some captures
  obtain ⟨lastLost, lastInner, counted, clients, first, -⟩ :=
    UvHandles.lanClientInit_eq_some initialised
  rw [lost, inner] at newLost
  rw [newClient, client, counter] at counted
  have active : next.handles.active = captured.inner ++ started.clientHandles := by
    simp [handles, UvHandles.active, lastLost, lastInner, newLost]
  refine ⟨same, code, handles ▸ lastLost.trans newLost, handles ▸ counted, ?_, ?_,
    fun none => absurd none hasRelay⟩
  · rw [active]
    exact forall_mem_append.mpr ⟨numbers, clients⟩
  · rw [active, append_eq_nil_iff, polls, first, InitCalls.StartsNothing]
    simp [hasRelay, parsed]

/-- A start from a state without active handles. -/
theorem LanPlay.lanPlayInit_eq_some (idle : lanPlay.handles.active = [])
    (started : (lanPlay.applyConfig config).lanPlayInit calls = some (next, ret))
    : StartedFrom lanPlay config calls next ret := by
  unfold lanPlayInit at started
  dsimp only at started
  split at started
  · next none =>
      have empty : config.relayServer = [] := optionOf_eq_none.mp none
      obtain ⟨captured, captures, gateway⟩ := bind_eq_some_iff.mp started
      obtain ⟨handles, same, code⟩ := gatewayInit_eq (Option.some.inj gateway)
      refine .of_captures idle empty captures handles ⟨same.status, same.relay, same.starts⟩ ?_
      rw [code, InitCalls.Succeeds]
      simp [empty, applyConfig, optionOf_eq_none]
  · next addr some_ =>
      have hasRelay : config.relayServer ≠ [] := fun empty =>
        nomatch (optionOf_eq_none.mpr empty).symm.trans some_
      split at started
      · next parsed =>
          obtain ⟨captured, captures, more⟩ := bind_eq_some_iff.mp started
          obtain ⟨⟨client, result⟩, initialised, last⟩ := bind_eq_some_iff.mp more
          have zero := (UvHandles.lanClientInit_eq_some initialised).2.2.2.2.2
          dsimp only at last
          split at last
          · next failed =>
              cases last
              refine .of_client idle hasRelay parsed captures initialised rfl ⟨rfl, rfl, rfl⟩ ?_
              refine iff_of_false failed fun succeeds => failed (zero.mpr ?_)
              exact (succeeds.1 hasRelay).2
          · next succeeded =>
              rw [not_not] at succeeded
              obtain ⟨handles, same, code⟩ := gatewayInit_eq (Option.some.inj last)
              refine .of_client idle hasRelay parsed captures initialised handles
                ⟨same.status, same.relay, same.starts⟩ ?_
              rw [code, InitCalls.Succeeds]
              simp [hasRelay, parsed, zero.mp succeeded, applyConfig, optionOf_eq_none]
      · next failed =>
          cases started
          rw [Bool.not_eq_true] at failed
          have nothing : calls.StartsNothing config := .inl ⟨hasRelay, failed⟩
          obtain ⟨lost, -, -⟩ := UvHandles.active_eq_nil_iff.mp idle
          refine ⟨⟨rfl, rfl, rfl⟩, ?_, lost, rfl, ?_, iff_of_true idle nothing,
            fun empty => absurd empty hasRelay⟩
          · refine iff_of_false (by decide) fun succeeds => ?_
            rw [(succeeds.1 hasRelay).1] at failed
            cases failed
          · change ∀ call ∈ lanPlay.handles.active, _
            rw [idle]
            exact forall_mem_nil _

end Start

-- Runs

section Runs

variable {lanPlay next : LanPlay} {config : LanPlayConfig} {calls : InitCalls} {ret : Int}

/-- Nothing runs unless the status says so, and a run without a relay has no handles of the relay
client. No handle was initialised while it was active.
-/
structure LanPlay.Tidy (lanPlay : LanPlay) : Prop where
  stopped : lanPlay.status = .none → lanPlay.handles.active = []
  lost : lanPlay.handles.lost = []
  noRelay : lanPlay.relayServerAddr = none → lanPlay.handles.clientHandles = []
  numbers : ∀ call ∈ lanPlay.handles.active, call ≤ lanPlay.starts
  reinitialised : lanPlay.handles.reinitialised = 0

theorem LanPlay.tidy_init : LanPlay.init.Tidy :=
  ⟨fun _ => rfl, rfl, fun _ => rfl, forall_mem_nil _, rfl⟩

/-- A start that was refused. -/
theorem LanPlay.start_running (running : lanPlay.status = .running)
    (started : lanPlay.start config calls = some (next, ret))
    : next = { lanPlay with lastError := utf8 "Already running" } := by
  unfold start at started
  rw [if_pos running] at started
  cases started
  rfl

/-- A start that was not refused. -/
theorem LanPlay.start_stopped (stopped : lanPlay.status = .none)
    (idle : lanPlay.handles.active = []) (started : lanPlay.start config calls = some (next, ret))
    : ∃ mid,
        StartedFrom lanPlay config calls mid ret
        ∧ next.handles = mid.handles
        ∧ next.relayServerAddr = mid.relayServerAddr
        ∧ next.starts = mid.starts
        ∧ (next.status = .none → ret ≠ 0) := by
  unfold start at started
  rw [stopped, if_neg nofun] at started
  obtain ⟨⟨mid, code⟩, init, ended⟩ := map_eq_some_iff.mp started
  have from_ := lanPlayInit_eq_some idle init
  dsimp only at ended
  split at ended
  · cases ended
    exact ⟨mid, from_, rfl, rfl, rfl, nofun⟩
  · next failed =>
      cases ended
      exact ⟨mid, from_, rfl, rfl, rfl, fun _ => failed⟩

/-- The start leaves things tidy if it succeeds or starts nothing. -/
theorem LanPlay.Tidy.start (tidy : lanPlay.Tidy) (stopped : lanPlay.status = .none)
    (started : lanPlay.start config calls = some (next, ret))
    (clean : calls.Succeeds config ∨ calls.StartsNothing config)
    : next.Tidy := by
  obtain ⟨mid, from_, handles, relay, starts, failed⟩ :=
    start_stopped stopped (tidy.stopped stopped) started
  refine ⟨fun none => ?_, handles ▸ from_.lost, fun none => ?_, fun call member => ?_, ?_⟩
  · rw [handles]
    refine from_.active_eq_nil.mpr (clean.resolve_left fun succeeds => ?_)
    exact failed none (from_.ret.mpr succeeds)
  · rw [handles]
    refine from_.noRelay (optionOf_eq_none.mp ?_)
    exact from_.same.relay.symm.trans (relay.symm.trans none)
  · rw [handles] at member
    rw [starts, from_.same.starts, from_.started call member]
  · rw [handles, from_.reinitialised, tidy.reinitialised]

theorem UvHandles.lanClientClose_eq {handles closed : UvHandles} {calls : CloseCalls}
    (ended : handles.lanClientClose calls = (closed, ret))
    : closed.lost = handles.lost
      ∧ closed.inner = handles.inner
      ∧ closed.reinitialised = handles.reinitialised
      ∧ closed.clientHandles.Sublist handles.clientHandles
      ∧ (ret = 0 → closed.clientHandles = []) := by
  unfold lanClientClose at ended
  dsimp only at ended
  split at ended
  · next failed =>
      cases ended
      exact ⟨rfl, rfl, rfl, .refl _, fun zero => absurd zero failed⟩
  · split at ended
    · next failed =>
        cases ended
        exact ⟨rfl, rfl, rfl, by simp [clientHandles], fun zero => absurd zero failed⟩
    · split at ended
      · next failed =>
          cases ended
          exact ⟨rfl, rfl, rfl, by simp [clientHandles],
            fun zero => absurd zero failed⟩
      · cases ended
        exact ⟨rfl, rfl, rfl, nil_sublist _, fun _ => rfl⟩

theorem LanPlay.lanPlayClose_eq {calls : CloseCalls}
    (ended : lanPlay.lanPlayClose calls = (next, ret))
    : next.SameCall lanPlay
      ∧ next.handles.lost = lanPlay.handles.lost
      ∧ next.handles.reinitialised = lanPlay.handles.reinitialised
      ∧ next.handles.active.Sublist lanPlay.handles.active
      ∧ next.handles.clientHandles.Sublist lanPlay.handles.clientHandles
      ∧ (ret = 0
        → next.handles.inner = []
          ∧ (lanPlay.relayServerAddr ≠ none → next.handles.clientHandles = [])) := by
  unfold lanPlayClose at ended
  dsimp only at ended
  split at ended
  · next none =>
      cases ended
      refine ⟨⟨rfl, rfl, rfl⟩, rfl, rfl, ?_, .refl _,
        fun _ => ⟨rfl, fun some_ => absurd none some_⟩⟩
      simp [UvHandles.active, UvHandles.clientHandles]
  · obtain ⟨handles, code, closes⟩ : ∃ handles code,
        UvHandles.lanClientClose { lanPlay.handles with inner := [] } calls = (handles, code) :=
      ⟨_, _, rfl⟩
    rw [closes] at ended
    cases ended
    obtain ⟨lost, inner, counter, client, zero⟩ := UvHandles.lanClientClose_eq closes
    refine ⟨⟨rfl, rfl, rfl⟩, lost, counter, ?_, client,
      fun success => ⟨inner, fun _ => zero success⟩⟩
    unfold UvHandles.active
    dsimp only at lost inner ⊢
    rw [lost, inner]
    exact ((List.Sublist.refl _).append (nil_sublist _)).append client

theorem LanPlay.Tidy.stop (tidy : lanPlay.Tidy) (calls : CloseCalls)
    : (lanPlay.stop calls).1.Tidy := by
  unfold LanPlay.stop
  split
  · exact ⟨tidy.stopped, tidy.lost, tidy.noRelay, tidy.numbers, tidy.reinitialised⟩
  · next running =>
      obtain ⟨closed, ret, ended⟩ : ∃ closed ret, lanPlay.lanPlayClose calls = (closed, ret) :=
        ⟨_, _, rfl⟩
      obtain ⟨same, lost, counter, active, client, zero⟩ := lanPlayClose_eq ended
      have noRelay : closed.relayServerAddr = none → closed.handles.clientHandles = [] := by
        intro none
        have empty := tidy.noRelay (same.relay ▸ none)
        rw [empty] at client
        exact sublist_nil.mp client
      have numbers : ∀ call ∈ closed.handles.active, call ≤ closed.starts := by
        intro call member
        rw [same.starts]
        exact tidy.numbers call (active.mem member)
      rw [ended]
      dsimp only
      split
      · next success =>
          obtain ⟨inner, closes⟩ := zero success
          refine ⟨fun _ => ?_, lost.trans tidy.lost, noRelay, numbers,
            counter.trans tidy.reinitialised⟩
          refine UvHandles.active_eq_nil_iff.mpr ⟨lost.trans tidy.lost, inner, ?_⟩
          by_cases none : lanPlay.relayServerAddr = none
          · exact noRelay (same.relay.trans none)
          · exact closes none
      · refine ⟨fun stopped => ?_, lost.trans tidy.lost, noRelay, numbers,
          counter.trans tidy.reinitialised⟩
        exact absurd (same.status.symm.trans stopped) running

/-- A start in the status `None` succeeds in all its calls or fails before it has started
anything.
-/
def LanPlayCall.KeepsTidy (lanPlay : LanPlay) : LanPlayCall → Prop
  | .start config calls =>
    lanPlay.status = .none → calls.Succeeds config ∨ calls.StartsNothing config
  | .stop _ => True

theorem LanPlay.Tidy.step (tidy : lanPlay.Tidy) {call : LanPlayCall}
    (guard : call.KeepsTidy lanPlay)
    (stepped : lanPlay.step call = some (next, ret))
    : next.Tidy := by
  cases call with
  | start config calls =>
    cases status : lanPlay.status with
    | none => exact tidy.start status stepped (guard status)
    | running =>
      rw [start_running status stepped]
      exact ⟨tidy.stopped, tidy.lost, tidy.noRelay, tidy.numbers, tidy.reinitialised⟩
  | stop calls =>
    have result : (lanPlay.stop calls).1 = next := congrArg Prod.fst (Option.some.inj stepped)
    exact result ▸ tidy.stop calls

/-- Every failed start leaves nothing running that it started, nothing is running while the status
is `None`, and no handle is initialised while it is active.
-/
structure FailedStartsClean (calls : List LanPlayCall) : Prop where
  nothingStarted
    : ∀ before config answers after lanPlay next ret,
        calls = before ++ .start config answers :: after
        → LanPlay.Reached before lanPlay
        → lanPlay.start config answers = some (next, ret)
        → ret ≠ 0
        → lanPlay.starts + 1 ∉ next.handles.active
  stopped
    : ∀ before after lanPlay,
        calls = before ++ after
        → LanPlay.Reached before lanPlay
        → lanPlay.status = .none
        → lanPlay.handles.active = []
  neverReinitialised
    : ∀ before after lanPlay,
        calls = before ++ after
        → LanPlay.Reached before lanPlay
        → lanPlay.handles.reinitialised = 0

/-- Failed starts are clean if and only if every start in the status `None` succeeds in all its
calls or fails before it has started anything: there is no way back from a later failure.
-/
theorem failed_starts_clean_iff {calls : List LanPlayCall} {final : LanPlay}
    (reached : LanPlay.Reached calls final)
    : FailedStartsClean calls
      ↔ ∀ before config answers after lanPlay,
          calls = before ++ .start config answers :: after
          → LanPlay.Reached before lanPlay
          → lanPlay.status = .none
          → answers.Succeeds config ∨ answers.StartsNothing config := by
  constructor
  · intro clean before config answers after lanPlay split earlier stopped
    rw [split] at reached
    obtain ⟨_, same, rest⟩ := Machine.failing_run_append_eq_some.mp reached
    cases earlier.symm.trans same
    obtain ⟨next, ret, started, -⟩ := Machine.failing_run_cons_eq_some.mp rest
    obtain ⟨mid, from_, handles, -⟩ :=
      LanPlay.start_stopped stopped (clean.stopped before _ lanPlay split earlier stopped) started
    by_cases succeeds : answers.Succeeds config
    · exact .inl succeeds
    · have failed : ret ≠ 0 := fun zero => succeeds (from_.ret.mp zero)
      have nothing := clean.nothingStarted before config answers after lanPlay next ret split
        earlier started failed
      rw [handles] at nothing
      refine .inr (from_.active_eq_nil.mp (List.eq_nil_iff_forall_not_mem.mpr ?_))
      intro call member
      exact nothing (from_.started call member ▸ member)
  · intro clean
    have tidy : ∀ before after lanPlay, calls = before ++ after
        → LanPlay.Reached before lanPlay → lanPlay.Tidy := by
      intro before after lanPlay split earlier
      refine Machine.failing_run_guarded LanPlay.Tidy (fun lanPlay call => call.KeepsTidy lanPlay)
        LanPlay.tidy_init
        (fun _ _ _ _ _ _ tidy guard stepped => tidy.step guard stepped) ?_ earlier
      intro front call rest front_split state reached
      cases call with
      | start config answers =>
        refine clean front config answers (rest ++ after) state ?_ reached
        rw [split, front_split, List.append_assoc, List.cons_append]
      | stop answers => trivial
    refine ⟨?_, fun before after lanPlay split earlier =>
      (tidy before after lanPlay split earlier).stopped, fun before after lanPlay split earlier =>
      (tidy before after lanPlay split earlier).reinitialised⟩
    intro before config answers after lanPlay next ret split earlier started failed member
    have before_tidy := tidy before _ lanPlay split earlier
    cases status : lanPlay.status with
    | running =>
      have old : lanPlay.starts + 1 ∈ lanPlay.handles.active := by
        rw [LanPlay.start_running status started] at member
        exact member
      exact absurd (before_tidy.numbers _ old) (by omega)
    | none =>
      obtain ⟨mid, from_, handles, -⟩ :=
        LanPlay.start_stopped status (before_tidy.stopped status) started
      have cases_ := clean before config answers after lanPlay split earlier status
      have nothing := cases_.resolve_left fun succeeds => failed (from_.ret.mpr succeeds)
      rw [handles, from_.active_eq_nil.mpr nothing] at member
      cases member

def relayAndProxy : LanPlayConfig := ⟨utf8 "1.2.3.4:11451", utf8 "proxy:1080", 0⟩

def answersOf (parseRelay parseSocks5 : Bool) : InitCalls :=
  ⟨parseRelay, true, [true, false], 0, 0, 0, parseSocks5⟩

def secondTry : List LanPlayCall :=
  [.start relayAndProxy (answersOf false true), .start relayAndProxy (answersOf true true)]

theorem failed_starts_clean_iff_secondTry
    : ∃ final,
        LanPlay.Reached secondTry final
        ∧ final.status = .running
        ∧ FailedStartsClean secondTry := by
  obtain ⟨final, reached, running⟩ : ∃ final,
      LanPlay.Reached secondTry final ∧ final.status = .running := ⟨_, rfl, rfl⟩
  refine ⟨final, reached, running, (failed_starts_clean_iff reached).mpr ?_⟩
  intro before config answers after lanPlay split _ _
  rcases before with _ | ⟨first, _ | ⟨second, more⟩⟩
  · cases split
    exact .inr (.inl (by decide))
  · cases split
    exact .inl ⟨fun _ => by decide, fun _ => rfl⟩
  · simp [secondTry] at split

/-- The proxy's address is not parsed: the start fails, and a capture, both timers and the socket
go on. The next start initialises three of them again and loses the capture.
-/
theorem failed_start_keeps_running
    : ∃ failed again,
        LanPlay.init.start relayAndProxy (answersOf true false) = some (failed, -1)
        ∧ failed.status = .none
        ∧ failed.handles = ⟨[1], [], some 1, some 1, some 1, 0⟩
        ∧ failed.start relayAndProxy (answersOf true true) = some (again, 0)
        ∧ again.handles = ⟨[2], [1], some 2, some 2, some 2, 3⟩ :=
  ⟨_, _, rfl, rfl, rfl, rfl, rfl⟩

end Runs

end SwitchLanPlay.Rpc
