import SwitchLanPlay.Foundation.Machine

/-! The LDN gate. The sysmodule polls the state that `ldn_mitm` publishes; two checks, before a
start and while the runtime lives, compare the last event and the tick of the last activity with
the clock.
-/

namespace SwitchLanPlay.Sysmodule

open List Option
open Foundation

variable {gate : LdnGate} {polls : List GatePoll}

def lanpGateMagic : UInt32 := 0x47504E4C

def lanpGateVersion : UInt32 := 1

def lanpGateTimeoutSeconds : UInt64 := 120

def lanpGateTicksPerSecond : UInt64 := 19200000

def lanpGateTimeoutTicks : UInt64 := lanpGateTicksPerSecond * lanpGateTimeoutSeconds

def lanpGateGraceTicks : UInt64 := lanpGateTicksPerSecond * 10

-- `lanp_gate_event_type_t`; the service may answer any 32 bits

def lanpGateEventNone : UInt32 := 0
def lanpGateEventScan : UInt32 := 1
def lanpGateEventHost : UInt32 := 2
def lanpGateEventConnect : UInt32 := 3
def lanpGateEventIdle : UInt32 := 4
def lanpGateEventFinalize : UInt32 := 5
def lanpGateEventPrepare : UInt32 := 6

/-- `lanp_gate_state_t`, as far as the gate reads or resets it. -/
structure LanpGateState where
  magic : UInt32
  version : UInt32
  eventType : UInt32
  active : UInt32
  lastEventTick : UInt64
deriving DecidableEq, Repr

def LanpGateState.isValid (state : LanpGateState) : Bool :=
  state.magic = lanpGateMagic && state.version = lanpGateVersion

/-- The events for which a poll notes the tick: all but `NONE` and `FINALIZE`. -/
def LanpGateState.isActivity (state : LanpGateState) : Bool :=
  state.eventType ≠ lanpGateEventNone && state.eventType ≠ lanpGateEventFinalize

structure LdnGate where
  gateState : LanpGateState
  mitmConnected : Bool
  eventHandle : Option UInt32
  lastActiveTick : UInt64
  finalizeTick : UInt64
deriving DecidableEq, Repr

def LdnGate.serviceInit (tick : UInt64) : LdnGate where
  gateState := {
    magic := lanpGateMagic
    version := lanpGateVersion
    eventType := lanpGateEventNone
    active := 0
    lastEventTick := tick
  }
  mitmConnected := false
  eventHandle := none
  lastActiveTick := 0
  finalizeTick := 0

/-- What the calls of one `ldn_gate_poll` answer: whether the session of the service manager and
the service are got, the handle of the event, the state, and the system tick.
-/
structure GatePoll where
  smInitialize : Bool
  smGetService : Bool
  getEvent : Option UInt32
  getState : Option LanpGateState
  tick : UInt64
deriving DecidableEq, Repr

structure Observation where
  state : LanpGateState
  tick : UInt64
deriving DecidableEq, Repr

def LdnGate.connect (gate : LdnGate) (poll : GatePoll) : Option LdnGate :=
  if gate.mitmConnected then some gate
  else if !poll.smInitialize then none
  else if !poll.smGetService then none
  else some { gate with mitmConnected := true, eventHandle := gate.eventHandle.or poll.getEvent }

def LdnGate.receive (gate : LdnGate) (state : LanpGateState) (tick : UInt64) : LdnGate :=
  {
    gate with
    gateState := state
    lastActiveTick := if state.isActivity then tick else gate.lastActiveTick
    finalizeTick :=
      if state.isActivity then 0
      else if state.eventType = lanpGateEventFinalize
          ∧ gate.gateState.eventType ≠ lanpGateEventFinalize then tick
      else gate.finalizeTick
  }

def LdnGate.poll (gate : LdnGate) (poll : GatePoll) : LdnGate × Option Observation :=
  match gate.connect poll with
  | none => (gate, none)
  | some gate =>
    match poll.getState with
    | none => ({ gate with mitmConnected := false }, none)
    | some state =>
      if state.isValid then (gate.receive state poll.tick, some ⟨state, poll.tick⟩)
      else (gate, none)

def LdnGate.isActive (gate : LdnGate) (now : UInt64) : Bool :=
  if !gate.gateState.isValid then false
  else if gate.gateState.eventType = lanpGateEventHost
      ∨ gate.gateState.eventType = lanpGateEventConnect then true
  else if gate.gateState.eventType = lanpGateEventFinalize then
    gate.finalizeTick ≠ 0 && now - gate.finalizeTick ≤ lanpGateGraceTicks
  else if gate.lastActiveTick = 0 then false
  else if lanpGateTimeoutTicks < now - gate.lastActiveTick then false
  else true

def LdnGate.isActiveForStart (gate : LdnGate) (now : UInt64) : Bool :=
  if !gate.gateState.isValid then false
  else if gate.gateState.eventType = lanpGateEventFinalize then false
  else if gate.lastActiveTick = 0 then false
  else if lanpGateTimeoutTicks < now - gate.lastActiveTick then false
  else true

def ldnGateMachine : Machine LdnGate GatePoll (Option Observation) := ⟨LdnGate.poll⟩

def LdnGate.after (gate : LdnGate) (polls : List GatePoll) : LdnGate :=
  ldnGateMachine.run gate polls

def LdnGate.observed (gate : LdnGate) (polls : List GatePoll) : List Observation :=
  (ldnGateMachine.outputs gate polls).reduceOption

def pollsUntil (polls : List GatePoll) (now : UInt64) : List GatePoll :=
  polls.takeWhile (fun poll => poll.tick ≤ now)

-- One poll

/-- Connecting touches neither the state nor the ticks. -/
theorem LdnGate.connect_eq_some {connected : LdnGate} {poll : GatePoll}
    (opened : gate.connect poll = some connected)
    : connected.gateState = gate.gateState ∧ connected.lastActiveTick = gate.lastActiveTick := by
  unfold connect at opened
  split_ifs at opened <;> cases opened <;> exact ⟨rfl, rfl⟩

/-- A poll that observes nothing keeps the state and the tick of the last activity; one that
observes a state takes it over.
-/
theorem LdnGate.poll_cases (gate : LdnGate) (poll : GatePoll)
    : ((gate.poll poll).2 = none
        ∧ (gate.poll poll).1.gateState = gate.gateState
        ∧ (gate.poll poll).1.lastActiveTick = gate.lastActiveTick)
      ∨ ∃ state,
          poll.getState = some state
          ∧ state.isValid
          ∧ (gate.poll poll).2 = some ⟨state, poll.tick⟩
          ∧ (gate.poll poll).1.gateState = state
          ∧ (gate.poll poll).1.lastActiveTick
            = if state.isActivity then poll.tick else gate.lastActiveTick := by
  unfold LdnGate.poll
  cases opened : gate.connect poll with
  | none => exact .inl ⟨rfl, rfl, rfl⟩
  | some connected =>
    obtain ⟨sameState, sameTick⟩ := connect_eq_some opened
    cases answer : poll.getState with
    | none => exact .inl ⟨rfl, sameState, sameTick⟩
    | some state =>
      cases valid : state.isValid with
      | false => exact .inl (by simp [valid, sameState, sameTick])
      | true => exact .inr ⟨state, by simp [valid, receive, sameTick]⟩

-- Polls one after the other

namespace LdnGate

theorem after_concat (gate : LdnGate) (polls : List GatePoll) (poll : GatePoll)
    : gate.after (polls ++ [poll]) = ((gate.after polls).poll poll).1 :=
  ldnGateMachine.run_concat gate polls poll

theorem observed_concat (gate : LdnGate) (polls : List GatePoll) (poll : GatePoll)
    : gate.observed (polls ++ [poll])
      = gate.observed polls ++ ((gate.after polls).poll poll).2.toList := by
  unfold observed
  rw [Machine.outputs_concat, reduceOption_append]
  congr 1

/-- The gate holds the state observed last. -/
theorem gateState_after (gate : LdnGate) (polls : List GatePoll)
    : (gate.after polls).gateState
      = ((gate.observed polls).getLast?.map Observation.state).getD gate.gateState := by
  induction polls using reverseRecOn with
  | nil => rfl
  | append_singleton polls poll ih =>
    rw [after_concat, observed_concat]
    rcases (gate.after polls).poll_cases poll with
      ⟨nothing, same, -⟩ | ⟨state, -, -, seen, new, -⟩
    · rw [nothing, same, ih, toList_none, append_nil]
    · rw [seen, new, toList_some, getLast?_concat]
      rfl

/-- The gate holds the tick of the activity observed last. -/
theorem lastActiveTick_after (gate : LdnGate) (polls : List GatePoll)
    : (gate.after polls).lastActiveTick
      = (((gate.observed polls).filter (·.state.isActivity)).getLast?.map Observation.tick).getD
          gate.lastActiveTick := by
  induction polls using reverseRecOn with
  | nil => rfl
  | append_singleton polls poll ih =>
    rw [after_concat, observed_concat]
    rcases (gate.after polls).poll_cases poll with
      ⟨nothing, -, same⟩ | ⟨state, -, -, seen, -, new⟩
    · rw [nothing, same, ih, toList_none, append_nil]
    · rw [seen, new, ih, toList_some, filter_append]
      cases activity : state.isActivity <;> simp [activity]

/-- What is observed is the valid answer of a poll. -/
theorem mem_observed {observation : Observation} (seen : observation ∈ gate.observed polls)
    : observation.state.isValid
      ∧ ∃ poll ∈ polls, poll.getState = some observation.state ∧ poll.tick = observation.tick := by
  obtain ⟨before, poll, after, rfl, answered⟩ :=
    (ldnGateMachine.mem_outputs_iff).mp (reduceOption_mem_iff.mp seen)
  rcases (ldnGateMachine.run gate before).poll_cases poll with
    ⟨nothing, -⟩ | ⟨state, answer, valid, same, -⟩
  · exact absurd (nothing.symm.trans answered) (some_ne_none _).symm
  · cases same.symm.trans answered
    exact ⟨valid, poll, by simp, answer, rfl⟩

theorem observed_cons (gate : LdnGate) (poll : GatePoll) (polls : List GatePoll)
    : gate.observed (poll :: polls)
      = (gate.poll poll).2.toList ++ (gate.poll poll).1.observed polls := by
  change ((gate.poll poll).2 :: ldnGateMachine.outputs (gate.poll poll).1 polls).reduceOption = _
  cases (gate.poll poll).2 <;> rfl

theorem observed_sublist (gate : LdnGate) (polls : List GatePoll)
    : ((gate.observed polls).map Observation.tick).Sublist (polls.map GatePoll.tick) := by
  induction polls generalizing gate with
  | nil => exact .slnil
  | cons poll polls ih =>
    rw [observed_cons, map_append, map_cons]
    rcases gate.poll_cases poll with ⟨nothing, -⟩ | ⟨state, -, -, seen, -⟩
    · rw [nothing]
      exact (ih _).cons _
    · rw [seen]
      exact (ih _).cons_cons _

/-- Up to a tick, what the polls up to that tick observe. -/
theorem observed_pollsUntil (gate : LdnGate)
    (chronological : (polls.map GatePoll.tick).Pairwise (· ≤ ·)) (now : UInt64)
    : gate.observed (pollsUntil polls now) = (gate.observed polls).filter (·.tick ≤ now) := by
  induction polls generalizing gate with
  | nil => rfl
  | cons poll polls ih =>
    rw [map_cons, pairwise_cons] at chronological
    by_cases early : poll.tick ≤ now
    · have taken : pollsUntil (poll :: polls) now = poll :: pollsUntil polls now := by
        simp [pollsUntil, early]
      rw [taken, observed_cons, observed_cons, filter_append,
        ih _ chronological.2]
      rcases gate.poll_cases poll with ⟨nothing, -⟩ | ⟨state, -, -, seen, -⟩
      · rw [nothing]
        rfl
      · simp [seen, early]
    · have taken : pollsUntil (poll :: polls) now = [] := by simp [pollsUntil, early]
      rw [taken]
      refine (filter_eq_nil_iff.mpr ?_).symm
      intro observation seen
      obtain ⟨-, other, member, -, same⟩ := mem_observed seen
      rcases mem_cons.mp member with rfl | behind
      · simpa [← same] using early
      · have order := chronological.1 _ (mem_map_of_mem behind)
        rw [← same]
        simpa using fun soon => early (UInt64.le_trans order soon)

end LdnGate

-- The timeout

def LanpGateState.IsScanPhase (state : LanpGateState) : Prop :=
  state.eventType = lanpGateEventScan
  ∨ state.eventType = lanpGateEventPrepare
  ∨ state.eventType = lanpGateEventIdle

instance (state : LanpGateState) : Decidable state.IsScanPhase := by
  unfold LanpGateState.IsScanPhase
  infer_instance

theorem LanpGateState.IsScanPhase.isActivity {state : LanpGateState} (scanning : state.IsScanPhase)
    : state.isActivity := by
  rcases scanning with event | event | event <;> simp [LanpGateState.isActivity, event] <;> decide

/-- The age of a tick that is not later than `now`. -/
theorem timeout_lt_sub_iff {now tick : UInt64} (past : tick ≤ now)
    : lanpGateTimeoutTicks < now - tick
      ↔ lanpGateTimeoutTicks.toNat < now.toNat - tick.toNat := by
  rw [UInt64.lt_iff_toNat_lt, UInt64.toNat_sub_of_le _ _ past]

/-- In a scan phase only the tick of the last activity counts. -/
theorem LdnGate.isActive_eq_false_iff (valid : gate.gateState.isValid)
    (scanning : gate.gateState.IsScanPhase) (now : UInt64)
    : gate.isActive now = false
      ↔ gate.lastActiveTick = 0 ∨ lanpGateTimeoutTicks < now - gate.lastActiveTick := by
  unfold isActive
  rcases scanning with event | event | event <;>
    simp [valid, event, lanpGateEventScan, lanpGateEventPrepare, lanpGateEventIdle,
      lanpGateEventHost, lanpGateEventConnect, lanpGateEventFinalize, or_iff_not_imp_left]

/-- In chronological order the last observation is the latest. -/
theorem tick_le_of_getLast? {observations : List Observation}
    (chronological : (observations.map Observation.tick).Pairwise (· ≤ ·)) {last : Observation}
    (latest : observations.getLast? = some last) {observation : Observation}
    (member : observation ∈ observations)
    : observation.tick ≤ last.tick := by
  obtain ⟨front, rfl⟩ := getLast?_eq_some_iff.mp latest
  rw [map_append, pairwise_append] at chronological
  rcases mem_append.mp member with before | here
  · exact chronological.2.2 _ (mem_map_of_mem before) _ (by simp)
  · rw [mem_singleton.mp here]
    exact UInt64.le_refl _

/-- While polls observe one state of a scan phase, the check at `now` is about the latest
observation up to `now`.
-/
theorem LdnGate.isActive_after_pollsUntil {published : LanpGateState}
    (scanning : published.IsScanPhase)
    (unchanged : ∀ observation ∈ gate.observed polls, observation.state = published)
    (chronological : (polls.map GatePoll.tick).Pairwise (· ≤ ·)) {first : Observation}
    (seen : first ∈ gate.observed polls) {now : UInt64} (past : first.tick ≤ now)
    : ∃ last ∈ gate.observed polls,
        last.tick ≤ now
        ∧ (∀ observation ∈ gate.observed polls,
            observation.tick ≤ now → observation.tick ≤ last.tick)
        ∧ ((gate.after (pollsUntil polls now)).isActive now = false
          ↔ last.tick = 0 ∨ lanpGateTimeoutTicks.toNat < now.toNat - last.tick.toNat) := by
  have order : ((gate.observed polls).map Observation.tick).Pairwise (· ≤ ·) :=
    chronological.sublist (gate.observed_sublist polls)
  have taken := gate.observed_pollsUntil chronological now
  have firstTaken : first ∈ (gate.observed polls).filter (·.tick ≤ now) :=
    mem_filter.mpr ⟨seen, decide_eq_true past⟩
  obtain ⟨last, latest⟩
      : ∃ last, ((gate.observed polls).filter (·.tick ≤ now)).getLast? = some last :=
    ⟨_, getLast?_eq_some_getLast (ne_nil_of_mem firstTaken)⟩
  obtain ⟨member, before⟩ := mem_filter.mp (mem_of_getLast? latest)
  have before : last.tick ≤ now := of_decide_eq_true before
  have state : (gate.after (pollsUntil polls now)).gateState = published := by
    rw [gateState_after, taken, latest]
    exact unchanged last member
  have tick : (gate.after (pollsUntil polls now)).lastActiveTick = last.tick := by
    have all : ∀ observation ∈ (gate.observed polls).filter (·.tick ≤ now),
        observation.state.isActivity := by
      intro observation inside
      rw [unchanged observation (mem_of_mem_filter inside)]
      exact scanning.isActivity
    rw [lastActiveTick_after, taken, filter_eq_self.mpr all, latest]
    rfl
  have valid : (gate.after (pollsUntil polls now)).gateState.isValid := by
    rw [state, ← unchanged last member]
    exact (mem_observed member).1
  refine ⟨last, member, before, ?_, ?_⟩
  · intro observation other soon
    refine tick_le_of_getLast? (order.sublist (filter_sublist.map _)) latest ?_
    exact mem_filter.mpr ⟨other, decide_eq_true soon⟩
  · rw [isActive_eq_false_iff valid (state ▸ scanning), tick, timeout_lt_sub_iff before]

/-- The gate times out behind the poll that first observed the event if and only if no later poll
observes the event again: each such poll stamps the activity anew. The right side also holds when
no tick is left behind the timeout.
-/
theorem gate_times_out_iff {gate : LdnGate} {polls : List GatePoll} {published : LanpGateState}
    {first : Observation} {later : List Observation} (scanning : published.IsScanPhase)
    (unchanged : ∀ poll ∈ polls, ∀ state, poll.getState = some state → state = published)
    (chronological : (polls.map GatePoll.tick).Pairwise (· ≤ ·))
    (observed : gate.observed polls = first :: later)
    : (∀ now : UInt64,
        lanpGateTimeoutTicks.toNat < now.toNat - first.tick.toNat
        → (gate.after (pollsUntil polls now)).isActive now = false)
      ↔ (∀ observation ∈ later, observation.tick = first.tick)
        ∨ 2 ^ 64 ≤ first.tick.toNat + lanpGateTimeoutTicks.toNat + 1 := by
  have same : ∀ observation ∈ gate.observed polls, observation.state = published := by
    intro observation seen
    obtain ⟨-, poll, member, answer, -⟩ := LdnGate.mem_observed seen
    exact unchanged poll member _ answer
  have order : ((first :: later).map Observation.tick).Pairwise (· ≤ ·) :=
    observed ▸ chronological.sublist (gate.observed_sublist polls)
  have checked : ∀ now : UInt64, first.tick ≤ now → _ := fun now past =>
    LdnGate.isActive_after_pollsUntil scanning same chronological
      (observed ▸ List.mem_cons_self) past
  rw [observed] at checked
  constructor
  · intro always
    by_contra broken
    rw [not_or, Nat.not_le] at broken
    obtain ⟨again, fits⟩ := broken
    push Not at again
    obtain ⟨again, behind, different⟩ := again
    have afterFirst : first.tick.toNat < again.tick.toNat := by
      have notBefore := (List.pairwise_cons.mp order).1 _ (List.mem_map_of_mem behind)
      rw [UInt64.le_iff_toNat_le] at notBefore
      exact Nat.lt_of_le_of_ne notBefore (fun equal => different (UInt64.toNat_inj.mp equal).symm)
    -- the first moment behind the timeout at which `again` is already observed
    have representable : max again.tick.toNat (first.tick.toNat + lanpGateTimeoutTicks.toNat + 1)
        < 2 ^ 64 := max_lt again.tick.toNat_lt fits
    obtain ⟨now, moment⟩ : ∃ now : UInt64,
        now.toNat = max again.tick.toNat (first.tick.toNat + lanpGateTimeoutTicks.toNat + 1) :=
      ⟨.ofNat _, UInt64.toNat_ofNat_of_lt representable⟩
    obtain ⟨last, -, before, latest, inactive⟩ :=
      checked now (UInt64.le_iff_toNat_le.mpr (by omega))
    have notBefore := latest again (List.mem_cons_of_mem _ behind)
      (UInt64.le_iff_toNat_le.mpr (by omega))
    rw [UInt64.le_iff_toNat_le] at notBefore before
    rcases inactive.mp (always now (by omega)) with zero | expired
    · have : last.tick.toNat = 0 := by rw [zero]; rfl
      omega
    · omega
  · rintro (once | tooLate) now late
    · obtain ⟨last, member, -, -, inactive⟩ := checked now (UInt64.le_iff_toNat_le.mpr (by omega))
      have tick : last.tick = first.tick := by
        rcases List.mem_cons.mp member with rfl | behind
        · rfl
        · exact once last behind
      rw [inactive, tick]
      exact .inr late
    · have := now.toNat_lt
      omega

def stateOf (eventType : UInt32) : LanpGateState where
  magic := lanpGateMagic
  version := lanpGateVersion
  eventType := eventType
  active := 1
  lastEventTick := 7

def pollOf (eventType : UInt32) (tick : UInt64) : GatePoll :=
  ⟨true, true, none, some (stateOf eventType), tick⟩

theorem gate_times_out_iff_polledOnce
    : (LdnGate.serviceInit 1).observed [pollOf lanpGateEventScan 5]
        = [⟨stateOf lanpGateEventScan, 5⟩]
      ∧ ∀ now : UInt64,
          lanpGateTimeoutTicks.toNat < now.toNat - (5 : UInt64).toNat
          → ((LdnGate.serviceInit 1).after
              (pollsUntil [pollOf lanpGateEventScan 5] now)).isActive now = false := by
  have observed : (LdnGate.serviceInit 1).observed [pollOf lanpGateEventScan 5]
      = [⟨stateOf lanpGateEventScan, 5⟩] := by decide
  have unchanged : ∀ poll ∈ [pollOf lanpGateEventScan 5], ∀ state,
      poll.getState = some state → state = stateOf lanpGateEventScan := by decide
  exact ⟨observed,
    (gate_times_out_iff (.inl rfl) unchanged (List.pairwise_singleton _ _) observed).mpr
      (.inl (List.forall_mem_nil _))⟩

/-- A scan that is published once and polled again after two minutes: the gate stays active longer
than the timeout.
-/
theorem repeated_polls_keep_gate_active
    : lanpGateTimeoutTicks.toNat < (lanpGateTimeoutTicks + 6).toNat - (5 : UInt64).toNat
      ∧ ((LdnGate.serviceInit 1).after
          (pollsUntil
            [pollOf lanpGateEventScan 5, pollOf lanpGateEventScan (lanpGateTimeoutTicks + 5)]
            (lanpGateTimeoutTicks + 6))).isActive (lanpGateTimeoutTicks + 6) = true := by
  decide

-- The check before a start

def LanpGateState.IsNewActivity (state : LanpGateState) : Prop :=
  state.eventType = lanpGateEventPrepare
  ∨ state.eventType = lanpGateEventScan
  ∨ state.eventType = lanpGateEventHost
  ∨ state.eventType = lanpGateEventConnect
  ∨ state.eventType = lanpGateEventIdle

instance (state : LanpGateState) : Decidable state.IsNewActivity := by
  unfold LanpGateState.IsNewActivity
  infer_instance

def LanpGateState.isUnknown (state : LanpGateState) : Bool := lanpGateEventPrepare < state.eventType

/-- Without new activity only unknown events count as activity. -/
theorem LanpGateState.isActivity_eq_isUnknown {state : LanpGateState}
    (quiet : ¬ state.IsNewActivity)
    : state.isActivity = state.isUnknown := by
  rw [Bool.eq_iff_iff]
  unfold LanpGateState.IsNewActivity at quiet
  simp only [isActivity, isUnknown, Bool.and_eq_true,
    decide_eq_true_iff, ne_eq, UInt32.lt_iff_toNat_lt, ← UInt32.toNat_inj] at quiet ⊢
  simp only [lanpGateEventPrepare, lanpGateEventScan, lanpGateEventHost, lanpGateEventConnect,
    lanpGateEventIdle, lanpGateEventNone, lanpGateEventFinalize, UInt32.toNat_ofNat] at quiet ⊢
  omega

/-- The tick of the last unknown event that was observed; without one, the tick of the last
activity before the polls.
-/
def LdnGate.lastUnknownTick (gate : LdnGate) (polls : List GatePoll) : UInt64 :=
  (((gate.observed polls).filter (·.state.isUnknown)).getLast?.map Observation.tick).getD
    gate.lastActiveTick

theorem LdnGate.isActiveForStart_eq_false_iff (valid : gate.gateState.isValid) (now : UInt64)
    : gate.isActiveForStart now = false
      ↔ gate.gateState.eventType = lanpGateEventFinalize
        ∨ gate.lastActiveTick = 0
        ∨ lanpGateTimeoutTicks < now - gate.lastActiveTick := by
  unfold isActiveForStart
  simp [valid, or_iff_not_imp_left]

/-- A valid state stays valid. -/
theorem LdnGate.isValid_after (valid : gate.gateState.isValid) (polls : List GatePoll)
    : (gate.after polls).gateState.isValid := by
  rw [gateState_after]
  cases latest : (gate.observed polls).getLast? with
  | none => exact valid
  | some last => exact (mem_observed (mem_of_getLast? latest)).1

/-- Behind `FINALIZE` and without new activity the start stays blocked if and only if the state
observed last is `FINALIZE`, or the last activity is too old: `FINALIZE` does not clear its tick.
-/
theorem start_stays_blocked_iff {gate : LdnGate} (valid : gate.gateState.isValid)
    (finalized : gate.gateState.eventType = lanpGateEventFinalize) {polls : List GatePoll}
    (quiet : ∀ observation ∈ gate.observed polls, ¬ observation.state.IsNewActivity) (now : UInt64)
    : (gate.after polls).isActiveForStart now = false
      ↔ (∀ last,
          (gate.observed polls).getLast? = some last
          → last.state.eventType = lanpGateEventFinalize)
        ∨ gate.lastUnknownTick polls = 0
        ∨ lanpGateTimeoutTicks < now - gate.lastUnknownTick polls := by
  have unknown : (gate.observed polls).filter (·.state.isActivity)
      = (gate.observed polls).filter (·.state.isUnknown) :=
    List.filter_congr fun observation seen =>
      LanpGateState.isActivity_eq_isUnknown (quiet observation seen)
  have event : (gate.after polls).gateState.eventType = lanpGateEventFinalize
      ↔ ∀ last, (gate.observed polls).getLast? = some last
        → last.state.eventType = lanpGateEventFinalize := by
    rw [LdnGate.gateState_after]
    cases (gate.observed polls).getLast? with
    | none => simp [finalized]
    | some last => simp
  rw [LdnGate.isActiveForStart_eq_false_iff (LdnGate.isValid_after valid polls), event,
    LdnGate.lastActiveTick_after, unknown]
  rfl

def leftGame : LdnGate :=
  (LdnGate.serviceInit 1).after
    [pollOf lanpGateEventScan 100, pollOf lanpGateEventFinalize 200]

theorem start_stays_blocked_iff_leftGame
    : leftGame.gateState.eventType = lanpGateEventFinalize
      ∧ (leftGame.after [pollOf lanpGateEventFinalize 300]).isActiveForStart 301 = false :=
  ⟨by decide,
    (start_stays_blocked_iff (by decide) (by decide) (by decide) 301).mpr (.inl (by decide))⟩

/-- `ldn_mitm` is restarted and shows `NONE`: the old scan starts the runtime. -/
theorem none_unblocks_start
    : leftGame.gateState.isValid
      ∧ leftGame.gateState.eventType = lanpGateEventFinalize
      ∧ leftGame.isActiveForStart 201 = false
      ∧ (∀ observation ∈ leftGame.observed [pollOf lanpGateEventNone 300],
          ¬ observation.state.IsNewActivity)
      ∧ (leftGame.after [pollOf lanpGateEventNone 300]).isActiveForStart 301 = true := by
  decide

end SwitchLanPlay.Sysmodule
