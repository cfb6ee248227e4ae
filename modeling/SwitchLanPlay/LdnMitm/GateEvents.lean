import SwitchLanPlay.LdnMitm.Lifecycle
import SwitchLanPlay.LdnMitm.NetworkProfile

/-! The event that the gate shows and the role of the service. The runtime of the sysmodule lives
on without a timeout while the last event is that of a host or of a connected station.
-/

namespace SwitchLanPlay.LdnMitm

open Option
open Foundation

variable {event : LanEvent} {service : ICommunicationService} {lan : LANDiscovery}

def published (current : LanPlayGateEvent) (changes : List (CommState × CommState))
    : LanPlayGateEvent :=
  changes.foldl
    (fun current change =>
      if gateEventForStateTransition change.1 change.2 = .none then current
      else gateEventForStateTransition change.1 change.2)
    current

namespace ICommunicationService

@[simp] theorem gate_notifyGate (service : ICommunicationService)
    (eventType : LanPlayGateEvent) (intent : Nat × Nat)
    : (service.notifyGate eventType intent).gate.eventType = eventType := rfl

theorem gate_onLanStateChanged (service : ICommunicationService)
    (previous next : CommState) (info : Option NetworkInfo)
    : (service.onLanStateChanged previous next info).gate.eventType
      = published service.gate.eventType [(previous, next)] := by
  unfold onLanStateChanged published
  simp only [List.foldl_cons, List.foldl_nil]
  split
  · rfl
  · cases info <;> split <;> split <;> rfl

/-- The callbacks publish the changes of state. -/
theorem gate_foldl_onEffect (service : ICommunicationService)
    (effects : List Effect)
    : (effects.foldl ICommunicationService.onEffect service).gate.eventType
      = published service.gate.eventType (effects.filterMap Effect.change?) := by
  induction effects generalizing service with
  | nil => rfl
  | cons effect effects ih =>
    rw [List.foldl_cons, ih]
    cases effect with
    | stateChange previous next info =>
      simp only [onEffect,
        gate_onLanStateChanged, Effect.change?, List.filterMap_cons]
      rfl
    | _ => rfl

theorem gate_enter (service : ICommunicationService) (event : LanEvent)
    : (service.enter event).gate = service.gate := by
  unfold enter
  split
  · split
    · rfl
    · unfold enterCall
      split <;> rfl
  · rfl

/-- Only a successful `Initialize` or `Scan` publishes an event of its own. -/
theorem leaveCall_cases (service : ICommunicationService) (event : LanEvent)
    (answer : Answer)
    : service.leaveCall event answer = service
      ∨ (∃ processId calls, event = .call (.initializeLan processId calls) ∧ answer = .code 0)
      ∨ ∃ infos, answer = .networks infos := by
  unfold leaveCall
  split
  · split
    · rename_i succeeded
      rw [succeeded]
      exact .inr (.inl ⟨_, _, rfl, rfl⟩)
    · exact .inl rfl
  · exact .inr (.inr ⟨_, rfl⟩)
  · exact .inl rfl

/-- A step of the service is a step of its discovery, published, with an event of its own last. -/
theorem step_eq_some {next : ICommunicationService} {answer : Answer}
    (stepped : service.step event = some (next, answer))
    : service.lanDiscovery.step event = some (next.lanDiscovery, answer)
      ∧ ∃ told : ICommunicationService,
          told.gate.eventType = published service.gate.eventType next.lanDiscovery.view.changes
          ∧ next = told.leaveCall event answer := by
  obtain ⟨⟨lan, answer⟩, outcome, same⟩ := map_eq_some_iff.mp stepped
  simp only [Prod.mk.injEq] at same
  obtain ⟨rfl, rfl⟩ := same
  simp only [lanDiscovery_leaveCall,
    lanDiscovery_foldl_onEffect]
  refine ⟨outcome, _, ?_, rfl⟩
  rw [gate_foldl_onEffect]
  simp only [gate_enter]
  rfl

end ICommunicationService

-- Roles

def CommState.IsRole (state : CommState) : Prop :=
  state = .accessPointCreated ∨ state = .stationConnected

def ICommunicationService.ShowsRole (service : ICommunicationService) : Prop :=
  (service.lanDiscovery.state = .accessPointCreated → service.gate.eventType = .host)
  ∧ (service.lanDiscovery.state = .stationConnected → service.gate.eventType = .connect)

/-- Any other event than those of the two roles hides a role. -/
theorem ICommunicationService.not_showsRole (isRole : service.lanDiscovery.state.IsRole)
    (other : service.gate.eventType ≠ .host ∧ service.gate.eventType ≠ .connect)
    : ¬ service.ShowsRole := by
  intro role
  rcases isRole with hosting | connected
  · exact other.1 (role.1 hosting)
  · exact other.2 (role.2 connected)

theorem ICommunicationService.showsRole_of_not_isRole (other : ¬ service.lanDiscovery.state.IsRole)
    : service.ShowsRole :=
  ⟨fun hosting => absurd (.inl hosting) other, fun connected => absurd (.inr connected) other⟩

/-- The event publishes an event of its own over a role: an `Initialize` of an initialised
service, or the end of a scan.
-/
def LANDiscovery.Republishes (lan : LANDiscovery) (event : LanEvent) : Prop :=
  lan.state.IsRole
  ∧ match event with
    | .call (.initializeLan _ _) => lan.pending = none ∧ lan.initialized = true
    | .resume _ => lan.pending.any Pending.isScan = true
    | _ => False

/-- A step tells the change of state it makes. -/
theorem View.Moves.changes {view next : View} (moves : view.begun.Moves event next)
    : next.changes
      = if view.state ≠ next.state ∧ next.isReady then [(view.state, next.state)] else [] := by
  have unchanged {after : View} (state : after.state = view.state) (changes : after.changes = [])
      : after.changes
        = if view.state ≠ after.state ∧ after.isReady then [(view.state, after.state)] else [] := by
    rw [if_neg (fun changed => changed.1 state.symm), changes]
  cases moves with
  | stay | prepare | draft | advertise | link | list | scan | resume => exact unchanged rfl rfl
  | start | stop | halt | enter | destroy | disconnect | host | sync | lostHost | lostSignal =>
    exact List.nil_append _

/-- Whoever takes up a role has the callbacks set. -/
theorem View.Moves.ready_of_role {view next : View} (sound : view.Sound)
    (moves : view.begun.Moves event next) (role : next.state.IsRole)
    (changed : view.state ≠ next.state)
    : next.isReady := by
  cases moves with
  | stay | prepare | draft | advertise | link | list | scan | resume => exact absurd rfl changed
  | start | stop | halt | destroy | disconnect | lostHost | lostSignal =>
    rcases role with role | role <;> cases role
  | enter _ idle => rcases idle with rfl | rfl | rfl <;> rcases role with role | role <;> cases role
  | host _ ready => exact ready
  | sync initialized => exact sound.ready initialized

/-- What the callbacks publish shows the role. -/
theorem published_role {next : LANDiscovery} (shows_ : service.ShowsRole)
    (sound : service.lanDiscovery.view.Sound)
    (moves : service.lanDiscovery.view.begun.Moves event next.view)
    : (next.state = .accessPointCreated
        → published service.gate.eventType next.view.changes = .host)
      ∧ (next.state = .stationConnected
        → published service.gate.eventType next.view.changes = .connect) := by
  rw [moves.changes]
  by_cases changed : service.lanDiscovery.state = next.state
  · have silent : ¬ (service.lanDiscovery.view.state ≠ next.view.state ∧ next.view.isReady) :=
      fun told => told.1 changed
    rw [if_neg silent, ← changed]
    exact shows_
  · have told (role : next.state.IsRole)
        : service.lanDiscovery.view.state ≠ next.view.state ∧ next.view.isReady :=
      ⟨changed, moves.ready_of_role sound role changed⟩
    constructor
    · intro hosting
      rw [if_pos (told (.inl hosting))]
      simp [published, LANDiscovery.view, hosting, gateEventForStateTransition]
    · intro connected
      rw [if_pos (told (.inr connected))]
      simp [published, LANDiscovery.view, connected, gateEventForStateTransition]

-- Events of calls

/-- Only the end of a scan returns networks. -/
theorem LANDiscovery.handle_ne_networks {next : LANDiscovery} {call : Call}
    {infos : List NetworkInfo}
    : lan.handle call ≠ some (next, .networks infos) := by
  have coded {result : Option (LANDiscovery × Nat)}
      : result.bind answer ≠ some (next, .networks infos) := by
    cases result <;> simp [answer]
  have later (outcome : LANDiscovery × Nat) : answerLater outcome ≠ (next, .networks infos) := by
    unfold answerLater
    split <;> simp
  cases call with
  | createNetwork | setAdvertiseData => exact coded
  | scan filter count sent =>
    intro handled
    obtain ⟨outcome, _, same⟩ := map_eq_some_iff.mp handled
    exact later outcome same
  | connect => exact fun handled => later _ (Option.some.inj handled)
  | _ => simp [handle, answer]

theorem LANDiscovery.step_networks {next : LANDiscovery} {infos : List NetworkInfo}
    (stepped : lan.step event = some (next, .networks infos))
    : ∃ order,
        event = .resume order
        ∧ lan.pending.any Pending.isScan = true
        ∧ next.state = lan.state := by
  cases event with
  | call call =>
    simp only [LANDiscovery.step] at stepped
    split at stepped
    · cases stepped
    · exact absurd stepped handle_ne_networks
  | resume order =>
    simp only [LANDiscovery.step, LANDiscovery.resume] at stepped
    split at stepped
    · cases stepped
    · rename_i waiting
      obtain ⟨outcome, finished, same⟩ := map_eq_some_iff.mp stepped
      obtain ⟨udp, _, rfl⟩ := map_eq_some_iff.mp finished
      cases same
      exact ⟨order, rfl, by simp [waiting, Pending.isScan], rfl⟩
    · cases stepped
    · cases stepped
  | poll descriptor readiness =>
    obtain ⟨next, _, same⟩ := map_eq_some_iff.mp stepped
    cases same

/-- A scan ends with its results, in the state it finds. -/
theorem LANDiscovery.step_resume_scan (order : MapOrder) (sound : lan.view.Sound)
    (scanning : lan.pending.any Pending.isScan = true)
    : ∃ next infos, lan.step (.resume order) = some (next, .networks infos) := by
  obtain ⟨udp, opened⟩ := isSome_iff_exists.mp (sound.socket scanning)
  obtain ⟨pending, waiting, isScan⟩ := any_eq_true _ _ |>.mp scanning
  cases pending with
  | scan filter count =>
    simp only [LANDiscovery.step, resume, waiting, finishScan, opened,
      map_some]
    exact ⟨_, _, rfl⟩
  | _ => cases isScan

theorem LANDiscovery.step_initialize {next : LANDiscovery} {processId : Nat}
    {calls : InitializeCalls}
    (stepped : lan.step (.call (.initializeLan processId calls)) = some (next, .code 0))
    : next.state = .initialized
      ∨ (lan.pending = none ∧ lan.initialized = true) ∧ next.state = lan.state := by
  simp only [LANDiscovery.step] at stepped
  split at stepped
  · cases stepped
  · rename_i idle
    simp only [handle, answer, Option.some.injEq, Prod.mk.injEq,
      Answer.code.injEq] at stepped
    obtain ⟨rfl, succeeded⟩ := stepped
    by_cases initialized : lan.initialized = true
    · refine .inr ⟨⟨by simpa using idle, initialized⟩, ?_⟩
      rw [initializeLan, if_pos initialized]
    · rw [Bool.not_eq_true] at initialized
      have attempt := initializeLan_attempt { lan with effects := [] } calls initialized
      exact .inl (attempt.state (attempt.code.mp succeeded))

/-- One step keeps the role on show exactly when it publishes nothing over it. -/
theorem ICommunicationService.step_showsRole_iff (sound : service.lanDiscovery.view.Sound)
    (role : service.ShowsRole)
    : (∀ next answer, service.step event = some (next, answer) → next.ShowsRole)
      ↔ ¬ service.lanDiscovery.Republishes event := by
  constructor
  · rintro kept ⟨isRole, republishes⟩
    have hidden {lan : LANDiscovery} {answer : Answer}
        (outcome : service.lanDiscovery.step event = some (lan, answer))
        (state : lan.state = service.lanDiscovery.state) (own : LanPlayGateEvent)
        (last
          : ∀ told : ICommunicationService, (told.leaveCall event answer).gate.eventType = own)
        (other : own ≠ .host ∧ own ≠ .connect)
        : False := by
      obtain ⟨next, stepped⟩ : ∃ next, service.step event = some (next, answer) :=
        ⟨_, by rw [ICommunicationService.step, outcome]; rfl⟩
      obtain ⟨inside, told, _, same⟩ := step_eq_some stepped
      rw [outcome, Option.some.injEq, Prod.mk.injEq] at inside
      refine not_showsRole ?_ ?_ (kept next answer stepped)
      · rw [← inside.1, state]
        exact isRole
      · rw [same, last told]
        exact other
    cases event with
    | call call =>
      cases call with
      | initializeLan processId calls =>
        obtain ⟨idle, initialized⟩ := republishes
        have outcome
            : service.lanDiscovery.step (.call (.initializeLan processId calls))
              = some ({ service.lanDiscovery with effects := [] }, .code 0) := by
          simp [LANDiscovery.step, idle, LANDiscovery.handle, LANDiscovery.answer,
            LANDiscovery.initializeLan, initialized]
        exact hidden outcome rfl .prepare (fun _ => rfl) (by decide)
      | _ => exact republishes.elim
    | resume order =>
      obtain ⟨next, infos, outcome⟩ := LANDiscovery.step_resume_scan order sound republishes
      obtain ⟨_, _, _, state⟩ := LANDiscovery.step_networks outcome
      exact hidden outcome state .scan (fun _ => rfl) (by decide)
    | poll descriptor readiness => exact republishes.elim
  · intro silent next answer stepped
    obtain ⟨outcome, told, shown, rfl⟩ := step_eq_some stepped
    rcases told.leaveCall_cases event answer with
      unchanged | ⟨processId, calls, rfl, rfl⟩ | ⟨infos, rfl⟩
    · rw [unchanged] at outcome shown ⊢
      have published := published_role role sound (LANDiscovery.step_moves outcome)
      rw [← shown] at published
      exact published
    · refine showsRole_of_not_isRole ?_
      intro isRole
      rcases LANDiscovery.step_initialize outcome with state | ⟨idle, state⟩
      · rw [state] at isRole
        rcases isRole with isRole | isRole <;> cases isRole
      · rw [state] at isRole
        exact silent ⟨isRole, idle⟩
    · refine showsRole_of_not_isRole ?_
      intro isRole
      obtain ⟨order, rfl, scanning, state⟩ := LANDiscovery.step_networks outcome
      rw [state] at isRole
      exact silent ⟨isRole, scanning⟩

/-- The event on show is that of the role, at every boundary of calls and events, if and only if
nobody initialises the service again or finishes a scan while it has a role. Witness: what the
callbacks publish shows the role, and only these two calls publish an event of their own.
-/
theorem communication_showsRole_iff (nodeChanges nodeLastStates : Fin nodeCountMax → UInt8)
    (originalMtu profileMtu : Nat) (history : List LanEvent)
    : (∀ before after,
        history = before ++ after
        → ∀ service,
            communication.run
                (some (.fresh (.fresh nodeChanges nodeLastStates originalMtu profileMtu))) before
              = some service
            → (service.lanDiscovery.state = .accessPointCreated → service.gate.eventType = .host)
              ∧ (service.lanDiscovery.state = .stationConnected
                → service.gate.eventType = .connect))
      ↔ ∀ before event after,
          history = before ++ event :: after
          → ∀ service,
              communication.run
                  (some (.fresh (.fresh nodeChanges nodeLastStates originalMtu profileMtu))) before
                = some service
              → ¬ service.lanDiscovery.Republishes event := by
  refine Machine.failing_fronts_iff ICommunicationService.step .none
    (.fresh (.fresh nodeChanges nodeLastStates originalMtu profileMtu))
    ICommunicationService.ShowsRole
    (fun service event => ¬ service.lanDiscovery.Republishes event) ⟨nofun, nofun⟩ ?_ history
  intro before service event reached role
  have fresh := LANDiscovery.fresh_sound nodeChanges nodeLastStates originalMtu profileMtu
  have sound : service.lanDiscovery.view.Sound :=
    (communication_reaches_iff (fun lan => lan.view.Sound) _ before).mpr
      (fun lan found => discovery_run_sound fresh found) service reached
  exact ICommunicationService.step_showsRole_iff sound role

/-- A scan that a host makes hides that it hosts. -/
theorem scan_hides_host
    : ∃ service,
        communication.run (some (.fresh (.fresh (fun _ => 0) (fun _ => 0) 0 1500)))
            [
              .call (.initializeLan 1 .succeeding),
              .call .openAccessPoint,
              .call (.createNetwork 0 .anonymous .zero .succeeding),
              .call (.scan ⟨zeroBlock 32, 0, zeroBlock 6, zeroBlock 34, zeroBlock 16, 0⟩ 8 true),
              .resume ⟨id, fun _ => .rfl⟩
            ]
          = some service
        ∧ service.lanDiscovery.state = .accessPointCreated
        ∧ service.gate.eventType = .scan := by
  have shown
      : (communication.run (some (.fresh (.fresh (fun _ => 0) (fun _ => 0) 0 1500)))
            [
              .call (.initializeLan 1 .succeeding),
              .call .openAccessPoint,
              .call (.createNetwork 0 .anonymous .zero .succeeding),
              .call (.scan ⟨zeroBlock 32, 0, zeroBlock 6, zeroBlock 34, zeroBlock 16, 0⟩ 8 true),
              .resume ⟨id, fun _ => .rfl⟩
            ]).map
          (fun service => (service.lanDiscovery.state, service.gate.eventType))
        = some (.accessPointCreated, .scan) := by
    decide +kernel
  obtain ⟨service, reached, shows_⟩ := Option.map_eq_some_iff.mp shown
  exact ⟨service, reached, congrArg Prod.fst shows_, congrArg Prod.snd shows_⟩

end SwitchLanPlay.LdnMitm
