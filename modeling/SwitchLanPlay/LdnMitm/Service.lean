import SwitchLanPlay.LdnMitm.Worker

/-! `ICommunicationService`, the LDN service a game talks to. It passes calls on to `LANDiscovery`
and publishes events through the gate that starts and stops the runtime of the sysmodule.
-/

namespace SwitchLanPlay.LdnMitm

open Option
open Foundation

inductive LanPlayGateEvent where
  | none
  | scan
  | host
  | connect
  | idle
  | finalize
  | prepare
deriving DecidableEq, Repr

structure GateState where
  eventType : LanPlayGateEvent
  active : Bool
  processId : Nat
  titleId : Nat
  localCommunicationId : Nat
  sceneId : Nat
deriving DecidableEq, Repr

def notifyLanPlayGate (eventType : LanPlayGateEvent)
    (processId titleId localCommunicationId sceneId : Nat)
    : GateState :=
  let active := [.prepare, .scan, .host, .connect].contains eventType
  ⟨eventType, active, processId, titleId, localCommunicationId, sceneId⟩

def gateEventForStateTransition (previous next : CommState) : LanPlayGateEvent :=
  match next with
  | .accessPoint | .station => .prepare
  | .accessPointCreated => .host
  | .stationConnected => .connect
  | .initialized =>
    match previous with
    | .accessPoint | .accessPointCreated | .station | .stationConnected | .error => .idle
    | _ => .none
  | .error => .idle
  | .none => .finalize

/-- The service with what it has published last. `gateIntent` holds the identifiers of
`gate_intent_id` while `gate_intent_valid` is set.
-/
structure ICommunicationService where
  lanDiscovery : LANDiscovery
  clientProcessId : Nat
  clientTitleId : Nat
  gateIntent : Option (Nat × Nat)
  gate : GateState

namespace ICommunicationService

def fresh (lanDiscovery : LANDiscovery) : ICommunicationService where
  lanDiscovery := lanDiscovery
  clientProcessId := 0
  clientTitleId := 0
  gateIntent := none
  gate := ⟨.none, false, 0, 0, 0, 0⟩

def cacheGateIntent (service : ICommunicationService) (intentId : Bytes)
    : ICommunicationService :=
  {
    service with
    gateIntent :=
      some (readLe32 intentId 0 + readLe32 intentId 4 * 4294967296, readLe16 intentId 10)
  }

def notifyGate (service : ICommunicationService)
    (eventType : LanPlayGateEvent) (intent : Nat × Nat)
    : ICommunicationService :=
  {
    service with
    gate :=
      notifyLanPlayGate eventType service.clientProcessId service.clientTitleId intent.1 intent.2
  }

def onLanStateChanged (service : ICommunicationService)
    (previous next : CommState) (info : Option NetworkInfo)
    : ICommunicationService :=
  let eventType := gateEventForStateTransition previous next
  if eventType = .none then service
  else
    let cached :=
      if eventType = .host ∨ eventType = .connect then
        info.elim service (fun info => service.cacheGateIntent info.networkId.val)
      else service
    let notified := cached.notifyGate eventType (cached.gateIntent.getD (0, 0))
    if eventType = .finalize then { notified with gateIntent := none } else notified

def onEffect (service : ICommunicationService)
    : Effect → ICommunicationService
  | .stateChange previous next info => service.onLanStateChanged previous next info
  | _ => service

def enterCall (service : ICommunicationService) : Call → ICommunicationService
  | .initializeLan processId _ => { service with clientProcessId := processId, clientTitleId := 0 }
  | .createNetwork _ _ config _ => service.cacheGateIntent config.intentId.val
  | .connect networkInfo _ _ _ => service.cacheGateIntent networkInfo.networkId.val
  | _ => service

/-- What a call does behind the call of `LANDiscovery`: successful ones of `Initialize` and `Scan`
publish their event in any state.
-/
def leaveCall (service : ICommunicationService) (event : LanEvent)
    (answer : Answer)
    : ICommunicationService :=
  match event, answer with
  | .call (.initializeLan _ _), .code rc =>
    if rc = 0 then service.notifyGate .prepare (0, 0) else service
  | _, .networks _ => service.notifyGate .scan (service.gateIntent.getD (0, 0))
  | _, _ => service

def enter (service : ICommunicationService) (event : LanEvent)
    : ICommunicationService :=
  match event with
  | .call call => if service.lanDiscovery.pending.isSome then service else service.enterCall call
  | _ => service

def step (service : ICommunicationService) (event : LanEvent)
    : Option (ICommunicationService × Answer) :=
  (service.lanDiscovery.step event).map
    (fun (lan, answer) =>
      let told :=
        lan.effects.foldl ICommunicationService.onEffect
          { service.enter event with lanDiscovery := lan }
      (told.leaveCall event answer, answer))

end ICommunicationService

def communication : Machine (Option ICommunicationService) LanEvent Answer :=
  .failing ICommunicationService.step .none

-- The discovery inside

@[simp] theorem ICommunicationService.lanDiscovery_onLanStateChanged
    (service : ICommunicationService) (previous next : CommState) (info : Option NetworkInfo)
    : (service.onLanStateChanged previous next info).lanDiscovery = service.lanDiscovery := by
  unfold onLanStateChanged
  dsimp only
  split
  · rfl
  · cases info <;> split <;> split <;> rfl

theorem ICommunicationService.lanDiscovery_foldl_onEffect (service : ICommunicationService)
    (effects : List Effect)
    : (effects.foldl ICommunicationService.onEffect service).lanDiscovery
      = service.lanDiscovery := by
  induction effects generalizing service with
  | nil => rfl
  | cons effect effects ih =>
    rw [List.foldl_cons, ih]
    cases effect <;> simp [onEffect]

theorem ICommunicationService.lanDiscovery_leaveCall (service : ICommunicationService)
    (event : LanEvent) (answer : Answer)
    : (service.leaveCall event answer).lanDiscovery = service.lanDiscovery := by
  unfold leaveCall
  split
  · split <;> rfl
  · rfl
  · rfl

/-- A step of the service is a step of its discovery. -/
theorem communication_step_lanDiscovery (service : Option ICommunicationService) (event : LanEvent)
    : (communication.step service event).1.map ICommunicationService.lanDiscovery
      = (discovery.step (service.map ICommunicationService.lanDiscovery) event).1 := by
  cases service with
  | none => rfl
  | some service =>
    simp only [communication, discovery, Machine.failing, ICommunicationService.step,
      bind_some, map_some]
    cases service.lanDiscovery.step event with
    | none => rfl
    | some outcome =>
      simp only [map_some, ICommunicationService.lanDiscovery_leaveCall,
        ICommunicationService.lanDiscovery_foldl_onEffect]

/-- The discovery of the service runs as the discovery alone does. -/
theorem communication_run_lanDiscovery (service : Option ICommunicationService)
    (history : List LanEvent)
    : (communication.run service history).map ICommunicationService.lanDiscovery
      = discovery.run (service.map ICommunicationService.lanDiscovery) history := by
  induction history generalizing service with
  | nil => rfl
  | cons event history ih =>
    rw [Machine.run_cons, Machine.run_cons, ih, communication_step_lanDiscovery]

end SwitchLanPlay.LdnMitm
