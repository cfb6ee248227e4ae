import SwitchLanPlay.LdnMitm.Service
import SwitchLanPlay.LdnMitm.Session

/-! The life of the LDN service: its state should be `None` exactly while it is not initialised.
`destroyNetwork` and `disconnect` are the calls that set the state without a look at it.
-/

namespace SwitchLanPlay.LdnMitm

open Option
open Foundation

variable {event : LanEvent}

def View.Lifecycle (view : View) : Prop := view.state = .none ↔ view.initialized = false

def LanEvent.Unchecked : LanEvent → Prop
  | .call .destroyNetwork | .call .disconnect => True
  | _ => False

def LANDiscovery.Forces (lan : LANDiscovery) (event : LanEvent) : Prop :=
  lan.initialized = false ∧ lan.pending = none ∧ event.Unchecked

/-- All moves but those of the two calls keep the life cycle, and so do these while the service
is initialised.
-/
theorem View.Lifecycle.moves {view next : View} (lifecycle : view.Lifecycle)
    (checked : event.Unchecked → view.initialized) (moves : view.begun.Moves event next)
    : next.Lifecycle := by
  have initialized_of_state (state : view.state ≠ .none) : view.initialized = true := by
    by_contra uninitialized
    rw [Bool.not_eq_true] at uninitialized
    exact state (lifecycle.mpr uninitialized)
  -- A live state of an initialised service.
  have live {after : View} (state : after.state ≠ .none) (initialized : after.initialized = true)
      : after.Lifecycle := iff_of_false state (by simp [initialized])
  cases moves with
  | stay | prepare | draft | advertise | link | list | scan | resume => exact lifecycle
  | start => exact live nofun rfl
  | stop => exact iff_of_true rfl rfl
  | halt uninitialized => exact iff_of_true rfl uninitialized
  | enter state idle =>
    refine live ?_ (initialized_of_state state)
    rcases idle with rfl | rfl | rfl <;> exact nofun
  | destroy => exact live nofun (checked trivial)
  | disconnect => exact live nofun (checked trivial)
  | host role => exact live nofun (initialized_of_state fun off => nomatch role.symm.trans off)
  | sync initialized => exact live nofun initialized
  | lostHost role => exact live nofun (initialized_of_state fun off => nomatch role.symm.trans off)
  | lostSignal initialized => exact live nofun initialized

/-- An unchecked call on a discovery that is not initialised leaves it with a state. -/
theorem LANDiscovery.Forces.step {lan : LANDiscovery} (forces : lan.Forces event)
    : ∃ next answer, lan.step event = some (next, answer) ∧ ¬ next.view.Lifecycle := by
  obtain ⟨uninitialized, idle, unchecked⟩ := forces
  have forced (next : LANDiscovery) (state : next.view.state ≠ .none)
      (initialized : next.view.initialized = lan.initialized)
      : ¬ next.view.Lifecycle :=
    fun lifecycle => state (lifecycle.mpr (initialized.trans uninitialized))
  cases event with
  | call call =>
    cases call with
    | destroyNetwork =>
      refine ⟨({ lan with effects := [] }).enter .accessPoint, .code 0, ?_, forced _ ?_ ?_⟩
      · simp [LANDiscovery.step, idle, handle, LANDiscovery.answer,
          LANDiscovery.destroyNetwork]
      · rw [view_enter]
        exact (by decide : CommState.accessPoint ≠ .none)
      · rw [view_enter]
        rfl
    | disconnect =>
      refine
        ⟨({ lan with effects := [] }).closeTcp.setState .station, .code 0, ?_, forced _ ?_ ?_⟩
      · simp [LANDiscovery.step, idle, handle, LANDiscovery.answer,
          LANDiscovery.disconnect]
      · rw [view_setState]
        exact (by decide : CommState.station ≠ .none)
      · rw [view_setState]
        rfl
    | _ => exact unchecked.elim
  | _ => exact unchecked.elim

/-- One step keeps the life cycle exactly when it does not force a state. -/
theorem LANDiscovery.step_lifecycle_iff {lan : LANDiscovery} (lifecycle : lan.view.Lifecycle)
    : (∀ next answer, lan.step event = some (next, answer) → next.view.Lifecycle)
      ↔ ¬ lan.Forces event := by
  constructor
  · intro kept forces
    obtain ⟨next, answer, stepped, broken⟩ := forces.step
    exact broken (kept next answer stepped)
  · intro unforced next answer outcome
    by_cases unchecked : event.Unchecked
    · -- An unchecked call that is made finds an initialised service.
      by_cases idle : lan.pending = none
      · have initialized : lan.initialized = true := by
          by_contra uninitialized
          exact unforced ⟨Bool.not_eq_true _ ▸ uninitialized, idle, unchecked⟩
        exact lifecycle.moves (fun _ => initialized) (step_moves outcome)
      · have busy : lan.pending.isSome := isSome_iff_ne_none.mpr idle
        cases event with
        | call call =>
          simp only [LANDiscovery.step, if_pos busy] at outcome
          cases outcome
          exact lifecycle
        | _ => exact unchecked.elim
    · exact lifecycle.moves (fun call => absurd call unchecked) (step_moves outcome)

/-- What holds of the discovery of every service that a history reaches. -/
theorem communication_reaches_iff (property : LANDiscovery → Prop)
    (service : ICommunicationService) (history : List LanEvent)
    : (∀ reached,
        communication.run (some service) history = some reached → property reached.lanDiscovery)
      ↔ ∀ lan, discovery.run (some service.lanDiscovery) history = some lan → property lan := by
  rw [← map_some, ← communication_run_lanDiscovery]
  constructor
  · intro holds lan found
    obtain ⟨reached, run, rfl⟩ := map_eq_some_iff.mp found
    exact holds reached run
  · intro holds reached run
    exact holds _ (by rw [run]; rfl)

/-- The state of the service is `None` exactly while it is not initialised, at every boundary of
calls and events, if and only if nobody destroys a network or disconnects while it is not
initialised. Witness: every other step keeps the life cycle.
-/
theorem communication_lifecycle_iff (nodeChanges nodeLastStates : Fin nodeCountMax → UInt8)
    (originalMtu profileMtu : Nat) (history : List LanEvent)
    : (∀ before after,
        history = before ++ after
        → ∀ service,
            communication.run
                (some (.fresh (.fresh nodeChanges nodeLastStates originalMtu profileMtu))) before
              = some service
            → (service.lanDiscovery.state = .none ↔ service.lanDiscovery.initialized = false))
      ↔ ∀ before event after,
          history = before ++ event :: after
          → ∀ service,
              communication.run
                  (some (.fresh (.fresh nodeChanges nodeLastStates originalMtu profileMtu))) before
                = some service
              → ¬ service.lanDiscovery.Forces event := by
  have discovered := Machine.failing_fronts_iff LANDiscovery.step .none
    (.fresh nodeChanges nodeLastStates originalMtu profileMtu) (fun lan => lan.view.Lifecycle)
    (fun lan event => ¬ lan.Forces event) (iff_of_true rfl rfl)
    (fun _ _ _ _ lifecycle => LANDiscovery.step_lifecycle_iff lifecycle) history
  have lifecycle := communication_reaches_iff
    (fun lan => lan.state = .none ↔ lan.initialized = false)
  have forces (event : LanEvent) := communication_reaches_iff (fun lan => ¬ lan.Forces event)
  simp only [lifecycle, forces]
  exact discovered

/-- A network destroyed on a new service leaves it in the state of an access point, without
initialisation.
-/
theorem destroyNetwork_uninitialized
    : ∃ service,
        communication.run (some (.fresh (.fresh (fun _ => 0) (fun _ => 0) 0 1500)))
            [.call .destroyNetwork]
          = some service
        ∧ service.lanDiscovery.state = .accessPoint
        ∧ service.lanDiscovery.initialized = false :=
  ⟨_, rfl, rfl, rfl⟩

end SwitchLanPlay.LdnMitm
