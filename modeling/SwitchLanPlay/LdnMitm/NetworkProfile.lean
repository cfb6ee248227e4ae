import SwitchLanPlay.LdnMitm.Session

/-! Attempts to initialise a `LANDiscovery`, and the MTU of the network profile that they change.
`initialize` saves the MTU it finds and sets its own; only `finalize` of an initialised service
puts it back.
-/

namespace SwitchLanPlay.LdnMitm

open Foundation

variable {lan : LANDiscovery}

def InitializeCalls.StartWorker (calls : InitializeCalls) : Prop :=
  (calls.udp.socket ∧ calls.udp.bind ∧ calls.udp.broadcast) ∧ calls.createThread = 0

def InitializeCalls.SetProfile (calls : InitializeCalls) : Prop :=
  calls.getProfile = 0 ∧ calls.setProfile = 0

instance (calls : InitializeCalls) : Decidable calls.SetProfile :=
  inferInstanceAs (Decidable (_ ∧ _))

def InitializeCalls.Succeed (calls : InitializeCalls) : Prop :=
  calls.SetProfile
  ∧ calls.createRequest = 0
  ∧ calls.setLocalNetworkMode = 0
  ∧ calls.submit = 0
  ∧ calls.StartWorker

instance (calls : InitializeCalls) : Decidable calls.Succeed := by
  unfold InitializeCalls.Succeed InitializeCalls.StartWorker
  infer_instance

theorem LANDiscovery.initUdp_eq_zero_iff (lan : LANDiscovery) (calls : SocketCalls)
    : (lan.initUdp calls).2 = 0 ↔ calls.socket ∧ calls.bind ∧ calls.broadcast := by
  obtain ⟨socket, bind, listen, broadcast⟩ := calls
  cases socket <;> cases bind <;> cases broadcast <;>
    simp [initUdp, makeResult, moduleId]

structure Attempt (succeeds : Prop) (originalMtu profileMtu : Nat) (outcome : LANDiscovery × Nat)
    : Prop where
  code : outcome.2 = 0 ↔ succeeds
  initialized : outcome.1.initialized = true ↔ succeeds
  state : succeeds → outcome.1.state = .initialized
  originalMtu : outcome.1.originalMtu = originalMtu
  profileMtu : outcome.1.profileMtu = profileMtu

theorem Attempt.failed {succeeds : Prop} {originalMtu profileMtu : Nat} {rc : Nat}
    (failure : ¬ succeeds) (code : rc ≠ 0) (uninitialized : lan.initialized = false)
    (saved : lan.originalMtu = originalMtu) (current : lan.profileMtu = profileMtu)
    : Attempt succeeds originalMtu profileMtu (lan, rc) :=
  ⟨iff_of_false code failure, iff_of_false (by simp [uninitialized]) failure,
    fun success => absurd success failure, saved, current⟩

theorem LANDiscovery.startWorker_attempt (lan : LANDiscovery) (calls : InitializeCalls)
    (uninitialized : lan.initialized = false)
    : Attempt calls.StartWorker lan.originalMtu lan.profileMtu (lan.startWorker calls) := by
  have opens := initUdp_eq_zero_iff { lan.resetStations with isReady := true } calls.udp
  have frame := initUdp_frame { lan.resetStations with isReady := true } calls.udp
  unfold startWorker
  generalize initUdp { lan.resetStations with isReady := true } calls.udp = opened
    at opens frame ⊢
  obtain ⟨opened, rc⟩ := opened
  dsimp only at opens frame ⊢
  have still : opened.initialized = false :=
    (congrArg LANDiscovery.initialized frame).trans uninitialized
  have originalMtu : opened.originalMtu = lan.originalMtu :=
    (congrArg LANDiscovery.originalMtu frame).trans rfl
  have profileMtu : opened.profileMtu = lan.profileMtu :=
    (congrArg LANDiscovery.profileMtu frame).trans rfl
  split
  · rename_i unopened
    exact .failed (fun start => unopened (opens.mpr start.1)) unopened still originalMtu profileMtu
  · rename_i openSocket
    split
    · rename_i unthreaded
      exact .failed (fun start => unthreaded start.2) (by decide) still originalMtu profileMtu
    · rename_i thread
      have start : calls.StartWorker := ⟨opens.mp (not_not.mp openSocket), not_not.mp thread⟩
      have moved := opened.setState_frame .initialized
      exact ⟨iff_of_true rfl start, iff_of_true rfl start,
        fun _ => congrArg LANDiscovery.state moved,
        (congrArg LANDiscovery.originalMtu moved).trans originalMtu,
        (congrArg LANDiscovery.profileMtu moved).trans profileMtu⟩
/-- What `initialize` does to a service that is not initialised: the MTU it finds is saved as soon
as it is read, and is its own as soon as it is set.
-/
theorem LANDiscovery.initializeLan_attempt (lan : LANDiscovery) (calls : InitializeCalls)
    (uninitialized : lan.initialized = false)
    : Attempt calls.Succeed (if calls.getProfile = 0 then lan.profileMtu else lan.originalMtu)
        (if calls.SetProfile then 1500 else lan.profileMtu) (lan.initializeLan calls) := by
  have stopped : ¬ lan.initialized = true := by simp [uninitialized]
  unfold initializeLan
  rw [if_neg stopped]
  by_cases getProfile : calls.getProfile = 0
  · rw [if_pos getProfile, if_neg (not_not.mpr getProfile)]
    dsimp only
    by_cases setProfile : calls.setProfile = 0
    · rw [if_neg (not_not.mpr setProfile), if_pos ⟨getProfile, setProfile⟩]
      split
      · rename_i createRequest
        exact .failed (fun succeed => createRequest succeed.2.1) createRequest uninitialized rfl rfl
      · rename_i createRequest
        split
        · rename_i mode
          exact .failed (fun succeed => mode succeed.2.2.1) mode uninitialized rfl rfl
        · rename_i mode
          split
          · rename_i submit
            exact .failed (fun succeed => submit succeed.2.2.2.1) submit uninitialized rfl rfl
          · rename_i submit
            have requested : calls.Succeed ↔ calls.StartWorker :=
              ⟨fun succeed => succeed.2.2.2.2,
                fun start => ⟨⟨getProfile, setProfile⟩, not_not.mp createRequest, not_not.mp mode,
                  not_not.mp submit, start⟩⟩
            rw [requested]
            exact startWorker_attempt
              { lan with originalMtu := lan.profileMtu, profileMtu := 1500 } calls uninitialized
    · rw [if_pos setProfile, if_neg (fun set => setProfile set.2)]
      exact .failed (fun succeed => setProfile succeed.1.2) setProfile uninitialized rfl rfl
  · rw [if_pos getProfile, if_neg getProfile, if_neg (fun set => getProfile set.1)]
    exact .failed (fun succeed => getProfile succeed.1.1) getProfile uninitialized rfl rfl

-- Sequences of attempts

def LANDiscovery.initializeAll (lan : LANDiscovery) (attempts : List InitializeCalls)
    : LANDiscovery := attempts.foldl (fun lan calls => (lan.initializeLan calls).1) lan

theorem LANDiscovery.initializeAll_of_initialized (initialized : lan.initialized = true)
    (attempts : List InitializeCalls)
    : lan.initializeAll attempts = lan := by
  induction attempts with
  | nil => rfl
  | cons attempt attempts ih =>
    have unchanged : (lan.initializeLan attempt).1 = lan := by
      rw [initializeLan, if_pos initialized]
    unfold initializeAll at ih ⊢
    rw [List.foldl_cons, unchanged, ih]

/-- A `finalize` that succeeds puts the saved MTU back. -/
theorem LANDiscovery.finalize_profileMtu {calls : FinalizeCalls}
    (initialized : lan.initialized = true) (read : calls.getProfile = 0)
    (written : calls.setProfile = 0)
    : (lan.finalize calls).1.profileMtu = lan.originalMtu := by
  unfold finalize
  rw [if_pos initialized]
  dsimp only
  rw [setState_frame]
  exact if_pos ⟨read, written⟩

def failedAttempts (attempts : List InitializeCalls) : List InitializeCalls :=
  attempts.takeWhile (fun attempt => ¬ attempt.Succeed)

/-- After attempts to initialise, the last of them successful, a successful `finalize` restores the
MTU exactly when it was 1500 anyway or no attempt failed after it had set the profile. Witness: by
induction over the attempts; the first one to succeed saves what the failed ones left.
-/
theorem finalize_restores_profileMtu_iff (lan : LANDiscovery) (attempts : List InitializeCalls)
    (last : InitializeCalls) (calls : FinalizeCalls) (uninitialized : lan.initialized = false)
    (succeed : last.Succeed) (read : calls.getProfile = 0) (written : calls.setProfile = 0)
    : ((lan.initializeAll (attempts ++ [last])).finalize calls).1.profileMtu = lan.profileMtu
      ↔ lan.profileMtu = 1500
        ∨ ∀ attempt ∈ failedAttempts attempts, ¬ attempt.SetProfile := by
  -- A successful attempt saves the MTU it finds; those behind it do nothing.
  have restored {lan : LANDiscovery} {attempt : InitializeCalls} (rest : List InitializeCalls)
      (uninitialized : lan.initialized = false) (succeed : attempt.Succeed)
      : ((lan.initializeAll (attempt :: rest)).finalize calls).1.profileMtu = lan.profileMtu := by
    have attempted := lan.initializeLan_attempt attempt uninitialized
    have initialized := attempted.initialized.mpr succeed
    have saved := attempted.originalMtu
    rw [if_pos succeed.1.1] at saved
    have rest : lan.initializeAll (attempt :: rest) = (lan.initializeLan attempt).1 :=
      LANDiscovery.initializeAll_of_initialized initialized rest
    rw [rest, LANDiscovery.finalize_profileMtu initialized read written, saved]
  induction attempts generalizing lan with
  | nil => exact iff_of_true (restored [] uninitialized succeed) (.inr nofun)
  | cons attempt attempts ih =>
    by_cases success : attempt.Succeed
    · refine iff_of_true (restored (attempts ++ [last]) uninitialized success) (.inr ?_)
      simp [failedAttempts, success]
    · have attempted := lan.initializeLan_attempt attempt uninitialized
      have still : (lan.initializeLan attempt).1.initialized = false := by
        simpa [success] using attempted.initialized
      have here
          : lan.initializeAll (attempt :: attempts ++ [last])
            = (lan.initializeLan attempt).1.initializeAll (attempts ++ [last]) := rfl
      have later := ih (lan.initializeLan attempt).1 still
      rw [attempted.profileMtu] at later
      rw [here]
      by_cases set : attempt.SetProfile
      · rw [if_pos set] at later
        rw [later.mpr (.inl rfl)]
        simp [failedAttempts, success, set, eq_comm]
      · rw [if_neg set] at later
        refine later.trans ?_
        simp [failedAttempts, success, set]

/-- An attempt that cannot set the profile leaves it. -/
theorem finalize_restores_profileMtu_unset
    : (((LANDiscovery.fresh (fun _ => 0) (fun _ => 0) 0 1400).initializeAll
          ([{ InitializeCalls.succeeding with setProfile := 1 }] ++ [.succeeding])).finalize
        ⟨0, 0, 0⟩).1.profileMtu
      = 1400 := by
  refine (finalize_restores_profileMtu_iff (.fresh (fun _ => 0) (fun _ => 0) 0 1400)
    [{ InitializeCalls.succeeding with setProfile := 1 }] .succeeding ⟨0, 0, 0⟩ rfl
    (by decide) rfl rfl).mpr (.inr ?_)
  decide

/-- An attempt that fails behind the profile makes the next one save the MTU of 1500. -/
theorem finalize_keeps_own_profileMtu
    : (((LANDiscovery.fresh (fun _ => 0) (fun _ => 0) 0 1400).initializeAll
          ([{ InitializeCalls.succeeding with createRequest := 1 }] ++ [.succeeding])).finalize
        ⟨0, 0, 0⟩).1.profileMtu
      = 1500 :=
  rfl

end SwitchLanPlay.LdnMitm
