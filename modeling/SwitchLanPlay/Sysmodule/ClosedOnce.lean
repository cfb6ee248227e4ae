import SwitchLanPlay.Sysmodule.CloseBalance

/-! When each accepted descriptor is closed exactly once: along a run the closes, made and owed, are
those that are due, and one more for each step that gives a descriptor a second closer.
-/

namespace SwitchLanPlay.Sysmodule

open Foundation

variable {closers injectors : Nat} {bridge next : Bridge closers injectors}

/-- A step that leaves each descriptor with one thread to close it: `ldn_bridge_close` takes no
descriptor that its session thread has copied or whose thread could not be created, and
`threadCreate` does not fail when `ldn_bridge_close` has taken the descriptor.
-/
def Bridge.OneCloser (bridge : Bridge closers injectors) : BridgeEvent closers injectors → Prop
  | .closer caller =>
    bridge.closer caller = .holding
    → (∀ conn slot fd,
        bridge.session conn = some ⟨slot, .looping fd⟩ → (bridge.slots slot).clientFd = none)
      ∧ ∀ conn number slot,
          bridge.acceptor = .busy conn number (.failed slot)
          → (bridge.slots slot).clientFd = none
  | .threadCreate false =>
    ∀ conn number slot,
      bridge.acceptor = .busy conn number (.armed slot) → (bridge.slots slot).clientFd ≠ none
  | _ => True

theorem held_eq_zero_iff {fd : Option Nat} : held fd = 0 ↔ fd = none := by
  cases fd <;> simp [held]

/-- While a call of `ldn_bridge_close` holds the lock, a descriptor has been copied where the guard
says.
-/
theorem Bridge.Sound.copied_eq_zero_iff (sound : bridge.Sound) {caller : Fin closers}
    (holding : bridge.closer caller = .holding)
    : (∀ conn, bridge.copied conn = 0)
      ↔ (∀ conn slot fd,
          bridge.session conn = some ⟨slot, .looping fd⟩ → (bridge.slots slot).clientFd = none)
        ∧ ∀ conn number slot,
            bridge.acceptor = .busy conn number (.failed slot)
            → (bridge.slots slot).clientFd = none := by
  have closer : bridge.Holds (.closer caller) := holding
  constructor
  · intro none
    constructor
    · intro conn slot fd found
      have here := none conn
      rw [copied, found] at here
      exact held_eq_zero_iff.mp here
    · intro conn number slot armed
      have inHand := sound.disciplined.inHand
      have here := none conn
      rw [armed] at inHand
      rw [copied, inHand.2.1, armed] at here
      simp only [if_true] at here
      exact held_eq_zero_iff.mp here
  · rintro ⟨looping, failed⟩ conn
    unfold copied
    cases found : bridge.session conn with
    | some thread =>
      obtain ⟨slot, stage⟩ := thread
      cases stage with
      | looping fd => exact held_eq_zero_iff.mpr (looping conn slot fd found)
      | locked fd =>
        -- A thread that holds the lock keeps `ldn_bridge_close` out.
        have session : bridge.Holds (.session conn) := ⟨_, found, rfl⟩
        cases sound.guarded.unique closer session
      | created | started | cleared fd | closing fd | exited | joined => rfl
    | none =>
      cases here : bridge.acceptor with
      | idle | starting mine slot => rfl
      | busy mine number stage =>
        cases stage with
        | failed slot =>
          have nothing : held (bridge.fds slot) = 0 :=
            held_eq_zero_iff.mpr (failed mine number slot here)
          dsimp only
          rw [nothing, ite_self]
        | clearing slot =>
          have acceptor : bridge.Holds .acceptor := congrArg AcceptPoint.holds here
          cases sound.guarded.unique closer acceptor
        | accepted | targeted target | scanning target | joining target slot
        | ready target slot | armed slot | dropping => rfl

theorem Bridge.Sound.oneCloser_iff (sound : bridge.Sound) (event : BridgeEvent closers injectors)
    : bridge.OneCloser event ↔ ∀ conn, bridge.doubles conn event = 0 := by
  cases event with
  | closer caller =>
    by_cases holding : bridge.closer caller = .holding
    · have same (conn : Nat) : bridge.doubles conn (.closer caller) = bridge.copied conn :=
        if_pos holding
      simp only [same]
      rw [sound.copied_eq_zero_iff holding]
      exact ⟨fun guard => guard holding, fun both _ => both⟩
    · exact iff_of_true (fun held => absurd held holding) (fun _ => if_neg holding)
  | threadCreate succeeds =>
    cases succeeds with
    | true => exact iff_of_true trivial (fun _ => rfl)
    | false =>
      constructor
      · intro present conn
        cases here : bridge.acceptor with
        | idle | starting mine slot => simp only [doubles, here]
        | busy mine number stage =>
          cases stage with
          | armed slot =>
            have one : held (bridge.fds slot) = 1 :=
              if_pos (Option.isSome_iff_ne_none.mpr (present mine number slot here))
            simp only [doubles, here, one, Nat.sub_self, ite_self]
          | accepted | targeted target | scanning target | joining target slot
          | ready target slot | failed slot | clearing slot | dropping => simp only [doubles, here]
      · intro single conn number slot here empty
        have nothing : held (bridge.fds slot) = 0 := held_eq_zero_iff.mpr empty
        have second := single conn
        simp only [doubles, here, if_true, nothing] at second
        cases second
  | accept number | readTarget target | acceptor | session conn | inject caller src data
  | injector caller | send caller taken | opened number | closed number =>
    exact iff_of_true trivial (fun _ => rfl)

/-- No second close is added for a connection that is not accepted yet. -/
theorem Bridge.Disciplined.doubles_eq_zero (disciplined : bridge.Disciplined) {conn : Nat}
    (unknown : bridge.accepted ≤ conn) (event : BridgeEvent closers injectors)
    : bridge.doubles conn event = 0 := by
  have missing := disciplined.absent conn unknown
  have other {mine number : Nat} {stage : AcceptStage}
      (here : bridge.acceptor = .busy mine number stage)
      : mine ≠ conn := by
    have inHand := disciplined.inHand
    rw [here] at inHand
    exact (Nat.lt_of_lt_of_le inHand.1 unknown).ne
  have copied : bridge.copied conn = 0 := by
    simp only [Bridge.copied, missing]
    split
    · rename_i here
      exact if_neg (other here)
    · rename_i here
      exact if_neg (other here)
    · rfl
  cases event with
  | closer caller => exact (if_congr Iff.rfl copied rfl).trans (ite_self 0)
  | threadCreate succeeds =>
    cases succeeds with
    | true => rfl
    | false =>
      simp only [doubles]
      split
      · rename_i here
        exact if_neg (other here)
      · rfl
  | accept number | readTarget target | acceptor | session mine | inject caller src data
  | injector caller | send caller taken | opened number | closed number => rfl

theorem Bridge.accepted_le_step {event : BridgeEvent closers injectors}
    {output : Option SentOctets} (stepped : bridge.step event = some (next, output))
    : bridge.accepted ≤ next.accepted := by
  by_cases new : ∃ number, event = .accept number
  · obtain ⟨number, rfl⟩ := new
    cases step_moves stepped
    exact Nat.le_succ _
  · exact (step_accepted stepped (fun number same => new ⟨number, same⟩)).ge

/-- The closes of all connections, made and owed, after a run: at least those that are due, and no
more exactly when every step has left each descriptor with one thread to close it.
-/
structure Balanced (start : Bridge closers injectors)
    (history : List (BridgeEvent closers injectors)) (bridge : Bridge closers injectors)
    : Prop where
  homed : bridge.Homed
  due : ∀ conn, bridge.due conn ≤ bridge.total conn
  unknown : ∀ conn, bridge.accepted ≤ conn → bridge.total conn = 0
  once
    : (∀ conn, bridge.total conn = bridge.due conn)
      ↔ ∀ before event after,
          history = before ++ event :: after
          → ∀ state,
              (bridgeMachine closers injectors).run (some start) before = some state
              → state.OneCloser event

theorem Balanced.step {start : Bridge closers injectors}
    {history : List (BridgeEvent closers injectors)} (balanced : Balanced start history bridge)
    (reached : (bridgeMachine closers injectors).run (some start) history = some bridge)
    (sound : bridge.Sound) {event : BridgeEvent closers injectors} {output : Option SentOctets}
    (stepped : bridge.step event = some (next, output))
    : Balanced start (history ++ [event]) next := by
  have total := Bridge.step_total sound.disciplined balanced.homed stepped
  refine ⟨balanced.homed.step sound.disciplined stepped, ?_, ?_, ?_⟩
  · intro conn
    have before := balanced.due conn
    have after := total conn
    omega
  · intro conn unknown
    have earlier := (Bridge.accepted_le_step stepped).trans unknown
    have before := balanced.unknown conn earlier
    have after := total conn
    rw [before, sound.disciplined.doubles_eq_zero earlier, Bridge.due, Bridge.due,
      if_neg earlier.not_gt, if_neg unknown.not_gt] at after
    exact after
  · have exact_iff
        : (∀ conn, next.total conn = next.due conn)
          ↔ (∀ conn, bridge.total conn = bridge.due conn)
            ∧ ∀ conn, bridge.doubles conn event = 0 := by
      rw [← forall_and]
      refine forall_congr' fun conn => ?_
      have before := balanced.due conn
      have after := total conn
      omega
    have last
        : (∀ state,
            (bridgeMachine closers injectors).run (some start) history = some state
            → state.OneCloser event)
          ↔ bridge.OneCloser event := by
      rw [reached]
      exact ⟨fun all => all bridge rfl, fun one state same => Option.some.inj same ▸ one⟩
    rw [exact_iff, balanced.once, ← sound.oneCloser_iff, ← last]
    exact forall_split_concat_iff.symm

theorem Bridge.init_quiet (opened : Nat → Bool)
    : (Bridge.init opened : Bridge closers injectors).Quiet where
  acceptor := rfl
  session := fun _ thread found => absurd found.symm (Option.some_ne_none thread)
  closer := fun _ => rfl

theorem bridgeMachine_balanced {opened : Nat → Bool}
    {history : List (BridgeEvent closers injectors)}
    (reached : (bridgeMachine closers injectors).run (some (.init opened)) history = some bridge)
    : Balanced (.init opened) history bridge := by
  induction history using List.reverseRecOn generalizing bridge with
  | nil =>
    cases reached
    have total (conn : Nat) : (Bridge.init opened : Bridge closers injectors).total conn = 0 :=
      ((Bridge.init_quiet opened).done conn).total_eq
    refine ⟨?_, fun conn => Nat.zero_le _, fun conn _ => total conn, ?_⟩
    · intro slot number fd
      cases fd
    · refine iff_of_true total ?_
      intro before event after split
      cases before <;> cases split
  | append_singleton history event ih =>
    obtain ⟨before, output, earlier, stepped⟩ := Machine.failing_run_concat_eq_some.mp reached
    exact (ih earlier).step earlier (bridgeMachine_sound earlier) stepped

/-- Once the threads are done, each accepted descriptor has been closed exactly once if and only if
every step of the run has left each descriptor with one thread to close it. None is left open in
either case.
-/
theorem closed_once_iff {opened : Nat → Bool} {history : List (BridgeEvent closers injectors)}
    (reached : (bridgeMachine closers injectors).run (some (.init opened)) history = some bridge)
    (quiet : bridge.Quiet)
    : (∀ conn < bridge.accepted, bridge.closes conn = 1)
      ↔ ∀ before event after,
          history = before ++ event :: after
          → ∀ state,
              (bridgeMachine closers injectors).run (some (.init opened)) before = some state
              → state.OneCloser event := by
  have balanced := bridgeMachine_balanced reached
  rw [← balanced.once]
  refine forall_congr' fun conn => ?_
  rw [Bridge.due]
  by_cases known : conn < bridge.accepted
  · rw [if_pos known, (quiet.done conn).total_eq]
    exact ⟨fun closed => closed known, fun closed _ => closed⟩
  · rw [if_neg known]
    exact iff_of_true (fun accepted => absurd accepted known)
      (balanced.unknown conn (Nat.le_of_not_lt known))

def endedSession : List (BridgeEvent 1 1) :=
  [.accept 5, .readTarget (some 7), .acceptor, .acceptor, .acceptor, .threadCreate true, .acceptor,
    .session 0, .session 0, .session 0, .session 0, .session 0]

/-- The state after a run of one connection, when its thread and the call of `ldn_bridge_close` are
done.
-/
theorem quiet_of_one_session {bridge : Bridge 1 1} {opened : Nat → Bool}
    {history : List (BridgeEvent 1 1)}
    (reached : (bridgeMachine 1 1).run (some (.init opened)) history = some bridge)
    {slot : Slot} (accepted : bridge.accepted = 1) (acceptor : bridge.acceptor = .idle)
    (session : bridge.session 0 = some ⟨slot, .exited⟩) (closer : bridge.closer 0 = .idle)
    : bridge.Quiet := by
  refine ⟨acceptor, ?_, ?_⟩
  · intro conn thread found
    by_cases first : conn = 0
    · subst first
      cases session.symm.trans found
      exact Or.inl rfl
    · have missing := (bridgeMachine_sound reached).disciplined.absent conn (by omega)
      cases missing.symm.trans found
  · intro caller
    rw [Subsingleton.elim caller 0]
    exact closer

theorem closed_once_iff_endedSession
    : ∃ bridge,
        (bridgeMachine 1 1).run (some (.init fun _ => false)) endedSession = some bridge
        ∧ bridge.Quiet
        ∧ bridge.closes 0 = 1
        ∧ ∀ before event after,
            endedSession = before ++ event :: after
            → ∀ state,
                (bridgeMachine 1 1).run (some (.init fun _ => false)) before = some state
                → state.OneCloser event := by
  have found
      : ((bridgeMachine 1 1).run (some (.init fun _ => false)) endedSession).map
          (fun bridge =>
            (bridge.accepted, bridge.acceptor, bridge.session 0, bridge.closer 0, bridge.closes 0))
        = some (1, .idle, some ⟨⟨0, by decide⟩, .exited⟩, .idle, 1) := by
    decide +kernel
  obtain ⟨bridge, reached, here⟩ := Option.map_eq_some_iff.mp found
  simp only [Prod.mk.injEq] at here
  obtain ⟨accepted, acceptor, session, closer, closed⟩ := here
  have quiet := quiet_of_one_session reached accepted acceptor session closer
  refine ⟨bridge, reached, quiet, closed, (closed_once_iff reached quiet).mp ?_⟩
  intro conn known
  rw [accepted, Nat.lt_one_iff] at known
  rw [known, closed]

def soleCaller : Fin 1 := ⟨0, Nat.one_pos⟩

/-- `ldn_bridge_close` runs while a session thread is in its loop: both have the descriptor. -/
def closedUnderSession : List (BridgeEvent 1 1) :=
  [.accept 5, .readTarget (some 7), .acceptor, .acceptor, .acceptor, .threadCreate true, .acceptor,
    .session 0,
    .closer soleCaller, .closer soleCaller, .closer soleCaller, .closer soleCaller,
    .session 0, .session 0, .session 0, .session 0]

/-- The descriptor is closed by `ldn_bridge_close` and again by its session thread. -/
theorem descriptor_closed_twice
    : ∃ bridge,
        (bridgeMachine 1 1).run (some (.init fun _ => false)) closedUnderSession = some bridge
        ∧ bridge.Quiet
        ∧ bridge.accepted = 1
        ∧ bridge.closes 0 = 2 := by
  have found
      : ((bridgeMachine 1 1).run (some (.init fun _ => false)) closedUnderSession).map
          (fun bridge =>
            (bridge.accepted, bridge.acceptor, bridge.session 0, bridge.closer 0, bridge.closes 0))
        = some (1, .idle, some ⟨⟨0, by decide⟩, .exited⟩, .idle, 2) := by
    decide +kernel
  obtain ⟨bridge, reached, here⟩ := Option.map_eq_some_iff.mp found
  simp only [Prod.mk.injEq] at here
  obtain ⟨accepted, acceptor, session, closer, closed⟩ := here
  exact ⟨bridge, reached, quiet_of_one_session reached accepted acceptor session closer, accepted,
    closed⟩

end SwitchLanPlay.Sysmodule
