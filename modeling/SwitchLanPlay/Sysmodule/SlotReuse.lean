import SwitchLanPlay.Sysmodule.SlotDiscipline

/-! How a slot is used again: it is armed when its last thread is joined, and the accept loop, which
joins with `g_sessions_mtx` in its hands, joins a thread that has no more need of it.
-/

namespace SwitchLanPlay.Sysmodule

open Foundation

variable {conn : Nat} {slot : Slot}

variable {closers injectors : Nat} {bridge next : Bridge closers injectors}

theorem Bridge.setSlot_inactive {place : Slot} {session : TcpSession}
    (before : (bridge.slots slot).active = false) (written : slot = place → session.active = false)
    : ((bridge.setSlot place session).slots slot).active = false := by
  rw [setSlot_slots]
  split
  · rename_i here
    exact written here
  · exact before

/-- A slot becomes active only where the accept loop is ready to arm it. -/
theorem Bridge.step_inactive {event : BridgeEvent closers injectors} {output : Option SentOctets}
    (stepped : bridge.step event = some (next, output))
    (unready : ∀ conn number target, bridge.acceptor ≠ .busy conn number (.ready target slot))
    (before : (bridge.slots slot).active = false)
    : (next.slots slot).active = false := by
  cases step_moves stepped
  case join | create => exact setSlot_inactive before (fun same => same ▸ before)
  case arm here =>
    refine setSlot_inactive before ?_
    rintro rfl
    exact absurd here (unready _ _ _)
  case clear | clearSlot => exact setSlot_inactive before (fun _ => rfl)
  case closeCopy fd here => cases fd <;> exact before
  all_goals exact before

def SessionStage.pastLock : SessionStage → Bool
  | .closing _ => true
  | .exited => true
  | .joined => true
  | _ => false

namespace Bridge

def PastLock (bridge : Bridge closers injectors) (conn : Nat) : Prop :=
  ∃ thread, bridge.session conn = some thread ∧ thread.stage.pastLock = true

theorem PastLock.not_holds (past : bridge.PastLock conn) : ¬ bridge.Holds (.session conn) := by
  obtain ⟨thread, found, outside⟩ := past
  rintro ⟨other, same, holds⟩
  rw [found] at same
  cases same
  obtain ⟨slot, stage⟩ := thread
  cases stage with
  | closing fd | exited | joined => cases holds
  | created | started | looping fd | locked fd | cleared fd => cases outside

theorem PastLock.congr (past : bridge.PastLock conn) (same : next.session = bridge.session)
    : next.PastLock conn := by
  unfold Bridge.PastLock
  rw [same]
  exact past

/-- A thread moves on. -/
theorem PastLock.of_update (past : bridge.PastLock conn) {mine : Nat}
    {thread : SessionThread}
    (session : next.session = Function.update bridge.session mine (some thread))
    (moved : mine = conn → thread.stage.pastLock = true)
    : next.PastLock conn := by
  obtain ⟨other, found, outside⟩ := past
  unfold Bridge.PastLock
  rw [session, Function.update_apply]
  by_cases same : conn = mine
  · rw [if_pos same]
    exact ⟨thread, rfl, moved same.symm⟩
  · rw [if_neg same]
    exact ⟨other, found, outside⟩

/-- A session thread past the lock stays past it. -/
theorem PastLock.step (past : bridge.PastLock conn) (disciplined : bridge.Disciplined)
    {event : BridgeEvent closers injectors} {output : Option SentOctets}
    (stepped : bridge.step event = some (next, output))
    : next.PastLock conn := by
  -- The thread of the connection itself can only close its descriptor.
  have different {mine : Nat} {slot : Slot} {stage : SessionStage}
      (found : bridge.session mine = some ⟨slot, stage⟩) (before : stage.pastLock = false)
      : mine ≠ conn := by
    rintro rfl
    obtain ⟨other, same, outside⟩ := past
    rw [found] at same
    cases same
    rw [before] at outside
    cases outside
  have inHand := disciplined.inHand
  cases step_moves stepped
  case join | unlockSlot => exact past.of_update rfl (fun _ => rfl)
  case create mine number slot here =>
    rw [here] at inHand
    refine past.of_update rfl ?_
    rintro rfl
    obtain ⟨thread, found, -⟩ := past
    rw [inHand.2.1] at found
    cases found
  case start here =>
    rw [here] at inHand
    exact past.of_update rfl (fun same => absurd same (different inHand rfl))
  case readSlot here | lockSlot free here | clearSlot here =>
    exact past.of_update rfl (fun same => absurd same (different here rfl))
  case closeCopy fd here => cases fd <;> exact past.of_update rfl (fun _ => rfl)
  all_goals exact past.congr rfl

/-- It never takes the lock again, whatever the threads do. -/
theorem PastLock.run (past : bridge.PastLock conn) (disciplined : bridge.Disciplined)
    {later : List (BridgeEvent closers injectors)}
    (reached : (bridgeMachine closers injectors).run (some bridge) later = some next)
    : ¬ next.Holds (.session conn) := by
  have both : next.PastLock conn ∧ next.Disciplined := by
    refine Machine.failing_run_invariant
      (fun bridge : Bridge closers injectors => bridge.PastLock conn ∧ bridge.Disciplined)
      ?_ ⟨past, disciplined⟩ reached
    rintro bridge event next output ⟨past, disciplined⟩ stepped
    exact ⟨past.step disciplined stepped, step_disciplined disciplined stepped⟩
  exact both.1.not_holds

/-- The join that the accept loop waits for ends: the thread never takes the lock again, and alone
it comes to its end.
-/
structure JoinEnds (bridge : Bridge closers injectors) (conn number : Nat) (target : UInt32)
    (slot : Slot) (joined : Nat)
    : Prop where
  thread : bridge.slotThread slot = some joined
  unlocked
    : ∀ later next,
        (bridgeMachine closers injectors).run (some bridge) later = some next
        → ¬ next.Holds (.session joined)
  ends
    : ∃ own next,
        (∀ event ∈ own, event = .session joined)
        ∧ (bridgeMachine closers injectors).run (some bridge) (own ++ [.acceptor]) = some next
        ∧ next.acceptor = .busy conn number (.ready target slot)

/-- The accept loop joins a thread that has exited. -/
theorem acceptorStep_join {number joined : Nat} {target : UInt32}
    (here : bridge.acceptor = .busy conn number (.joining target slot))
    (thread : bridge.slotThread slot = some joined)
    (exited : bridge.session joined = some ⟨slot, .exited⟩)
    : ∃ next output,
        bridge.step .acceptor = some (next, output)
        ∧ next.acceptor = .busy conn number (.ready target slot) := by
  simp only [Bridge.step, here, acceptorStep, thread, exited, if_true]
  exact ⟨_, _, rfl, rfl⟩

theorem Sound.joinEnds (sound : bridge.Sound) {number : Nat} {target : UInt32}
    (here : bridge.acceptor = .busy conn number (.joining target slot))
    : ∃ joined, bridge.JoinEnds conn number target slot joined := by
  have inHand := sound.disciplined.inHand
  rw [here] at inHand
  obtain ⟨-, -, inactive, created⟩ := inHand
  obtain ⟨joined, stage, thread, found, unjoined⟩ := sound.disciplined.created slot created
  have unserving : stage.serving = false := by
    by_contra serving
    have active := sound.disciplined.serving joined slot stage found (Bool.not_eq_false _ ▸ serving)
    rw [inactive] at active
    cases active
  have outside : stage.holds = false := by
    by_contra holds
    have acceptor : bridge.Holds .acceptor := congrArg AcceptPoint.holds here
    have session : bridge.Holds (.session joined) := ⟨_, found, Bool.not_eq_false _ ▸ holds⟩
    cases sound.guarded.unique acceptor session
  have past : stage.pastLock = true := by
    cases stage with
    | closing fd | exited | joined => rfl
    | created | started | looping fd | locked fd => cases unserving
    | cleared fd => cases outside
  refine ⟨joined, thread, ?_, ?_⟩
  · intro later next reached
    exact Bridge.PastLock.run ⟨_, found, past⟩ sound.disciplined reached
  · cases stage with
    | exited =>
      obtain ⟨next, output, stepped, ready⟩ := acceptorStep_join here thread found
      refine ⟨[], next, fun _ member => absurd member List.not_mem_nil, ?_, ready⟩
      exact Machine.failing_run_cons_eq_some.mpr ⟨next, output, stepped, rfl⟩
    | closing fd =>
      -- The thread closes its descriptor and is at its end.
      have closes
          : bridge.step (.session joined)
            = some ((bridge.closeCopy joined fd).setSession joined ⟨slot, .exited⟩, none) := by
        simp only [Bridge.step, found, sessionStep]
        rfl
      have ended : ((bridge.closeCopy joined fd).setSession joined ⟨slot, .exited⟩).session joined
          = some ⟨slot, .exited⟩ := by
        rw [setSession_session, if_pos rfl]
      obtain ⟨next, output, stepped, ready⟩ :=
        acceptorStep_join (by cases fd <;> exact here) (by cases fd <;> exact thread) ended
      refine ⟨[.session joined], next, fun _ member => List.mem_singleton.mp member, ?_, ready⟩
      refine Machine.failing_run_cons_eq_some.mpr ⟨_, none, closes, ?_⟩
      exact Machine.failing_run_cons_eq_some.mpr ⟨next, output, stepped, rfl⟩
    | joined => exact absurd rfl unjoined
    | created | started | looping fd | locked fd | cleared fd => cases past

/-- What holds of the slots whatever the interleaving: until it is joined, a thread has the stack
and the `Thread` of its slot for itself; a slot is armed only when all its threads are joined; no
more than eight sessions are active and no more than eight threads unjoined; and the accept loop
does not wait in vain for a thread while it holds the lock.
-/
structure SlotsKept (bridge : Bridge closers injectors) : Prop where
  oneThread
    : ∀ first second slot firstStage secondStage,
        bridge.session first = some ⟨slot, firstStage⟩
        → firstStage ≠ .joined
        → bridge.session second = some ⟨slot, secondStage⟩
        → secondStage ≠ .joined
        → first = second
  ownThread
    : ∀ conn slot stage,
        bridge.session conn = some ⟨slot, stage⟩
        → stage ≠ .joined
        → bridge.slotThread slot = some conn
  armedAfterJoin
    : ∀ event next output slot,
        bridge.step event = some (next, output)
        → (bridge.slots slot).active = false
        → (next.slots slot).active = true
        → ∀ conn stage, bridge.session conn = some ⟨slot, stage⟩ → stage = .joined
  activeAtMost : sessionView.usedCount bridge.slots ≤ 8
  unjoinedAtMost
    : ∀ conns : Finset Nat,
        (∀ conn ∈ conns, ∃ thread, bridge.session conn = some thread ∧ thread.stage ≠ .joined)
        → conns.card ≤ 8
  joinEnds
    : ∀ conn number target slot,
        bridge.acceptor = .busy conn number (.joining target slot)
        → ∃ joined, bridge.JoinEnds conn number target slot joined

/-- Threads that are not joined have different slots, so there are no more of them than slots. -/
theorem Disciplined.card_unjoined_le (disciplined : bridge.Disciplined) {conns : Finset Nat}
    (unjoined
      : ∀ conn ∈ conns, ∃ thread, bridge.session conn = some thread ∧ thread.stage ≠ .joined)
    : conns.card ≤ tcpSessionMax := by
  have slots : conns ⊆ Finset.univ.image bridge.slotConn := by
    intro conn member
    obtain ⟨⟨slot, stage⟩, found, unfinished⟩ := unjoined conn member
    exact Finset.mem_image.mpr
      ⟨slot, Finset.mem_univ slot, (disciplined.owns conn slot stage found unfinished).armed⟩
  calc conns.card ≤ (Finset.univ.image bridge.slotConn).card := Finset.card_le_card slots
    _ ≤ (Finset.univ : Finset Slot).card := Finset.card_image_le
    _ = tcpSessionMax := Finset.card_fin tcpSessionMax

end Bridge

/-- Every interleaving of the accept loop, the session threads, injections and calls of
`ldn_bridge_close` keeps the slots.
-/
theorem session_slots_kept {opened : Nat → Bool} {history : List (BridgeEvent closers injectors)}
    (reached : (bridgeMachine closers injectors).run (some (.init opened)) history = some bridge)
    : bridge.SlotsKept := by
  have sound := bridgeMachine_sound reached
  have disciplined := sound.disciplined
  constructor
  · intro first second slot firstStage secondStage firstFound firstUnjoined secondFound
      secondUnjoined
    have one := (disciplined.owns first slot firstStage firstFound firstUnjoined).armed
    have two := (disciplined.owns second slot secondStage secondFound secondUnjoined).armed
    exact one.symm.trans two
  · intro conn slot stage found unjoined
    exact (disciplined.owns conn slot stage found unjoined).thread
  · intro event next output slot stepped before after conn stage found
    have ready
        : ∃ conn number target, bridge.acceptor = .busy conn number (.ready target slot) := by
      by_contra unready
      push Not at unready
      rw [Bridge.step_inactive stepped unready before] at after
      cases after
    obtain ⟨mine, number, target, here⟩ := ready
    have inHand := disciplined.inHand
    rw [here] at inHand
    exact disciplined.joined_of_not_created inHand.2.2.2 found
  · exact (Finset.card_le_univ _).trans (Finset.card_fin tcpSessionMax).le
  · intro conns unjoined
    exact disciplined.card_unjoined_le unjoined
  · intro conn number target slot here
    exact sound.joinEnds here

/-- A session ends while its connection is replaced: the thread has given the lock back and is about
to close its descriptor when the accept loop chooses its slot.
-/
def replacedSession : List (BridgeEvent 1 1) :=
  [.accept 5, .readTarget (some 7), .acceptor, .acceptor, .acceptor, .threadCreate true, .acceptor,
    .session 0, .session 0, .session 0, .session 0,
    .accept 6, .readTarget (some 9), .acceptor, .acceptor]

theorem session_slots_kept_replacedSession
    : ∃ bridge,
        (bridgeMachine 1 1).run (some (.init fun _ => false)) replacedSession = some bridge
        ∧ bridge.acceptor = .busy 1 6 (.joining 9 ⟨0, by decide⟩)
        ∧ bridge.SlotsKept := by
  have found
      : ((bridgeMachine 1 1).run (some (.init fun _ => false)) replacedSession).map
          Bridge.acceptor
        = some (.busy 1 6 (.joining 9 ⟨0, by decide⟩)) := by
    decide +kernel
  obtain ⟨bridge, reached, here⟩ := Option.map_eq_some_iff.mp found
  exact ⟨bridge, reached, here, session_slots_kept reached⟩

end SwitchLanPlay.Sysmodule
