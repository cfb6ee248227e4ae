import SwitchLanPlay.Sysmodule.SocketOwnership

/-! What a step adds to the closes of a connection, made and owed: one for a connection that is
accepted, and a second one where a descriptor gets a second thread to close it.
-/

namespace SwitchLanPlay.Sysmodule

open Function
open Foundation

variable {point : AcceptPoint}

variable {conn : Nat} {output : Option SentOctets}

variable {closers injectors : Nat} {bridge next : Bridge closers injectors}

variable {event : BridgeEvent closers injectors}

theorem Bridge.stake_of_none (missing : bridge.session conn = none)
    : bridge.stake conn = bridge.acceptor.owes bridge.fds conn := by
  rw [stake, missing]

theorem Bridge.stake_of_some {thread : SessionThread} (found : bridge.session conn = some thread)
    : bridge.stake conn = thread.owes bridge.fds := by
  rw [stake, found]

/-- A connection whose thread stays where it is, with the same table. -/
theorem Bridge.stake_congr (here : bridge.acceptor = point)
    (session : next.session conn = bridge.session conn) (fds : next.fds = bridge.fds)
    (acceptor : next.acceptor.owes bridge.fds conn = point.owes bridge.fds conn)
    : next.stake conn = bridge.stake conn := by
  unfold stake
  rw [session, fds, here]
  cases bridge.session conn with
  | none => exact acceptor
  | some thread => rfl

/-- A thread that moves on and owes as before. -/
theorem Bridge.stake_of_update (here : bridge.acceptor = point) {mine : Nat}
    {before after : SessionThread} (found : bridge.session mine = some before)
    (session : next.session = update bridge.session mine (some after))
    (fds : next.fds = bridge.fds) (owes : after.owes bridge.fds = before.owes bridge.fds)
    (acceptor : next.acceptor.owes bridge.fds conn = point.owes bridge.fds conn)
    : next.stake conn = bridge.stake conn := by
  by_cases same : conn = mine
  · subst same
    have moved : next.session conn = some after := by rw [session, update_self]
    rw [stake_of_some found, stake_of_some moved, fds, owes]
  · refine stake_congr here ?_ fds acceptor
    rw [session, update_of_ne same]

theorem Bridge.sum_setCloser (bridge : Bridge closers injectors) (caller : Fin closers)
    (point : ClosePoint) (conn : Nat)
    : ∑ other, ((bridge.setCloser caller point).closer other).owes conn
        + (bridge.closer caller).owes conn
      = ∑ other, (bridge.closer other).owes conn + point.owes conn :=
  sum_update_add (ClosePoint.owes conn) bridge.closer caller point

theorem ClosePoint.owes_cons (conn number mine : Nat) (rest : List (Nat × Nat))
    : ClosePoint.owes conn (.closing ((number, mine) :: rest))
      = ClosePoint.owes conn (.closing rest) + if mine = conn then 1 else 0 := by
  simp only [owes, List.map_cons, List.count_cons, beq_iff_eq]

/-- The snapshot moves the descriptor of a connection out of the table. Whoever has copied it still
closes it.
-/
theorem Bridge.stake_emptySlots (bridge : Bridge closers injectors) (conn : Nat)
    : bridge.emptySlots.stake conn
        + (bridge.home? conn).elim 0 (fun slot => held (bridge.fds slot))
      = bridge.stake conn + bridge.copied conn := by
  have emptied (slot : Slot) : bridge.emptySlots.fds slot = none := rfl
  have session : bridge.emptySlots.session = bridge.session := rfl
  have acceptor : bridge.emptySlots.acceptor = bridge.acceptor := rfl
  unfold stake home? copied
  rw [session, acceptor]
  cases bridge.session conn with
  | some thread =>
    obtain ⟨slot, stage⟩ := thread
    cases stage with
    | created | started => simp [SessionThread.owes, SessionStage.serving, emptied, held]
    | looping fd | locked fd => simp [SessionThread.owes, SessionStage.serving]
    | cleared fd | closing fd | exited | joined => simp [SessionThread.owes, SessionStage.serving]
  | none =>
    cases bridge.acceptor with
    | idle | starting mine slot => simp [AcceptPoint.owes, AcceptPoint.conn?]
    | busy mine number stage =>
      by_cases same : mine = conn
      · cases stage <;>
          simp [AcceptPoint.owes, AcceptPoint.conn?, AcceptPoint.armed?, same, emptied, held]
      · cases stage <;> simp [AcceptPoint.owes, AcceptPoint.conn?, same]

/-- A thread owes the same when the descriptor of the slot it serves is the same. -/
theorem SessionThread.owes_congr {fds fds' : Slot → Option Nat} {thread : SessionThread}
    (same : thread.stage.serving = true → fds thread.slot = fds' thread.slot)
    : thread.owes fds = thread.owes fds' := by
  obtain ⟨slot, stage⟩ := thread
  cases stage with
  | created | started => exact congrArg held (same rfl)
  | looping fd | locked fd | cleared fd | closing fd | exited | joined => rfl

/-- The accept loop owes the same when the descriptor of the slot it has armed is the same. -/
theorem AcceptPoint.owes_congr {fds fds' : Slot → Option Nat} (conn : Nat)
    (same : ∀ slot, point.armed? = some slot → fds slot = fds' slot)
    : point.owes fds conn = point.owes fds' conn := by
  cases point with
  | idle | starting mine slot => rfl
  | busy mine number stage =>
    cases stage with
    | armed slot => rw [owes, owes, same slot rfl]
    | accepted | targeted target | scanning target | joining target slot | ready target slot
    | failed slot | clearing slot | dropping => rfl

namespace Bridge

/-- Writing a slot does not concern a connection that neither serves nor has armed it. -/
theorem stake_setSlot {slot : Slot} {session : TcpSession}
    (elsewhere
      : ∀ place stage,
          bridge.session conn = some ⟨place, stage⟩ → stage.serving = true → place ≠ slot)
    (unarmed : bridge.session conn = none → bridge.acceptor.armed? ≠ some slot)
    : (bridge.setSlot slot session).stake conn = bridge.stake conn := by
  have other {place : Slot} (different : place ≠ slot)
      : (bridge.setSlot slot session).fds place = bridge.fds place := by
    rw [setSlot_fds, if_neg different]
  have session : (bridge.setSlot slot session).session conn = bridge.session conn := rfl
  cases found : bridge.session conn with
  | some thread =>
    obtain ⟨place, stage⟩ := thread
    rw [stake_of_some found, stake_of_some (session.trans found)]
    exact SessionThread.owes_congr (fun serving => other (elsewhere place stage found serving))
  | none =>
    rw [stake_of_none found, stake_of_none (session.trans found)]
    refine AcceptPoint.owes_congr conn ?_
    intro place armed
    exact other (fun same => unarmed found (armed.trans (congrArg some same)))

/-- Threads that serve do so on a slot that has a thread. -/
theorem Disciplined.place_ne (disciplined : bridge.Disciplined) {slot : Slot}
    (without : (bridge.slots slot).threadCreated = false) {place : Slot} {stage : SessionStage}
    (found : bridge.session conn = some ⟨place, stage⟩) (serving : stage.serving = true)
    : place ≠ slot := by
  rintro rfl
  rw [disciplined.joined_of_not_created without found] at serving
  cases serving

/-- Steps that close nothing and leave the calls of `ldn_bridge_close` alone. -/
theorem total_congr (single : bridge.doubles conn event = 0)
    (closes : next.closes conn = bridge.closes conn) (closer : next.closer = bridge.closer)
    (stake : next.stake conn = bridge.stake conn)
    : next.total conn = bridge.total conn + bridge.doubles conn event := by
  rw [single, total, total, closes, stake, closer]
  rfl

/-- A descriptor is closed that was owed to the connection. -/
theorem total_of_close {mine : Nat} (single : bridge.doubles conn event = 0)
    (closes : next.closes = update bridge.closes mine (bridge.closes mine + 1))
    (closer : next.closer = bridge.closer)
    (paid : conn = mine → next.stake conn + 1 = bridge.stake conn)
    (others : conn ≠ mine → next.stake conn = bridge.stake conn)
    : next.total conn = bridge.total conn + bridge.doubles conn event := by
  by_cases same : conn = mine
  · have stake := paid same
    subst same
    rw [single, total, total, closes, closer, update_self]
    omega
  · refine total_congr single ?_ closer (others same)
    rw [closes, update_of_ne same]

/-- A new connection is to be closed once. -/
theorem total_accepted (disciplined : bridge.Disciplined) {number : Nat}
    (here : bridge.acceptor = .idle) (accepted : next.accepted = bridge.accepted + 1)
    (acceptor : next.acceptor = .busy bridge.accepted number .accepted)
    (closes : next.closes = bridge.closes) (session : next.session = bridge.session)
    (fds : next.fds = bridge.fds) (closer : next.closer = bridge.closer)
    : next.total conn + bridge.due conn
      = bridge.total conn + next.due conn + bridge.doubles conn (.accept number) := by
  have single : bridge.doubles conn (.accept number) = 0 := rfl
  by_cases new : conn = bridge.accepted
  · have missing := disciplined.absent conn new.ge
    have before : bridge.stake conn = 0 := by
      rw [stake_of_none missing, here]
      rfl
    have after : next.stake conn = 1 := by
      rw [stake_of_none ((congrFun session conn).trans missing), acceptor]
      exact if_pos new.symm
    rw [single, total, total, before, after, closes, closer, Bridge.due, Bridge.due, accepted,
      if_neg new.ge.not_gt, if_pos (Nat.lt_succ_of_le new.le)]
    omega
  · have due : next.due conn = bridge.due conn := by
      rw [Bridge.due, Bridge.due, accepted]
      exact if_congr (by omega) rfl rfl
    have stake : next.stake conn = bridge.stake conn := by
      refine stake_congr here (congrFun session conn) fds ?_
      rw [acceptor]
      exact if_neg (Ne.symm new)
    rw [due, single, total, total, closes, stake, closer]
    rfl

/-- Only `accept` counts a connection. -/
theorem step_accepted (stepped : bridge.step event = some (next, output))
    (other : ∀ number, event ≠ .accept number)
    : next.accepted = bridge.accepted := by
  cases step_moves stepped
  case accept number here => exact absurd rfl (other number)
  case closeCopy fd here => cases fd <;> rfl
  all_goals rfl

theorem step_total_of_ne (disciplined : bridge.Disciplined) (homed : bridge.Homed)
    (stepped : bridge.step event = some (next, output)) (other : ∀ number, event ≠ .accept number)
    (conn : Nat)
    : next.total conn = bridge.total conn + bridge.doubles conn event := by
  have inHand := disciplined.inHand
  cases step_moves stepped
  case accept number here => exact absurd rfl (other number)
  case giveUp here | target here | full here | lock free here | relock free here
     | wait created here | choose vacant here =>
    exact total_congr rfl rfl rfl (stake_congr here rfl rfl rfl)
  case join exited here =>
    exact total_congr rfl rfl rfl
      (stake_of_update here exited rfl (setSlot_fds_same rfl) rfl rfl)
  case arm mine number target slot here =>
    rw [here] at inHand
    refine total_congr rfl rfl rfl ?_
    by_cases same : mine = conn
    · -- The accept loop passes its descriptor on to the table.
      subst same
      rw [stake_of_none inHand.2.1, here]
      refine (stake_of_none ?_).trans ?_
      · exact inHand.2.1
      · have stored : (bridge.setSlot slot
            ⟨true, (bridge.slots slot).threadCreated, some number, target⟩).fds slot
            = some number := by
          rw [setSlot_fds, if_pos rfl]
        refine (if_pos rfl).trans ?_
        exact (congrArg held stored).trans (if_pos rfl).symm
    · have written
          : (bridge.setSlot slot
              ⟨true, (bridge.slots slot).threadCreated, some number, target⟩).stake conn
            = bridge.stake conn := by
        refine stake_setSlot ?_ ?_
        · exact fun place stage found serving => disciplined.place_ne inHand.2.2.2 found serving
        · intro _
          rw [here]
          exact (Option.some_ne_none slot).symm
      rw [← written]
      exact stake_congr here rfl rfl ((if_neg same).trans (if_neg same).symm)
  case create mine number slot here =>
    rw [here] at inHand
    refine total_congr rfl rfl rfl ?_
    have fds : (bridge.setSlot slot { bridge.slots slot with threadCreated := true }).fds
        = bridge.fds := setSlot_fds_same rfl
    by_cases same : conn = mine
    · subst same
      rw [stake_of_none inHand.2.1, here,
        stake_of_some (update_self conn _ bridge.session)]
      exact (congrArg held (congrFun fds slot)).trans (if_pos rfl).symm
    · exact stake_congr here (update_of_ne same _ _) fds (if_neg (Ne.symm same)).symm
  case start here =>
    rw [here] at inHand
    exact total_congr rfl rfl rfl (stake_of_update here inHand rfl rfl rfl rfl)
  case fail mine number slot here =>
    rw [here] at inHand
    have second : bridge.doubles conn (.threadCreate false)
        = if mine = conn then 1 - held (bridge.fds slot) else 0 := by
      simp only [doubles, here]
    by_cases same : mine = conn
    · subst same
      have before : bridge.stake mine = held (bridge.fds slot) := by
        rw [stake_of_none inHand.2.1, here]
        exact if_pos rfl
      have after : stake { bridge with acceptor := .busy mine number (.failed slot) } mine = 1 := by
        refine (stake_of_none ?_).trans (if_pos rfl)
        exact inHand.2.1
      have most : held (bridge.fds slot) ≤ 1 := by
        unfold held
        split <;> omega
      rw [second, if_pos rfl, total, total, after, before]
      dsimp only
      omega
    · refine total_congr (second.trans (if_neg same)) rfl rfl ?_
      exact stake_congr here rfl rfl ((if_neg same).trans (if_neg same).symm)
  case clear mine number slot here =>
    rw [here] at inHand
    refine total_congr rfl rfl rfl ?_
    have dropping : stake { bridge with acceptor := .busy mine number .dropping } conn
        = bridge.stake conn := stake_congr here rfl rfl rfl
    have freed : (setSlot { bridge with acceptor := .busy mine number .dropping } slot
            (bridge.slots slot).free).stake conn
          = stake { bridge with acceptor := .busy mine number .dropping } conn := by
      refine stake_setSlot ?_ ?_
      · exact fun place stage found serving => disciplined.place_ne inHand.2.2.2.1 found serving
      · exact fun _ => (Option.some_ne_none slot).symm
    rw [← dropping]
    exact freed
  case drop mine number here =>
    rw [here] at inHand
    refine total_of_close rfl rfl rfl ?_ ?_
    · rintro rfl
      have before : bridge.stake conn = 1 := by
        rw [stake_of_none inHand.2.1, here]
        exact if_pos rfl
      have after : stake { bridge.close number conn with acceptor := .idle } conn = 0 :=
        stake_of_none inHand.2.1
      rw [before, after]
    · intro different
      exact stake_congr here rfl rfl (if_neg (Ne.symm different)).symm
  case readSlot here | lockSlot free here | unlockSlot here =>
    exact total_congr rfl rfl rfl (stake_of_update rfl here rfl rfl rfl rfl)
  case clearSlot mine slot fd here =>
    refine total_congr rfl rfl rfl ?_
    by_cases same : conn = mine
    · subst same
      rw [stake_of_some here, stake_of_some (update_self conn _ bridge.session)]
      rfl
    · have freed : (bridge.setSlot slot (bridge.slots slot).free).stake conn
          = bridge.stake conn := by
        refine stake_setSlot ?_ ?_
        · rintro place stage other serving rfl
          -- The slot is that of this thread only.
          have unjoined : stage ≠ .joined := by
            rintro rfl
            cases serving
          have one := (disciplined.owns conn place stage other unjoined).armed
          have two := (disciplined.owns mine place _ here SessionStage.noConfusion).armed
          exact same (one.symm.trans two)
        · exact fun _ => disciplined.unarmed here SessionStage.noConfusion
      rw [← freed]
      exact stake_congr rfl (update_of_ne same _ _) rfl rfl
  case closeCopy mine slot fd here =>
    cases fd with
    | none => exact total_congr rfl rfl rfl (stake_of_update rfl here rfl rfl rfl rfl)
    | some number =>
      refine total_of_close rfl rfl rfl ?_ ?_
      · rintro rfl
        rw [stake_of_some here, stake_of_some (update_self conn _ bridge.session)]
        rfl
      · intro different
        exact stake_congr rfl (update_of_ne different _ _) rfl rfl
  case hold caller free here =>
    have sum := bridge.sum_setCloser caller .holding conn
    rw [here] at sum
    rw [doubles, here, if_neg ClosePoint.noConfusion]
    exact congrArg (bridge.closes conn + bridge.stake conn + ·) sum
  case take caller here =>
    have sum := bridge.sum_setCloser caller (.closing bridge.snapshot) conn
    have count : ClosePoint.owes conn (.closing bridge.snapshot) = _ :=
      count_snapshot disciplined homed conn
    have idle : ClosePoint.owes conn .holding = 0 := rfl
    have moved := bridge.stake_emptySlots conn
    rw [here] at sum
    rw [doubles, if_pos here]
    change bridge.closes conn + bridge.emptySlots.stake conn
      + ∑ other, ((bridge.setCloser caller (.closing bridge.snapshot)).closer other).owes conn
      = bridge.total conn + bridge.copied conn
    rw [total]
    omega
  case leave caller here =>
    have sum := bridge.sum_setCloser caller .idle conn
    rw [here] at sum
    rw [doubles, here, if_neg ClosePoint.noConfusion]
    exact congrArg (bridge.closes conn + bridge.stake conn + ·) sum
  case close caller number mine rest here =>
    have sum := bridge.sum_setCloser caller (.closing rest) conn
    rw [here, ClosePoint.owes_cons] at sum
    rw [doubles, here, if_neg ClosePoint.noConfusion]
    change update bridge.closes mine (bridge.closes mine + 1) conn + bridge.stake conn
      + ∑ other, ((bridge.setCloser caller (.closing rest)).closer other).owes conn
      = bridge.total conn
    rw [total]
    by_cases same : mine = conn
    · subst same
      rw [if_pos rfl] at sum
      rw [update_self]
      omega
    · rw [if_neg same] at sum
      rw [update_of_ne (Ne.symm same)]
      omega
  all_goals rfl

/-- Each step adds to the closes of a connection, made and owed, what it doubles, besides the one
that a new connection makes due.
-/
theorem step_total (disciplined : bridge.Disciplined) (homed : bridge.Homed)
    (stepped : bridge.step event = some (next, output)) (conn : Nat)
    : next.total conn + bridge.due conn
      = bridge.total conn + next.due conn + bridge.doubles conn event := by
  by_cases new : ∃ number, event = .accept number
  · obtain ⟨number, rfl⟩ := new
    cases step_moves stepped
    case accept here =>
      exact total_accepted disciplined here rfl rfl rfl rfl rfl rfl
  · have other (number : Nat) : event ≠ .accept number := fun same => new ⟨number, same⟩
    rw [step_total_of_ne disciplined homed stepped other conn, due, due,
      step_accepted stepped other]
    omega

end Bridge

end SwitchLanPlay.Sysmodule
