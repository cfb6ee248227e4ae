import SwitchLanPlay.Sysmodule.SlotDiscipline

/-! How often `close` is called for an accepted connection. A descriptor is with the accept loop,
in the table, in a snapshot of `ldn_bridge_close` or with a session thread; the closes made and
those still owed are counted together.
-/

namespace SwitchLanPlay.Sysmodule

open Function
open Option
open Foundation

variable {conn : Nat} {slot : Slot}

variable {closers injectors : Nat} {bridge next : Bridge closers injectors}

def held (fd : Option Nat) : Nat := if fd.isSome then 1 else 0

/-- The closes that the accept loop owes. What it has armed is for the session thread to close, if
it is still in the table then.
-/
def AcceptPoint.owes (fds : Slot → Option Nat) (conn : Nat) : AcceptPoint → Nat
  | .idle => 0
  | .starting _ _ => 0
  | .busy mine _ (.armed slot) => if mine = conn then held (fds slot) else 0
  | .busy mine _ _ => if mine = conn then 1 else 0

/-- The closes that a session thread owes; before it has read the descriptor, those of its slot. -/
def SessionThread.owes (fds : Slot → Option Nat) : SessionThread → Nat
  | ⟨slot, .created⟩ => held (fds slot)
  | ⟨slot, .started⟩ => held (fds slot)
  | ⟨_, .looping fd⟩ => held fd
  | ⟨_, .locked fd⟩ => held fd
  | ⟨_, .cleared fd⟩ => held fd
  | ⟨_, .closing fd⟩ => held fd
  | ⟨_, .exited⟩ => 0
  | ⟨_, .joined⟩ => 0

def ClosePoint.owes (conn : Nat) : ClosePoint → Nat
  | .closing snapshot => (snapshot.map Prod.snd).count conn
  | _ => 0

namespace Bridge

def fds (bridge : Bridge closers injectors) (slot : Slot) : Option Nat :=
  (bridge.slots slot).clientFd

/-- The closes that the thread of a connection owes, or the accept loop while there is none. -/
def stake (bridge : Bridge closers injectors) (conn : Nat) : Nat :=
  match bridge.session conn with
  | none => bridge.acceptor.owes bridge.fds conn
  | some thread => thread.owes bridge.fds

/-- The closes made for a connection and those still owed. -/
def total (bridge : Bridge closers injectors) (conn : Nat) : Nat :=
  bridge.closes conn + bridge.stake conn + ∑ caller, (bridge.closer caller).owes conn

/-- One when the descriptor is still in the table although another has it to close: its session
thread has copied it, or the accept loop has failed to create that thread.
-/
def copied (bridge : Bridge closers injectors) (conn : Nat) : Nat :=
  match bridge.session conn with
  | some ⟨slot, .looping _⟩ => held (bridge.fds slot)
  | some ⟨slot, .locked _⟩ => held (bridge.fds slot)
  | some _ => 0
  | none =>
    match bridge.acceptor with
    | .busy mine _ (.failed slot) => if mine = conn then held (bridge.fds slot) else 0
    | .busy mine _ (.clearing slot) => if mine = conn then held (bridge.fds slot) else 0
    | _ => 0

/-- One when a step adds a second close for a connection: a snapshot takes a descriptor that another
has copied, or `threadCreate` fails after a snapshot has taken the descriptor.
-/
def doubles (bridge : Bridge closers injectors) (conn : Nat)
    : BridgeEvent closers injectors → Nat
  | .threadCreate false =>
    match bridge.acceptor with
    | .busy mine _ (.armed slot) => if mine = conn then 1 - held (bridge.fds slot) else 0
    | _ => 0
  | .closer caller => if bridge.closer caller = .holding then bridge.copied conn else 0
  | _ => 0

def due (bridge : Bridge closers injectors) (conn : Nat) : Nat :=
  if conn < bridge.accepted then 1 else 0

/-- Every thread is done: the accept loop has no connection in hand, no session thread runs and no
call of `ldn_bridge_close` is under way.
-/
structure Quiet (bridge : Bridge closers injectors) : Prop where
  acceptor : bridge.acceptor = .idle
  session
    : ∀ conn thread, bridge.session conn = some thread
        → thread.stage = .exited ∨ thread.stage = .joined
  closer : ∀ caller, bridge.closer caller = .idle

end Bridge

-- Descriptors in the table

def AcceptPoint.conn? : AcceptPoint → Option Nat
  | .busy conn _ _ => some conn
  | _ => none

/-- A connection is done with: the accept loop has it no more, its session thread is at its end and
no snapshot has its descriptor.
-/
structure Bridge.Done (bridge : Bridge closers injectors) (conn : Nat) : Prop where
  acceptor : bridge.acceptor.conn? ≠ some conn
  session
    : ∀ thread, bridge.session conn = some thread
        → thread.stage = .exited ∨ thread.stage = .joined
  closer
    : ∀ caller snapshot, bridge.closer caller = .closing snapshot
        → conn ∉ snapshot.map Prod.snd

theorem Bridge.Quiet.done (quiet : bridge.Quiet) (conn : Nat) : bridge.Done conn where
  acceptor := by
    rw [quiet.acceptor]
    exact (some_ne_none conn).symm
  session := quiet.session conn
  closer := by
    intro caller snapshot closing
    rw [quiet.closer caller] at closing
    cases closing

theorem AcceptPoint.owes_eq_zero {point : AcceptPoint} (other : point.conn? ≠ some conn)
    (fds : Slot → Option Nat)
    : point.owes fds conn = 0 := by
  cases point with
  | idle | starting mine slot => rfl
  | busy mine number stage =>
    have apart : mine ≠ conn := fun same => other (congrArg some same)
    cases stage <;> exact if_neg apart

namespace Bridge

/-- What is done with owes nothing more. -/
theorem Done.total_eq (done : bridge.Done conn) : bridge.total conn = bridge.closes conn := by
  have stake : bridge.stake conn = 0 := by
    unfold Bridge.stake
    cases found : bridge.session conn with
    | none => exact AcceptPoint.owes_eq_zero done.acceptor bridge.fds
    | some thread =>
      obtain ⟨slot, stage⟩ := thread
      rcases done.session _ found with same | same
      · cases same
        rfl
      · cases same
        rfl
  have snapshots : ∑ caller, (bridge.closer caller).owes conn = 0 := by
    refine Finset.sum_eq_zero ?_
    intro caller _
    cases point : bridge.closer caller with
    | idle | holding => rfl
    | closing snapshot => exact List.count_eq_zero.mpr (done.closer caller snapshot point)
  rw [total, stake, snapshots]
  rfl

/-- The slot is armed for the connection, and its thread or the accept loop will free it. -/
def Serves (bridge : Bridge closers injectors) (conn : Nat) (slot : Slot) : Prop :=
  (∃ stage, bridge.session conn = some ⟨slot, stage⟩ ∧ stage.serving = true)
  ∨ bridge.session conn = none
    ∧ bridge.acceptor.conn? = some conn
    ∧ bridge.acceptor.armed? = some slot

/-- A descriptor in the table is that of the connection the slot is armed for. -/
def Homed (bridge : Bridge closers injectors) : Prop :=
  ∀ slot number, bridge.fds slot = some number → bridge.Serves (bridge.slotConn slot) slot

def home? (bridge : Bridge closers injectors) (conn : Nat) : Option Slot :=
  match bridge.session conn with
  | some thread => if thread.stage.serving then some thread.slot else none
  | none => if bridge.acceptor.conn? = some conn then bridge.acceptor.armed? else none

theorem home?_eq_some_iff : bridge.home? conn = some slot ↔ bridge.Serves conn slot := by
  unfold home? Bridge.Serves
  cases found : bridge.session conn with
  | none => simp
  | some thread =>
    obtain ⟨place, stage⟩ := thread
    simp [and_comm]

/-- A connection's slot is armed for it. -/
theorem Disciplined.slotConn_of_serves (disciplined : bridge.Disciplined)
    (serves : bridge.Serves conn slot)
    : bridge.slotConn slot = conn := by
  rcases serves with ⟨stage, found, serving⟩ | ⟨-, mine, armed⟩
  · have unjoined : stage ≠ .joined := by
      rintro rfl
      cases serving
    exact (disciplined.owns conn slot stage found unjoined).armed
  · have inHand := disciplined.inHand
    cases here : bridge.acceptor with
    | idle | starting other place =>
      rw [here] at mine
      cases mine
    | busy other number stage =>
      rw [here] at mine armed inHand
      cases mine
      cases stage with
      | armed place | failed place | clearing place =>
        cases armed
        exact inHand.2.2.2.2
      | accepted | targeted target | scanning target | joining target place
      | ready target place | dropping => cases armed

/-- The snapshot has the descriptor of a connection's slot, and no other of the connection. -/
theorem count_snapshot (disciplined : bridge.Disciplined) (homed : bridge.Homed) (conn : Nat)
    : (bridge.snapshot.map Prod.snd).count conn
      = (bridge.home? conn).elim 0 (fun slot => held (bridge.fds slot)) := by
  have entries
      : (bridge.snapshot.map Prod.snd).count conn
        = (List.finRange tcpSessionMax).countP
            (fun slot => decide (bridge.home? conn = some slot) && (bridge.fds slot).isSome) := by
    rw [snapshot, List.map_filterMap, List.count, List.countP_filterMap]
    refine List.countP_congr ?_
    intro slot _
    change ((((bridge.fds slot).map _).map _).map _).getD false = true ↔ _
    cases fd : bridge.fds slot with
    | none => simp
    | some number =>
      have serves := homed slot number fd
      simp only [map_some, getD_some, beq_iff_eq, isSome_some, Bool.and_true,
        decide_eq_true_eq, home?_eq_some_iff]
      constructor
      · rintro rfl
        exact serves
      · exact disciplined.slotConn_of_serves
  rw [entries]
  cases home : bridge.home? conn with
  | none => simp
  | some place =>
    simp only [Option.some.injEq]
    exact countP_finRange_at (fun slot => (bridge.fds slot).isSome) place

/-- A step of the accept loop that leaves the threads alone and arms or frees no slot. -/
theorem Serves.of_acceptor (serves : bridge.Serves conn slot) {point : AcceptPoint}
    (here : bridge.acceptor = point) (session : next.session = bridge.session)
    (mine : next.acceptor.armed? = point.armed?)
    (inHand : point.armed? = some slot → next.acceptor.conn? = point.conn?)
    : next.Serves conn slot := by
  subst here
  rcases serves with ⟨stage, found, serving⟩ | ⟨missing, conns, armed⟩
  · exact Or.inl ⟨stage, (congrFun session conn).trans found, serving⟩
  · exact Or.inr ⟨(congrFun session conn).trans missing, (inHand armed).trans conns,
      mine.trans armed⟩

/-- A thread moves on and serves as before. -/
theorem Serves.setSession (serves : bridge.Serves conn slot) {mine : Nat} {place : Slot}
    {stage later : SessionStage} (found : bridge.session mine = some ⟨place, stage⟩)
    (serving : conn = mine → stage.serving = true → later.serving = true)
    : (bridge.setSession mine ⟨place, later⟩).Serves conn slot := by
  unfold Bridge.Serves
  rw [setSession_session]
  by_cases same : conn = mine
  · rw [if_pos same]
    rcases serves with ⟨current, here, serves⟩ | ⟨missing, -⟩
    · rw [same, found] at here
      cases here
      exact Or.inl ⟨later, rfl, serving same serves⟩
    · rw [same, found] at missing
      cases missing
  · rw [if_neg same]
    exact serves

theorem setSlot_fds (bridge : Bridge closers injectors) (slot : Slot) (session : TcpSession)
    (place : Slot)
    : (bridge.setSlot slot session).fds place
      = if place = slot then session.clientFd else bridge.fds place := by
  rw [fds, setSlot_slots]
  split
  · rfl
  · rfl

/-- Writing back a slot with its own descriptor. -/
theorem setSlot_fds_same {session : TcpSession} (same : session.clientFd = bridge.fds slot)
    : (bridge.setSlot slot session).fds = bridge.fds := by
  funext place
  rw [setSlot_fds]
  split
  · rename_i here
    rw [here, same]
  · rfl

/-- A freed slot has no descriptor, and the others keep theirs. -/
theorem fds_of_free {place : Slot} {number : Nat}
    (present : (bridge.setSlot slot (bridge.slots slot).free).fds place = some number)
    : place ≠ slot ∧ bridge.fds place = some number := by
  rw [setSlot_fds] at present
  split at present
  · cases present
  · next different => exact ⟨different, present⟩

theorem Homed.step (homed : bridge.Homed) (disciplined : bridge.Disciplined)
    {event : BridgeEvent closers injectors} {output : Option SentOctets}
    (stepped : bridge.step event = some (next, output))
    : next.Homed := by
  intro place fd present
  have inHand := disciplined.inHand
  cases step_moves stepped
  case accept here | drop here =>
    exact (homed place fd present).of_acceptor here rfl rfl nofun
  case giveUp here | target here | full here | fail here | lock free here | relock free here
     | wait created here | choose vacant here =>
    exact (homed place fd present).of_acceptor here rfl rfl (fun _ => rfl)
  case join conn number joined target slot thread exited here =>
    have fds : (bridge.setSlot slot { bridge.slots slot with threadCreated := false }).fds
        = bridge.fds := setSlot_fds_same rfl
    have before : bridge.fds place = some fd := (congrFun fds place).symm.trans present
    have moved : (bridge.setSession joined ⟨slot, .joined⟩).Serves (bridge.slotConn place) place :=
      (homed place fd before).setSession exited (fun _ => Bool.noConfusion)
    exact moved.of_acceptor here rfl rfl nofun
  case arm conn number target slot here =>
    rw [here] at inHand
    by_cases same : place = slot
    · have armed : update bridge.slotConn slot conn place = conn := by
        rw [same, update_self]
      refine Or.inr ⟨?_, ?_, congrArg some same.symm⟩
      · exact (congrArg bridge.session armed).trans inHand.2.1
      · exact congrArg some armed.symm
    · have before : bridge.fds place = some fd := by
        have written := setSlot_fds bridge slot
          ⟨true, (bridge.slots slot).threadCreated, some number, target⟩ place
        rw [if_neg same] at written
        exact written.symm.trans present
      rcases homed place fd before with ⟨stage, found, serving⟩ | ⟨-, -, armed⟩
      · refine Or.inl ⟨stage, ?_, serving⟩
        exact (congrArg bridge.session (update_of_ne same _ _)).trans found
      · rw [here] at armed
        cases armed
  case create conn number slot here =>
    rw [here] at inHand
    have fds : (bridge.setSlot slot { bridge.slots slot with threadCreated := true }).fds
        = bridge.fds := setSlot_fds_same rfl
    have before : bridge.fds place = some fd := (congrFun fds place).symm.trans present
    rcases homed place fd before with ⟨stage, found, serving⟩ | ⟨-, mine, armed⟩
    · have different : bridge.slotConn place ≠ conn := by
        intro same
        rw [same, inHand.2.1] at found
        cases found
      exact Or.inl ⟨stage, (update_of_ne different _ _).trans found, serving⟩
    · rw [here] at mine armed
      cases armed
      have same : bridge.slotConn place = conn := (Option.some.inj mine).symm
      refine Or.inl ⟨.created, ?_, rfl⟩
      change update bridge.session conn _ (bridge.slotConn place) = _
      rw [same, update_self]
  case start conn slot here =>
    rw [here] at inHand
    have moved : (bridge.setSession conn ⟨slot, .started⟩).Serves (bridge.slotConn place) place :=
      (homed place fd present).setSession inHand (fun _ _ => rfl)
    exact moved.of_acceptor here rfl rfl nofun
  case clear conn number slot here =>
    obtain ⟨different, before⟩ := fds_of_free present
    rcases homed place fd before with ⟨stage, found, serving⟩ | ⟨-, -, armed⟩
    · exact Or.inl ⟨stage, found, serving⟩
    · rw [here] at armed
      exact absurd (Option.some.inj armed).symm different
  case readSlot here | lockSlot free here =>
    exact (homed place fd present).setSession here (fun _ _ => rfl)
  case clearSlot conn slot copy here =>
    obtain ⟨different, before⟩ := fds_of_free present
    have serves := homed place fd before
    refine serves.setSession here ?_
    -- The thread serves its own slot only.
    intro mine _
    have own : bridge.Serves (bridge.slotConn place) slot := Or.inl ⟨.locked copy, mine ▸ here, rfl⟩
    have one := home?_eq_some_iff.mpr serves
    have two := home?_eq_some_iff.mpr own
    exact absurd (Option.some.inj (one.symm.trans two)) different
  case unlockSlot here =>
    exact (homed place fd present).setSession here (fun _ => Bool.noConfusion)
  case closeCopy copy here =>
    cases copy <;> exact (homed place fd present).setSession here (fun _ => Bool.noConfusion)
  case take => cases present
  all_goals exact (homed place fd present).of_acceptor rfl rfl rfl (fun _ => rfl)

end Bridge

end SwitchLanPlay.Sysmodule
