import SwitchLanPlay.Sysmodule.SessionLock

/-! The slots of the session table in every interleaving: which thread uses a slot's stack and
`Thread`, and what the accept loop knows of the slot it has in hand.
-/

namespace SwitchLanPlay.Sysmodule

open Function
open Foundation

variable {stage : SessionStage} {output : Option SentOctets}

variable {conn number : Nat} {slot : Slot}

variable {closers injectors : Nat} {bridge next : Bridge closers injectors}

-- Slots and their threads

def SessionStage.serving : SessionStage → Bool
  | .created => true
  | .started => true
  | .looping _ => true
  | .locked _ => true
  | _ => false

/-- The slot that the accept loop has armed and not yet passed on to a session thread. -/
def AcceptPoint.armed? : AcceptPoint → Option Slot
  | .busy _ _ (.armed slot) => some slot
  | .busy _ _ (.failed slot) => some slot
  | .busy _ _ (.clearing slot) => some slot
  | _ => none

/-- The slot that the accept loop has chosen is free, and once armed it is the connection's and has
no thread yet.
-/
def AcceptStage.Slotted (bridge : Bridge closers injectors) (conn : Nat) : AcceptStage → Prop
  | .joining _ slot => (bridge.slots slot).active = false ∧ (bridge.slots slot).threadCreated = true
  | .ready _ slot => (bridge.slots slot).active = false ∧ (bridge.slots slot).threadCreated = false
  | .armed slot | .failed slot | .clearing slot =>
    (bridge.slots slot).active = true
    ∧ (bridge.slots slot).threadCreated = false
    ∧ bridge.slotConn slot = conn
  | .accepted | .targeted _ | .scanning _ | .dropping => True

/-- The connection in the hands of the accept loop has no thread yet, or one that waits for its
start.
-/
def AcceptPoint.InHand (bridge : Bridge closers injectors) : AcceptPoint → Prop
  | .idle => True
  | .busy conn _ stage =>
    conn < bridge.accepted ∧ bridge.session conn = none ∧ stage.Slotted bridge conn
  | .starting conn slot => bridge.session conn = some ⟨slot, .created⟩

/-- Until it is joined, a thread is the one its slot was armed for and the one the slot's `Thread`
stands for.
-/
structure Bridge.Owns (bridge : Bridge closers injectors) (conn : Nat) (slot : Slot) : Prop where
  armed : bridge.slotConn slot = conn
  thread : bridge.slotThread slot = some conn
  created : (bridge.slots slot).threadCreated = true

structure Bridge.Disciplined (bridge : Bridge closers injectors) : Prop where
  absent : ∀ conn, bridge.accepted ≤ conn → bridge.session conn = none
  inHand : bridge.acceptor.InHand bridge
  owns
    : ∀ conn slot stage,
        bridge.session conn = some ⟨slot, stage⟩ → stage ≠ .joined → bridge.Owns conn slot
  created
    : ∀ slot,
        (bridge.slots slot).threadCreated = true
        → ∃ conn stage,
            bridge.slotThread slot = some conn
            ∧ bridge.session conn = some ⟨slot, stage⟩
            ∧ stage ≠ .joined
  serving
    : ∀ conn slot stage,
        bridge.session conn = some ⟨slot, stage⟩
        → stage.serving = true
        → (bridge.slots slot).active = true

structure Bridge.Sound (bridge : Bridge closers injectors) : Prop where
  guarded : Guarded bridge.mutex bridge.Holds
  disciplined : bridge.Disciplined

/-- A slot without a thread to join is used by none. -/
theorem Bridge.Disciplined.joined_of_not_created (disciplined : bridge.Disciplined)
    (none : (bridge.slots slot).threadCreated = false)
    (found : bridge.session conn = some ⟨slot, stage⟩)
    : stage = .joined := by
  by_contra unjoined
  have created := (disciplined.owns conn slot stage found unjoined).created
  rw [none] at created
  cases created

-- Steps that leave the slots and the session threads alone

structure Bridge.SameSlots (bridge next : Bridge closers injectors) : Prop where
  session : next.session = bridge.session
  slotConn : next.slotConn = bridge.slotConn
  slotThread : next.slotThread = bridge.slotThread
  accepted : next.accepted = bridge.accepted
  active : ∀ slot, (next.slots slot).active = (bridge.slots slot).active
  created : ∀ slot, (next.slots slot).threadCreated = (bridge.slots slot).threadCreated

theorem Bridge.SameSlots.slotted (same : bridge.SameSlots next) {stage : AcceptStage}
    (slotted : stage.Slotted bridge conn)
    : stage.Slotted next conn := by
  unfold AcceptStage.Slotted at slotted ⊢
  simp only [same.active, same.created, same.slotConn]
  exact slotted

theorem Bridge.SameSlots.inHand (same : bridge.SameSlots next) {point : AcceptPoint}
    (inHand : point.InHand bridge)
    : point.InHand next := by
  cases point with
  | idle => trivial
  | busy conn number stage =>
    refine ⟨?_, ?_, same.slotted inHand.2.2⟩
    · rw [same.accepted]
      exact inHand.1
    · rw [same.session]
      exact inHand.2.1
  | starting conn slot => exact (congrFun same.session conn).trans inHand

/-- Such a step needs to care only for what the accept loop has in hand. -/
theorem Bridge.Disciplined.transfer (disciplined : bridge.Disciplined)
    (same : bridge.SameSlots next) (inHand : next.acceptor.InHand bridge)
    : next.Disciplined where
  absent := by
    rw [same.accepted, same.session]
    exact disciplined.absent
  inHand := same.inHand inHand
  owns := by
    intro conn slot stage found unjoined
    rw [same.session] at found
    have owns := disciplined.owns conn slot stage found unjoined
    refine ⟨?_, ?_, ?_⟩
    · rw [same.slotConn]
      exact owns.armed
    · rw [same.slotThread]
      exact owns.thread
    · rw [same.created]
      exact owns.created
  created := by
    intro slot created
    rw [same.created] at created
    rw [same.slotThread, same.session]
    exact disciplined.created slot created
  serving := by
    intro conn slot stage found serving
    rw [same.session] at found
    rw [same.active]
    exact disciplined.serving conn slot stage found serving

/-- Who neither runs the accept loop nor a session thread. -/
def BridgeEvent.bystander : BridgeEvent closers injectors → Bool
  | .closer _ => true
  | .inject _ _ _ => true
  | .injector _ => true
  | .send _ _ => true
  | .opened _ => true
  | .closed _ => true
  | _ => false

/-- Only the accept loop and the session threads change the slots and their threads. -/
theorem Bridge.step_sameSlots {event : BridgeEvent closers injectors}
    (outside : event.bystander = true) (stepped : bridge.step event = some (next, output))
    : bridge.SameSlots next ∧ next.acceptor = bridge.acceptor := by
  cases step_moves stepped
  all_goals
    first
    | exact ⟨⟨rfl, rfl, rfl, rfl, fun _ => rfl, fun _ => rfl⟩, rfl⟩
    | cases outside

-- Session threads

namespace Bridge

/-- Nothing is changed but one slot and one thread, which has no other slot, and no other thread
that is not joined has the slot.
-/
structure Changes (bridge next : Bridge closers injectors) (conn : Nat) (slot : Slot)
    : Prop where
  accepted : next.accepted = bridge.accepted
  session : ∀ other, other ≠ conn → next.session other = bridge.session other
  slots : ∀ place, place ≠ slot → next.slots place = bridge.slots place
  slotConn : ∀ place, place ≠ slot → next.slotConn place = bridge.slotConn place
  slotThread : ∀ place, place ≠ slot → next.slotThread place = bridge.slotThread place
  own : ∀ place stage, bridge.session conn = some ⟨place, stage⟩ → place = slot
  others
    : ∀ other stage,
        other ≠ conn → bridge.session other = some ⟨slot, stage⟩ → stage = .joined

/-- Such a change needs to care only for the slot and the thread. -/
theorem Disciplined.change (disciplined : bridge.Disciplined)
    (changes : bridge.Changes next conn slot) (known : conn < bridge.accepted)
    (inHand : next.acceptor.InHand next)
    (mine
      : ∀ place stage,
          next.session conn = some ⟨place, stage⟩
          → (stage ≠ .joined → next.Owns conn place)
            ∧ (stage.serving = true → (next.slots place).active = true))
    (created
      : (next.slots slot).threadCreated = true
        → ∃ stage,
            next.slotThread slot = some conn
            ∧ next.session conn = some ⟨slot, stage⟩
            ∧ stage ≠ .joined)
    : next.Disciplined where
  absent := by
    intro other fresh
    rw [changes.accepted] at fresh
    rw [changes.session other (Nat.lt_of_lt_of_le known fresh).ne']
    exact disciplined.absent other fresh
  inHand := inHand
  owns := by
    intro other place stage found unjoined
    by_cases same : other = conn
    · subst same
      exact (mine place stage found).1 unjoined
    · rw [changes.session other same] at found
      have apart : place ≠ slot := by
        rintro rfl
        exact unjoined (changes.others other stage same found)
      have owns := disciplined.owns other place stage found unjoined
      refine ⟨?_, ?_, ?_⟩
      · rw [changes.slotConn place apart]
        exact owns.armed
      · rw [changes.slotThread place apart]
        exact owns.thread
      · rw [changes.slots place apart]
        exact owns.created
  created := by
    intro place before
    by_cases same : place = slot
    · subst same
      obtain ⟨stage, thread, found, unjoined⟩ := created before
      exact ⟨conn, stage, thread, found, unjoined⟩
    · rw [changes.slots place same] at before
      obtain ⟨other, stage, thread, found, unjoined⟩ := disciplined.created place before
      have different : other ≠ conn := by
        rintro rfl
        exact same (changes.own place stage found)
      refine ⟨other, stage, ?_, ?_, unjoined⟩
      · rw [changes.slotThread place same]
        exact thread
      · rw [changes.session other different]
        exact found
  serving := by
    intro other place stage found serving
    by_cases same : other = conn
    · subst same
      exact (mine place stage found).2 serving
    · rw [changes.session other same] at found
      have apart : place ≠ slot := by
        rintro rfl
        rw [changes.others other stage same found] at serving
        cases serving
      rw [changes.slots place apart]
      exact disciplined.serving other place stage found serving

theorem Disciplined.known (disciplined : bridge.Disciplined) {thread : SessionThread}
    (found : bridge.session conn = some thread)
    : conn < bridge.accepted := by
  by_contra fresh
  rw [disciplined.absent conn (Nat.le_of_not_lt fresh)] at found
  cases found

/-- A thread that has its slot moves on. -/
theorem Disciplined.setSession (disciplined : bridge.Disciplined) {later : SessionStage}
    (found : bridge.session conn = some ⟨slot, stage⟩) (unjoined : stage ≠ .joined)
    (waiting : bridge.acceptor ≠ .starting conn slot) (still : later ≠ .joined)
    (serves : later.serving = true → stage.serving = true)
    : (bridge.setSession conn ⟨slot, later⟩).Disciplined := by
  have owns := disciplined.owns conn slot stage found unjoined
  have here : (bridge.setSession conn ⟨slot, later⟩).session conn = some ⟨slot, later⟩ :=
    update_self _ _ _
  have apart {other : Nat} (different : other ≠ conn)
      : (bridge.setSession conn ⟨slot, later⟩).session other = bridge.session other :=
    update_of_ne different _ _
  have changes : bridge.Changes (bridge.setSession conn ⟨slot, later⟩) conn slot := by
    refine ⟨rfl, fun other => apart, fun _ _ => rfl, fun _ _ => rfl, fun _ _ => rfl, ?_, ?_⟩
    · intro place seen current
      rw [found] at current
      cases current
      rfl
    · intro other seen different current
      by_contra unfinished
      exact different ((disciplined.owns other slot seen current unfinished).armed.symm.trans
        owns.armed)
  refine disciplined.change changes (disciplined.known found) ?_ ?_ ?_
  · have inHand := disciplined.inHand
    change bridge.acceptor.InHand _
    cases here : bridge.acceptor with
    | idle => trivial
    | busy mine number stage =>
      rw [here] at inHand
      have different : mine ≠ conn := by
        rintro rfl
        rw [inHand.2.1] at found
        cases found
      exact ⟨inHand.1, (apart different).trans inHand.2.1, inHand.2.2⟩
    | starting mine place =>
      rw [here] at inHand waiting
      have different : mine ≠ conn := by
        rintro rfl
        rw [AcceptPoint.InHand, found] at inHand
        cases inHand
        exact waiting rfl
      exact (apart different).trans inHand
  · intro place seen current
    rw [here] at current
    cases current
    exact ⟨fun _ => ⟨owns.armed, owns.thread, owns.created⟩,
      fun serving => disciplined.serving conn slot stage found (serves serving)⟩
  · exact fun _ => ⟨later, owns.thread, here, still⟩

/-- Freeing a slot is fine when no thread serves on it and the accept loop has not armed it. -/
theorem Disciplined.freeSlot (disciplined : bridge.Disciplined)
    (idle : ∀ conn stage, bridge.session conn = some ⟨slot, stage⟩ → stage.serving = false)
    (unarmed : bridge.acceptor.armed? ≠ some slot)
    : (bridge.setSlot slot (bridge.slots slot).free).Disciplined := by
  have created (other : Slot)
      : ((bridge.setSlot slot (bridge.slots slot).free).slots other).threadCreated
        = (bridge.slots other).threadCreated := by
    rw [setSlot_slots]
    split
    · rename_i same
      rw [same]
      rfl
    · rfl
  have inactive {other : Slot} (before : (bridge.slots other).active = false)
      : ((bridge.setSlot slot (bridge.slots slot).free).slots other).active = false := by
    rw [setSlot_slots]
    split
    · rfl
    · exact before
  have active {other : Slot} (different : other ≠ slot)
      : ((bridge.setSlot slot (bridge.slots slot).free).slots other).active
        = (bridge.slots other).active := by
    rw [setSlot_slots, if_neg different]
  constructor
  · exact disciplined.absent
  · have inHand := disciplined.inHand
    change bridge.acceptor.InHand _
    cases here : bridge.acceptor with
    | idle => trivial
    | starting mine place =>
      rw [here] at inHand
      exact inHand
    | busy mine number stage =>
      rw [here] at inHand unarmed
      refine ⟨inHand.1, inHand.2.1, ?_⟩
      have slotted := inHand.2.2
      cases stage with
      | joining target place => exact ⟨inactive slotted.1, (created place).trans slotted.2⟩
      | ready target place => exact ⟨inactive slotted.1, (created place).trans slotted.2⟩
      | armed place | failed place | clearing place =>
        have different : place ≠ slot := fun same => unarmed (congrArg some same)
        exact ⟨(active different).trans slotted.1, (created place).trans slotted.2.1,
          slotted.2.2⟩
      | accepted | targeted target | scanning target | dropping => trivial
  · intro conn place stage found unjoined
    have owns := disciplined.owns conn place stage found unjoined
    exact ⟨owns.armed, owns.thread, (created place).trans owns.created⟩
  · intro place before
    rw [created] at before
    exact disciplined.created place before
  · intro conn place stage found serving
    have different : place ≠ slot := by
      rintro rfl
      rw [idle conn stage found] at serving
      cases serving
    rw [active different]
    exact disciplined.serving conn place stage found serving

/-- The accept loop has not armed the slot of a thread that is not joined. -/
theorem Disciplined.unarmed (disciplined : bridge.Disciplined)
    (found : bridge.session conn = some ⟨slot, stage⟩) (unjoined : stage ≠ .joined)
    : bridge.acceptor.armed? ≠ some slot := by
  have created := (disciplined.owns conn slot stage found unjoined).created
  have inHand := disciplined.inHand
  intro armed
  cases here : bridge.acceptor with
  | idle =>
    rw [here] at armed
    cases armed
  | starting mine place =>
    rw [here] at armed
    cases armed
  | busy mine number stage =>
    rw [here] at armed inHand
    have slotted := inHand.2.2
    cases stage with
    | armed place | failed place | clearing place =>
      cases armed
      rw [slotted.2.1] at created
      cases created
    | accepted | targeted target | scanning target | joining target place | ready target place
    | dropping => cases armed

/-- A thread that runs moves on; nothing else of the slots changes. -/
theorem Disciplined.advance (disciplined : bridge.Disciplined) {later : SessionStage}
    (found : bridge.session conn = some ⟨slot, stage⟩)
    (same : (bridge.setSession conn ⟨slot, later⟩).SameSlots next)
    (acceptor : next.acceptor = bridge.acceptor) (running : stage ≠ .created)
    (unjoined : stage ≠ .joined) (still : later ≠ .joined)
    (serves : later.serving = true → stage.serving = true)
    : next.Disciplined := by
  have waiting : bridge.acceptor ≠ .starting conn slot := by
    intro starting
    have inHand := disciplined.inHand
    rw [starting, AcceptPoint.InHand, found] at inHand
    cases inHand
    exact running rfl
  have moved : (bridge.setSession conn ⟨slot, later⟩).Disciplined :=
    disciplined.setSession found unjoined waiting still serves
  exact moved.transfer same (acceptor ▸ moved.inHand)

/-- A thread that has the lock frees its slot. -/
theorem Disciplined.clearSlot (disciplined : bridge.Disciplined) {fd : Option Nat}
    (found : bridge.session conn = some ⟨slot, .locked fd⟩)
    : ((bridge.setSlot slot (bridge.slots slot).free).setSession conn
        ⟨slot, .cleared fd⟩).Disciplined := by
  have moved : (bridge.setSession conn ⟨slot, .cleared fd⟩).Disciplined :=
    disciplined.advance found ⟨rfl, rfl, rfl, rfl, fun _ => rfl, fun _ => rfl⟩ rfl nofun nofun
      nofun Bool.noConfusion
  have here : (bridge.setSession conn ⟨slot, .cleared fd⟩).session conn
      = some ⟨slot, .cleared fd⟩ := by
    rw [setSession_session, if_pos rfl]
  refine moved.freeSlot ?_ (moved.unarmed here nofun)
  -- Only this thread has the slot, and it serves no longer.
  intro other stage found
  by_cases joined : stage = .joined
  · rw [joined]
    rfl
  · have mine := (moved.owns conn slot _ here nofun).armed
    have same := (moved.owns other slot stage found joined).armed
    rw [← same, mine, here] at found
    cases found
    rfl

end Bridge

-- The accept loop

/-- A new connection has no thread. -/
theorem Bridge.Disciplined.accept (disciplined : bridge.Disciplined)
    {sockets : Nat → Option Socket}
    : Bridge.Disciplined {
        bridge with
        acceptor := .busy bridge.accepted number .accepted
        sockets := sockets
        accepted := bridge.accepted + 1
      } where
  absent := fun conn fresh => disciplined.absent conn (Nat.le_of_succ_le fresh)
  inHand := ⟨Nat.lt_succ_self _, disciplined.absent _ (Nat.le_refl _), trivial⟩
  owns := by
    intro conn slot stage found unjoined
    have owns := disciplined.owns conn slot stage found unjoined
    exact ⟨owns.armed, owns.thread, owns.created⟩
  created := disciplined.created
  serving := disciplined.serving

/-- The armed slot has its thread. -/
theorem Bridge.Disciplined.create (disciplined : bridge.Disciplined)
    (inHand : AcceptPoint.InHand bridge (.busy conn number (.armed slot)))
    : Bridge.Disciplined {
        (bridge.setSlot slot { bridge.slots slot with threadCreated := true }).setSession conn
          ⟨slot, .created⟩ with
        slotThread := update bridge.slotThread slot (some conn)
        acceptor := .starting conn slot
      } := by
  obtain ⟨known, missing, active, without, armed⟩ := inHand
  refine disciplined.change
    ⟨rfl, fun _ apart => update_of_ne apart _ _,
      fun _ apart => update_of_ne apart _ _, fun _ _ => rfl,
      fun _ apart => update_of_ne apart _ _, ?_, ?_⟩
    known (update_self _ _ _) ?_ ?_
  · intro place stage found
    rw [missing] at found
    cases found
  · exact fun _ _ _ => disciplined.joined_of_not_created without
  · intro place stage found
    cases (update_self conn _ bridge.session).symm.trans found
    refine ⟨fun _ => ⟨armed, update_self _ _ _, ?_⟩, fun _ => ?_⟩
    · simp only [Bridge.setSession, setSlot, update_self]
    · simp only [Bridge.setSession, setSlot, update_self]
      exact active
  · exact fun _ =>
      ⟨.created, update_self _ _ _, update_self _ _ _, SessionStage.noConfusion⟩

/-- The accept loop has joined the thread of the slot it has chosen. -/
theorem Bridge.Disciplined.join (disciplined : bridge.Disciplined) {joined : Nat} {target : UInt32}
    (inHand : AcceptPoint.InHand bridge (.busy conn number (.joining target slot)))
    (thread : bridge.slotThread slot = some joined)
    (exited : bridge.session joined = some ⟨slot, .exited⟩)
    : Bridge.Disciplined {
        (bridge.setSlot slot { bridge.slots slot with threadCreated := false }).setSession
          joined ⟨slot, .joined⟩ with
        acceptor := .busy conn number (.ready target slot)
      } := by
  obtain ⟨known, missing, inactive, -⟩ := inHand
  refine disciplined.change
    ⟨rfl, fun _ apart => update_of_ne apart _ _,
      fun _ apart => update_of_ne apart _ _, fun _ _ => rfl, fun _ _ => rfl, ?_, ?_⟩
    (disciplined.known exited) ?_ ?_ ?_
  · intro place stage found
    rw [exited] at found
    cases found
    rfl
  · -- The joined thread was the only one of the slot.
    intro other stage different found
    by_contra unjoined
    have owner := (disciplined.owns other slot stage found unjoined).thread
    exact different (Option.some.inj (owner.symm.trans thread))
  · have different : conn ≠ joined := by
      rintro rfl
      rw [missing] at exited
      cases exited
    refine ⟨known, (update_of_ne different _ _).trans missing, ?_, ?_⟩
    · simp only [Bridge.setSession, setSlot, update_self]
      exact inactive
    · simp only [Bridge.setSession, setSlot, update_self]
  · intro place stage found
    cases (update_self joined _ bridge.session).symm.trans found
    exact ⟨absurd rfl, Bool.noConfusion⟩
  · intro created
    simp only [Bridge.setSession, setSlot, update_self] at created
    cases created

/-- The accept loop arms a slot that has no thread. -/
theorem Bridge.Disciplined.arm (disciplined : bridge.Disciplined) {target : UInt32}
    (inHand : AcceptPoint.InHand bridge (.busy conn number (.ready target slot)))
    : Bridge.Disciplined {
        (bridge.setSlot slot
          ⟨true, (bridge.slots slot).threadCreated, some number, target⟩).unlock with
        slotConn := update bridge.slotConn slot conn
        acceptor := .busy conn number (.armed slot)
      } := by
  obtain ⟨known, missing, -, without⟩ := inHand
  refine disciplined.change
    ⟨rfl, fun _ _ => rfl, fun _ apart => update_of_ne apart _ _,
      fun _ apart => update_of_ne apart _ _, fun _ _ => rfl, ?_, ?_⟩
    known ⟨known, missing, ?_, ?_, update_self _ _ _⟩ ?_ ?_
  · intro place stage found
    rw [missing] at found
    cases found
  · exact fun _ _ _ => disciplined.joined_of_not_created without
  · simp only [unlock, setSlot, update_self]
  · simp only [unlock, setSlot, update_self]
    exact without
  · intro place stage found
    cases missing.symm.trans found
  · intro created
    simp only [unlock, setSlot, update_self, without] at created
    cases created

/-- The accept loop frees the slot whose thread could not be created. -/
theorem Bridge.Disciplined.clear (disciplined : bridge.Disciplined)
    (inHand : AcceptPoint.InHand bridge (.busy conn number (.clearing slot)))
    : Bridge.Disciplined {
        (bridge.setSlot slot (bridge.slots slot).free).unlock with
        acceptor := .busy conn number .dropping
      } := by
  have dropping : Bridge.Disciplined { bridge with acceptor := .busy conn number .dropping } :=
    disciplined.transfer ⟨rfl, rfl, rfl, rfl, fun _ => rfl, fun _ => rfl⟩
      ⟨inHand.1, inHand.2.1, trivial⟩
  have freed : Bridge.Disciplined (setSlot
      { bridge with acceptor := .busy conn number .dropping } slot (bridge.slots slot).free) := by
    refine dropping.freeSlot ?_ (Option.some_ne_none slot).symm
    intro other stage found
    rw [disciplined.joined_of_not_created inHand.2.2.2.1 found]
    rfl
  exact freed.transfer ⟨rfl, rfl, rfl, rfl, fun _ => rfl, fun _ => rfl⟩ freed.inHand

-- Every interleaving

theorem Bridge.step_disciplined (disciplined : bridge.Disciplined)
    {event : BridgeEvent closers injectors} (stepped : bridge.step event = some (next, output))
    : next.Disciplined := by
  have inHand {point : AcceptPoint} (here : bridge.acceptor = point) : point.InHand bridge :=
    here ▸ disciplined.inHand
  -- A step of the accept loop that leaves the slots and the threads alone.
  have loop {after : Bridge closers injectors} (same : bridge.SameSlots after)
      (inHand : after.acceptor.InHand bridge)
      : after.Disciplined := disciplined.transfer same inHand
  cases step_moves stepped
  case accept => exact disciplined.accept
  case giveUp here | target here | lock free here | full here =>
    exact loop ⟨rfl, rfl, rfl, rfl, fun _ => rfl, fun _ => rfl⟩
      ⟨(inHand here).1, (inHand here).2.1, trivial⟩
  case wait found created here =>
    exact loop ⟨rfl, rfl, rfl, rfl, fun _ => rfl, fun _ => rfl⟩
      ⟨(inHand here).1, (inHand here).2.1, SlotView.free?_some found, created⟩
  case choose found vacant here =>
    exact loop ⟨rfl, rfl, rfl, rfl, fun _ => rfl, fun _ => rfl⟩
      ⟨(inHand here).1, (inHand here).2.1, SlotView.free?_some found,
        Bool.eq_false_iff.mpr vacant⟩
  case join thread exited here => exact disciplined.join (inHand here) thread exited
  case arm here => exact disciplined.arm (inHand here)
  case create here => exact disciplined.create (inHand here)
  case start here =>
    have idle : Bridge.Disciplined { bridge with acceptor := .idle } :=
      loop ⟨rfl, rfl, rfl, rfl, fun _ => rfl, fun _ => rfl⟩ trivial
    exact idle.setSession (inHand here) nofun nofun nofun (fun _ => rfl)
  case fail here | relock free here =>
    have armed := inHand here
    exact loop ⟨rfl, rfl, rfl, rfl, fun _ => rfl, fun _ => rfl⟩ armed
  case clear here => exact disciplined.clear (inHand here)
  case drop here => exact loop ⟨rfl, rfl, rfl, rfl, fun _ => rfl, fun _ => rfl⟩ trivial
  case readSlot here | lockSlot free here =>
    exact disciplined.advance here ⟨rfl, rfl, rfl, rfl, fun _ => rfl, fun _ => rfl⟩ rfl nofun nofun
      nofun (fun _ => rfl)
  case clearSlot here => exact disciplined.clearSlot here
  case unlockSlot here =>
    exact disciplined.advance here ⟨rfl, rfl, rfl, rfl, fun _ => rfl, fun _ => rfl⟩ rfl nofun nofun
      nofun Bool.noConfusion
  case closeCopy fd here =>
    cases fd <;>
      exact disciplined.advance here ⟨rfl, rfl, rfl, rfl, fun _ => rfl, fun _ => rfl⟩ rfl nofun
        nofun nofun Bool.noConfusion
  all_goals
    obtain ⟨same, acceptor⟩ := step_sameSlots rfl stepped
    exact loop same (acceptor ▸ disciplined.inHand)

theorem Bridge.init_sound (opened : Nat → Bool)
    : (Bridge.init opened : Bridge closers injectors).Sound := by
  refine ⟨?_, fun _ _ => rfl, trivial, ?_, ?_, ?_⟩
  · rintro (_ | conn | caller | caller) held
    · cases held
    · obtain ⟨thread, found, -⟩ := held
      cases found
    · cases held
    · cases held
  · intro conn slot stage found
    cases found
  · intro slot created
    cases created
  · intro conn slot stage found
    cases found

/-- The invariant holds in every interleaving. -/
theorem bridgeMachine_sound {opened : Nat → Bool} {history : List (BridgeEvent closers injectors)}
    (reached : (bridgeMachine closers injectors).run (some (.init opened)) history = some bridge)
    : bridge.Sound := by
  refine Machine.failing_run_invariant Bridge.Sound ?_ (Bridge.init_sound opened) reached
  intro bridge event next output sound stepped
  exact ⟨Bridge.step_guarded sound.guarded stepped,
    Bridge.step_disciplined sound.disciplined stepped⟩

end SwitchLanPlay.Sysmodule
