import SwitchLanPlay.Sysmodule.SessionLock

/-! Who gets the octets that `ldn_bridge_tcp_inject_from_relay` sends. A descriptor is only a
number, which the kernel may give out again once it is closed. It goes from the accept loop into
the table, and from there into injections, which keep it longer than the table.
-/

namespace SwitchLanPlay.Sysmodule

open Function
open Option
open Foundation

variable {closers injectors : Nat} {bridge next : Bridge closers injectors}

/-- A number that is kept for a connection, and the target the connection was accepted with, if it
is known yet.
-/
structure Kept where
  number : Nat
  conn : Nat
  target : Option UInt32
deriving DecidableEq, Repr

/-- What the accept loop keeps. Once a slot is armed, it is the slot that has the number. -/
def AcceptPoint.kept? : AcceptPoint → Option Kept
  | .busy conn number .accepted => some ⟨number, conn, none⟩
  | .busy conn number (.targeted target) => some ⟨number, conn, some target⟩
  | .busy conn number (.scanning target) => some ⟨number, conn, some target⟩
  | .busy conn number (.joining target _) => some ⟨number, conn, some target⟩
  | .busy conn number (.ready target _) => some ⟨number, conn, some target⟩
  | .busy _ _ (.armed _) => none
  | .busy _ _ (.failed _) => none
  | .busy _ _ (.clearing _) => none
  | .busy _ _ .dropping => none
  | .starting _ _ => none
  | .idle => none

def Bridge.slotKept? (bridge : Bridge closers injectors) (slot : Slot) : Option Kept :=
  (bridge.slots slot).clientFd.map fun number =>
    ⟨number, bridge.slotConn slot, some (bridge.slots slot).targetIp⟩

/-- An injection keeps the number as long as it has octets to send. -/
def Injection.kept? (injection : Injection) : Option Kept :=
  if injection.data = [] then none
  else some ⟨injection.number, injection.conn, some injection.src⟩

def InjectPoint.kept? : InjectPoint → Option Kept
  | .found injection => injection.kept?
  | .writing injection => injection.kept?
  | .sending injection => injection.kept?
  | .idle => none
  | .waiting _ _ => none
  | .looking _ _ => none

namespace Bridge

def kept (bridge : Bridge closers injectors) : Set Kept :=
  {kept |
    kept ∈ bridge.acceptor.kept?
    ∨ (∃ slot, kept ∈ bridge.slotKept? slot)
    ∨ ∃ caller, kept ∈ (bridge.injector caller).kept?}

/-- What is kept for a connection stands for it, unless it is closed, and the connection has the
target it is kept with.
-/
structure Addressed (bridge : Bridge closers injectors) : Prop where
  stands
    : ∀ kept ∈ bridge.kept,
        bridge.sockets kept.number = none
        ∨ bridge.sockets kept.number = some (.connection kept.conn)
  target : ∀ kept ∈ bridge.kept, bridge.target kept.conn = kept.target
  known : ∀ kept ∈ bridge.kept, kept.conn < bridge.accepted
  unknown : ∀ conn, bridge.accepted ≤ conn → bridge.target conn = none

/-- A step that gives out no number and reads no target. -/
structure KeepsNoMore (bridge next : Bridge closers injectors) : Prop where
  kept : next.kept ⊆ bridge.kept
  sockets : ∀ number, next.sockets number = none ∨ next.sockets number = bridge.sockets number
  target : next.target = bridge.target
  accepted : next.accepted = bridge.accepted

theorem Addressed.of_keepsNoMore (addressed : bridge.Addressed)
    (step : bridge.KeepsNoMore next)
    : next.Addressed where
  stands := by
    intro kept mem
    rcases step.sockets kept.number with closed | same
    · exact Or.inl closed
    · rw [same]
      exact addressed.stands kept (step.kept mem)
  target := by
    intro kept mem
    rw [step.target]
    exact addressed.target kept (step.kept mem)
  known := by
    intro kept mem
    rw [step.accepted]
    exact addressed.known kept (step.kept mem)
  unknown := by
    rw [step.target, step.accepted]
    exact addressed.unknown

/-- Nothing is kept that was not, by its keepers. -/
theorem kept_subset
    (acceptor : ∀ kept ∈ next.acceptor.kept?, kept ∈ bridge.kept)
    (slots : ∀ slot, ∀ kept ∈ next.slotKept? slot, kept ∈ bridge.kept)
    (injector : ∀ caller, ∀ kept ∈ (next.injector caller).kept?, kept ∈ bridge.kept)
    : next.kept ⊆ bridge.kept := by
  rintro kept (mem | ⟨slot, mem⟩ | ⟨caller, mem⟩)
  · exact acceptor kept mem
  · exact slots slot kept mem
  · exact injector caller kept mem

theorem mem_kept_of_acceptor {kept : Kept} (mem : kept ∈ bridge.acceptor.kept?)
    : kept ∈ bridge.kept := Or.inl mem

theorem mem_kept_of_slot {kept : Kept} {slot : Slot} (mem : kept ∈ bridge.slotKept? slot)
    : kept ∈ bridge.kept := Or.inr (Or.inl ⟨slot, mem⟩)

theorem mem_kept_of_injector {kept : Kept} {caller : Fin injectors} {point : InjectPoint}
    (here : bridge.injector caller = point) (mem : kept ∈ point.kept?)
    : kept ∈ bridge.kept := Or.inr (Or.inr ⟨caller, here.symm ▸ mem⟩)

theorem mem_setSlot_slotKept? {slot place : Slot} {session : TcpSession} {kept : Kept}
    : kept ∈ (bridge.setSlot slot session).slotKept? place
      ↔ if place = slot then
          ∃ number,
            session.clientFd = some number
            ∧ kept = ⟨number, bridge.slotConn slot, some session.targetIp⟩
        else kept ∈ bridge.slotKept? place := by
  simp only [slotKept?, setSlot_slots]
  split
  · rename_i same
    rw [same, mem_def, map_eq_some_iff]
    exact exists_congr fun number => and_congr_right fun _ => eq_comm
  · exact Iff.rfl

/-- A slot written back with its own descriptor, if with any. -/
theorem mem_slotKept?_of_setSlot {slot place : Slot} {session : TcpSession} {kept : Kept}
    (mem : kept ∈ (bridge.setSlot slot session).slotKept? place)
    (fd : session.clientFd = none ∨ session.clientFd = (bridge.slots slot).clientFd)
    (target : session.targetIp = (bridge.slots slot).targetIp)
    : kept ∈ bridge.slotKept? place := by
  rw [mem_setSlot_slotKept?] at mem
  split at mem
  · rename_i here
    obtain ⟨number, written, rfl⟩ := mem
    rcases fd with closed | same
    · rw [closed] at written
      cases written
    · rw [here, target]
      exact map_eq_some_iff.mpr ⟨number, same.symm.trans written, rfl⟩
  · exact mem

end Bridge

/-- A number that is closed stands for nothing, the others for what they stood. -/
theorem update_none_or (sockets : Nat → Option Socket) (closed number : Nat)
    : update sockets closed none number = none
      ∨ update sockets closed none number = sockets number := by
  by_cases same : number = closed
  · rw [same]
    exact Or.inl (update_self _ _ _)
  · exact Or.inr (update_of_ne same _ _)

-- Steps

/-- The accept loop and the table keep what they kept, or less. -/
theorem Bridge.KeepsNoMore.of_less {point : AcceptPoint} (here : bridge.acceptor = point)
    (acceptor : ∀ kept ∈ next.acceptor.kept?, kept ∈ point.kept?)
    (slots : ∀ slot, ∀ kept ∈ next.slotKept? slot, kept ∈ bridge.slotKept? slot)
    (injector : next.injector = bridge.injector)
    (sockets : ∀ number, next.sockets number = none ∨ next.sockets number = bridge.sockets number)
    (target : next.target = bridge.target) (accepted : next.accepted = bridge.accepted)
    : bridge.KeepsNoMore next := by
  subst here
  refine ⟨kept_subset ?_ ?_ ?_, sockets, target, accepted⟩
  · exact fun kept mem => mem_kept_of_acceptor (acceptor kept mem)
  · exact fun slot kept mem => mem_kept_of_slot (slots slot kept mem)
  · rw [injector]
    exact fun caller kept mem => mem_kept_of_injector rfl mem

theorem Bridge.KeepsNoMore.of_acceptor {point : AcceptPoint} (here : bridge.acceptor = point)
    (acceptor : ∀ kept ∈ next.acceptor.kept?, kept ∈ point.kept?)
    (slots : ∀ slot, ∀ kept ∈ next.slotKept? slot, kept ∈ bridge.slotKept? slot)
    (injector : next.injector = bridge.injector) (sockets : next.sockets = bridge.sockets)
    (target : next.target = bridge.target) (accepted : next.accepted = bridge.accepted)
    : bridge.KeepsNoMore next :=
  of_less here acceptor slots injector (fun number => .inr (congrFun sockets number)) target
    accepted

/-- An injection moves on with a number that was kept. -/
theorem Bridge.KeepsNoMore.of_injector {caller : Fin injectors} {point : InjectPoint}
    (injector : next.injector = update bridge.injector caller point)
    (acceptor : next.acceptor = bridge.acceptor) (slots : next.slotKept? = bridge.slotKept?)
    (sockets : next.sockets = bridge.sockets) (target : next.target = bridge.target)
    (accepted : next.accepted = bridge.accepted)
    (moved : ∀ kept ∈ point.kept?, kept ∈ bridge.kept)
    : bridge.KeepsNoMore next := by
  refine ⟨kept_subset ?_ ?_ ?_, fun number => .inr (congrFun sockets number), target, accepted⟩
  · rw [acceptor]
    exact fun kept mem => mem_kept_of_acceptor mem
  · rw [slots]
    exact fun slot kept mem => mem_kept_of_slot mem
  · rw [injector]
    intro other kept mem
    rw [update_apply] at mem
    split at mem
    · exact moved kept mem
    · exact mem_kept_of_injector rfl mem

/-- What a search finds is in the table. -/
theorem Bridge.lookUp_kept {src : UInt32} {data : Bytes} {injection : Injection}
    (found : bridge.lookUp src data = some injection)
    : ∀ kept ∈ injection.kept?, kept ∈ bridge.kept := by
  obtain ⟨slot, here, read⟩ := bind_eq_some_iff.mp found
  obtain ⟨number, fd, rfl⟩ := map_eq_some_iff.mp read
  intro kept mem
  have target : (bridge.slots slot).targetIp = src := (SlotView.match?_some here).2
  have slotKept : bridge.slotKept? slot = some ⟨number, bridge.slotConn slot, some src⟩ := by
    rw [slotKept?, fd, target]
    rfl
  unfold Injection.kept? at mem
  split at mem
  · cases mem
  · cases mem
    exact mem_kept_of_slot slotKept

/-- An injection that has sent some of its octets keeps the number, or nothing. -/
theorem Injection.kept?_of_less {injection : Injection} {data : Bytes}
    (less : injection.data = [] → data = [])
    : ∀ kept ∈ ({ injection with data := data } : Injection).kept?, kept ∈ injection.kept? := by
  intro kept mem
  unfold kept? at mem ⊢
  split at mem
  · cases mem
  · rename_i left
    rw [if_neg (fun none => left (less none))]
    exact mem

-- Numbers that are given out

def BridgeEvent.issued? : BridgeEvent closers injectors → Option Nat
  | .accept number => some number
  | .opened number => some number
  | _ => none

namespace Bridge

/-- No number is given out that is still kept for a connection. -/
def IssuesUnkept (bridge : Bridge closers injectors) (event : BridgeEvent closers injectors)
    : Prop := ∀ number ∈ event.issued?, ∀ kept ∈ bridge.kept, kept.number ≠ number

theorem Addressed.accept (addressed : bridge.Addressed) {number : Nat}
    (unkept : ∀ kept ∈ bridge.kept, kept.number ≠ number)
    : ({
        bridge with
        acceptor := .busy bridge.accepted number .accepted
        sockets := update bridge.sockets number (some (.connection bridge.accepted))
        accepted := bridge.accepted + 1
      } : Bridge closers injectors).Addressed := by
  refine ⟨?_, ?_, ?_, ?_⟩
  · rintro kept (mem | old)
    · cases mem
      exact Or.inr (update_self _ _ _)
    · have here : kept ∈ bridge.kept := Or.inr old
      have other := update_of_ne (unkept kept here)
        (some (Socket.connection bridge.accepted)) bridge.sockets
      simp only [other]
      exact addressed.stands kept here
  · rintro kept (mem | old)
    · cases mem
      exact addressed.unknown bridge.accepted le_rfl
    · exact addressed.target kept (Or.inr old)
  · rintro kept (mem | old)
    · cases mem
      exact Nat.lt_succ_self _
    · exact Nat.lt_succ_of_lt (addressed.known kept (Or.inr old))
  · intro conn unknown
    exact addressed.unknown conn (Nat.le_of_succ_le unknown)

/-- The target is read before a slot or an injection keeps the number. -/
theorem kept_target_isSome {kept : Kept}
    (mem
      : (∃ slot, kept ∈ bridge.slotKept? slot) ∨ ∃ caller, kept ∈ (bridge.injector caller).kept?)
    : kept.target ≠ none := by
  have ofInjection {injection : Injection} (mem : kept ∈ injection.kept?) : kept.target ≠ none := by
    unfold Injection.kept? at mem
    split at mem
    · cases mem
    · cases mem
      exact some_ne_none _
  rcases mem with ⟨slot, mem⟩ | ⟨caller, mem⟩
  · obtain ⟨number, -, rfl⟩ := map_eq_some_iff.mp mem
    exact some_ne_none _
  · cases point : bridge.injector caller with
    | found injection | writing injection | sending injection =>
      rw [point] at mem
      exact ofInjection mem
    | idle | waiting src data | looking src data =>
      rw [point] at mem
      cases mem

theorem Addressed.readTarget (addressed : bridge.Addressed) {conn number : Nat}
    {target : UInt32} (here : bridge.acceptor = .busy conn number .accepted)
    : ({
        bridge with
        acceptor := .busy conn number (.targeted target)
        target := update bridge.target conn (some target)
      } : Bridge closers injectors).Addressed := by
  have mine : (⟨number, conn, none⟩ : Kept) ∈ bridge.kept := by
    refine mem_kept_of_acceptor ?_
    rw [here]
    rfl
  refine ⟨?_, ?_, ?_, ?_⟩
  · rintro kept (mem | old)
    · cases mem
      exact addressed.stands ⟨number, conn, none⟩ mine
    · exact addressed.stands kept (Or.inr old)
  · rintro kept (mem | old)
    · cases mem
      exact update_self _ _ _
    · have before := addressed.target kept (Or.inr old)
      have apart : kept.conn ≠ conn := by
        intro same
        refine kept_target_isSome old ?_
        rw [← before, same]
        exact addressed.target _ mine
      exact (update_of_ne apart _ _).trans before
  · rintro kept (mem | old)
    · cases mem
      exact addressed.known ⟨number, conn, none⟩ mine
    · exact addressed.known kept (Or.inr old)
  · intro other unknown
    have apart : other ≠ conn := (Nat.lt_of_lt_of_le (addressed.known _ mine) unknown).ne'
    exact (update_of_ne apart _ _).trans (addressed.unknown other unknown)

theorem Addressed.opened (addressed : bridge.Addressed) {number : Nat}
    (unkept : ∀ kept ∈ bridge.kept, kept.number ≠ number)
    : ({
        bridge with sockets := update bridge.sockets number (some .other)
      } : Bridge closers injectors).Addressed := by
  refine ⟨?_, addressed.target, addressed.known, addressed.unknown⟩
  intro kept mem
  have other := update_of_ne (unkept kept mem) (some Socket.other) bridge.sockets
  simp only [other]
  exact addressed.stands kept mem

theorem Addressed.step (addressed : bridge.Addressed)
    {event : BridgeEvent closers injectors} (unkept : bridge.IssuesUnkept event)
    {output : Option SentOctets} (stepped : bridge.step event = some (next, output))
    : next.Addressed := by
  cases step_moves stepped
  case accept => exact addressed.accept (unkept _ rfl)
  case target here => exact addressed.readTarget here
  case opened => exact addressed.opened (unkept _ rfl)
  all_goals refine addressed.of_keepsNoMore ?_
  case lock free here | wait created here | choose vacant here =>
    exact .of_acceptor here (fun _ mem => mem) (fun _ _ mem => mem) rfl rfl rfl rfl
  case giveUp here | full here | start here | fail here | relock free here =>
    exact .of_acceptor here nofun (fun _ _ mem => mem) rfl rfl rfl rfl
  case join here =>
    exact .of_acceptor here (fun _ mem => mem)
      (fun _ _ mem => mem_slotKept?_of_setSlot mem (.inr rfl) rfl) rfl rfl rfl rfl
  case create here =>
    exact .of_acceptor here nofun
      (fun _ _ mem => mem_slotKept?_of_setSlot mem (.inr rfl) rfl) rfl rfl rfl rfl
  case clear here =>
    exact .of_acceptor here nofun
      (fun _ _ mem => mem_slotKept?_of_setSlot mem (.inl rfl) rfl) rfl rfl rfl rfl
  case drop number here =>
    exact .of_less here nofun (fun _ _ mem => mem) rfl (update_none_or bridge.sockets number) rfl
      rfl
  case arm slot here =>
    refine ⟨kept_subset nofun ?_ (fun _ _ mem => mem_kept_of_injector rfl mem),
      fun _ => .inr rfl, rfl, rfl⟩
    -- The slot gets what the accept loop has kept.
    intro place kept mem
    simp only [slotKept?, unlock, setSlot, update_apply] at mem
    by_cases same : place = slot
    · rw [if_pos same, if_pos same] at mem
      refine mem_kept_of_acceptor ?_
      rw [here]
      exact mem
    · rw [if_neg same, if_neg same] at mem
      exact mem_kept_of_slot mem
  case readSlot | lockSlot | unlockSlot | hold | leave =>
    exact .of_acceptor rfl (fun _ mem => mem) (fun _ _ mem => mem) rfl rfl rfl rfl
  case clearSlot =>
    exact .of_acceptor rfl (fun _ mem => mem)
      (fun _ _ mem => mem_slotKept?_of_setSlot mem (.inl rfl) rfl) rfl rfl rfl rfl
  case closeCopy fd here =>
    cases fd with
    | none => exact .of_acceptor rfl (fun _ mem => mem) (fun _ _ mem => mem) rfl rfl rfl rfl
    | some number =>
      exact .of_less rfl (fun _ mem => mem) (fun _ _ mem => mem) rfl
        (update_none_or bridge.sockets number) rfl rfl
  case take => exact .of_acceptor rfl (fun _ mem => mem) nofun rfl rfl rfl rfl
  case close number _ _ _ | closed number =>
    exact .of_less rfl (fun _ mem => mem) (fun _ _ mem => mem) rfl
      (update_none_or bridge.sockets number) rfl rfl
  case inject | look | miss | finish => exact .of_injector rfl rfl rfl rfl rfl rfl nofun
  case hit found here => exact .of_injector rfl rfl rfl rfl rfl rfl (lookUp_kept found)
  case claim here | release here =>
    exact .of_injector rfl rfl rfl rfl rfl rfl (fun _ mem => mem_kept_of_injector here mem)
  case stop here =>
    refine .of_injector rfl rfl rfl rfl rfl rfl ?_
    exact fun kept mem =>
      mem_kept_of_injector here (Injection.kept?_of_less (fun _ => rfl) kept mem)
  case send opened octets here =>
    refine .of_injector rfl rfl rfl rfl rfl rfl ?_
    refine fun kept mem => mem_kept_of_injector here (Injection.kept?_of_less ?_ kept mem)
    intro empty
    rw [empty]
    exact List.drop_nil

/-- What the octets of a `send` reach has the number of the injection. -/
theorem sent_from_kept {event : BridgeEvent closers injectors} {sent : SentOctets}
    (stepped : bridge.step event = some (next, some sent))
    : ∃ kept ∈ bridge.kept,
        bridge.sockets kept.number = some sent.receiver ∧ kept.target = some sent.src := by
  cases step_moves stepped
  case send caller taken injection receiver opened octets here =>
    have left : injection.data ≠ [] := by
      intro empty
      refine octets ?_
      rw [empty]
      exact List.take_nil
    refine ⟨⟨injection.number, injection.conn, .some injection.src⟩, ?_, opened, rfl⟩
    exact mem_kept_of_injector here (if_neg left)

theorem not_mem_kept_init {opened : Nat → Bool} {kept : Kept}
    : kept ∉ (Bridge.init opened : Bridge closers injectors).kept := by
  intro mem
  rcases mem with mem | ⟨slot, mem⟩ | ⟨caller, mem⟩
  · cases mem
  · cases mem
  · cases mem

theorem init_addressed (opened : Nat → Bool)
    : (Bridge.init opened : Bridge closers injectors).Addressed where
  stands := fun _ mem => absurd mem Bridge.not_mem_kept_init
  target := fun _ mem => absurd mem Bridge.not_mem_kept_init
  known := fun _ mem => absurd mem Bridge.not_mem_kept_init
  unknown := fun _ _ => rfl

end Bridge

/-- In any interleaving, as long as the kernel gives out no number that is still kept for a
connection, every octet sent for a source address goes to a connection that was accepted with this
address as target.
-/
theorem injected_to_target {opened : Nat → Bool} {history : List (BridgeEvent closers injectors)}
    (unkept
      : ∀ before event after,
          history = before ++ event :: after
          → ∀ state,
              (bridgeMachine closers injectors).run (some (.init opened)) before = some state
              → state.IssuesUnkept event)
    (reached : (bridgeMachine closers injectors).run (some (.init opened)) history = some bridge)
    {event : BridgeEvent closers injectors} {sent : SentOctets}
    (stepped : bridge.step event = some (next, some sent))
    : ∃ conn, sent.receiver = .connection conn ∧ bridge.target conn = some sent.src := by
  have addressed : bridge.Addressed := by
    refine Machine.failing_run_guarded Bridge.Addressed Bridge.IssuesUnkept
      (Bridge.init_addressed opened) ?_ unkept reached
    intro _ bridge event next output _ addressed unkept stepped
    exact addressed.step unkept stepped
  obtain ⟨kept, mem, receiver, target⟩ := Bridge.sent_from_kept stepped
  refine ⟨kept.conn, ?_, (addressed.target kept mem).trans target⟩
  rcases addressed.stands kept mem with closed | same
  · rw [closed] at receiver
    cases receiver
  · rw [same] at receiver
    exact (Option.some.inj receiver).symm

def injectedToSession : List (BridgeEvent 1 1) :=
  [.accept 5, .readTarget (some 7), .acceptor, .acceptor, .acceptor, .threadCreate true, .acceptor,
    .inject 0 7 [1, 2], .injector 0, .injector 0, .injector 0, .injector 0]

theorem injected_to_target_injectedToSession
    : ∃ bridge next,
        (bridgeMachine 1 1).run (some (.init fun _ => false)) injectedToSession = some bridge
        ∧ bridge.step (.send 0 2) = some (next, some ⟨7, .connection 0, [1, 2]⟩)
        ∧ bridge.target 0 = some 7 := by
  have found
      : ((bridgeMachine 1 1).run (some (.init fun _ => false)) injectedToSession).bind
          (fun bridge => (bridge.step (.send 0 2)).map Prod.snd)
        = some (some ⟨7, .connection 0, [1, 2]⟩) := by
    decide +kernel
  obtain ⟨bridge, reached, sent⟩ := Option.bind_eq_some_iff.mp found
  obtain ⟨⟨next, output⟩, stepped, same⟩ := Option.map_eq_some_iff.mp sent
  cases same
  -- The only number is given out first, when nothing is kept.
  have unkept
      : ∀ before event after,
          injectedToSession = before ++ event :: after
          → ∀ state,
              (bridgeMachine 1 1).run (some (.init fun _ => false)) before = some state
              → state.IssuesUnkept event := by
    intro before event after split state here
    cases before with
    | nil =>
      cases here
      exact fun _ _ _ mem => absurd mem Bridge.not_mem_kept_init
    | cons first rest =>
      have tail : event ∈ injectedToSession.tail := by
        rw [split]
        simp
      have none : ∀ event ∈ injectedToSession.tail, event.issued? = none := by decide
      intro number issued
      rw [none event tail] at issued
      cases issued
  obtain ⟨conn, receiver, target⟩ := injected_to_target unkept reached stepped
  cases receiver
  exact ⟨bridge, next, reached, stepped, target⟩

/-- A session ends while an injection for its target is under way, and the number of its descriptor
is given out for the next connection.
-/
def reissuedUnderInjection : List (BridgeEvent 1 1) :=
  [.accept 5, .readTarget (some 7), .acceptor, .acceptor, .acceptor, .threadCreate true, .acceptor,
    .session 0,
    .inject 0 7 [1, 2], .injector 0, .injector 0, .injector 0, .injector 0,
    .session 0, .session 0, .session 0, .session 0,
    .accept 5, .readTarget (some 9)]

/-- Octets from address 7 go to the connection that was accepted for address 9. -/
theorem octets_sent_to_other_session
    : ∃ bridge next,
        (bridgeMachine 1 1).run (some (.init fun _ => false)) reissuedUnderInjection = some bridge
        ∧ bridge.step (.send 0 2) = some (next, some ⟨7, .connection 1, [1, 2]⟩)
        ∧ bridge.target 0 = some 7
        ∧ bridge.target 1 = some 9 := by
  have found
      : ((bridgeMachine 1 1).run (some (.init fun _ => false)) reissuedUnderInjection).bind
          (fun bridge =>
            (bridge.step (.send 0 2)).map
              fun result => (result.2, bridge.target 0, bridge.target 1))
        = some (some ⟨7, .connection 1, [1, 2]⟩, some 7, some 9) := by
    decide +kernel
  obtain ⟨bridge, reached, sent⟩ := Option.bind_eq_some_iff.mp found
  obtain ⟨⟨next, output⟩, stepped, same⟩ := Option.map_eq_some_iff.mp sent
  simp only [Prod.mk.injEq] at same
  obtain ⟨rfl, first, second⟩ := same
  exact ⟨bridge, next, reached, stepped, first, second⟩

end SwitchLanPlay.Sysmodule
