import SwitchLanPlay.Sysmodule.SessionMoves

/-! Who holds `g_sessions_mtx`. Whatever the interleaving, only the thread the lock records is
between `mutexLock` and `mutexUnlock`.
-/

namespace SwitchLanPlay.Sysmodule

open Function
open Foundation

variable {closers injectors : Nat} {bridge next : Bridge closers injectors}

-- Holders of the lock

def AcceptPoint.holds : AcceptPoint → Bool
  | .busy _ _ (.scanning _) => true
  | .busy _ _ (.joining _ _) => true
  | .busy _ _ (.ready _ _) => true
  | .busy _ _ (.clearing _) => true
  | _ => false

def SessionStage.holds : SessionStage → Bool
  | .locked _ => true
  | .cleared _ => true
  | _ => false

def InjectPoint.holds : InjectPoint → Bool
  | .looking _ _ => true
  | .found _ => true
  | .writing _ => true
  | _ => false

/-- A thread is between `mutexLock(&g_sessions_mtx)` and `mutexUnlock(&g_sessions_mtx)`. -/
def Bridge.Holds (bridge : Bridge closers injectors) : Party closers injectors → Prop
  | .acceptor => bridge.acceptor.holds = true
  | .session conn => ∃ thread, bridge.session conn = some thread ∧ thread.stage.holds = true
  | .closer caller => bridge.closer caller = .holding
  | .injector caller => (bridge.injector caller).holds = true

theorem Bridge.setSlot_slots (bridge : Bridge closers injectors) (slot : Slot)
    (session : TcpSession) (other : Slot)
    : (bridge.setSlot slot session).slots other
      = if other = slot then session else bridge.slots other := update_apply _ _ _ _

theorem Bridge.setSession_session (bridge : Bridge closers injectors) (conn : Nat)
    (thread : SessionThread) (other : Nat)
    : (bridge.setSession conn thread).session other
      = if other = conn then some thread else bridge.session other := update_apply _ _ _ _

theorem Bridge.setInjector_injector (bridge : Bridge closers injectors) (caller : Fin injectors)
    (point : InjectPoint) (other : Fin injectors)
    : (bridge.setInjector caller point).injector other
      = if other = caller then point else bridge.injector other := update_apply _ _ _ _

-- A step moves one thread

namespace Bridge

/-- The accept loop creates, starts and joins threads where they hold nothing. -/
theorem others_of_acceptor
    (session
      : next.session = bridge.session
        ∨ ∃ conn thread,
            next.session = update bridge.session conn (some thread)
            ∧ thread.stage.holds = false)
    (closer : next.closer = bridge.closer) (injector : next.injector = bridge.injector)
    : ∀ other, other ≠ .acceptor → next.Holds other → bridge.Holds other := by
  rintro (_ | conn | caller | caller) different held
  · exact absurd rfl different
  · obtain ⟨thread, found, holds⟩ := held
    refine ⟨thread, ?_, holds⟩
    rcases session with same | ⟨moved, later, same, outside⟩
    · rwa [← same]
    · rw [same, update_apply] at found
      split at found
      · cases found
        rw [outside] at holds
        cases holds
      · exact found
  · exact (congrFun closer caller).symm.trans held
  · exact (congrArg InjectPoint.holds (congrFun injector caller)).symm.trans held

theorem others_of_session {conn : Nat} {thread : Option SessionThread}
    (acceptor : next.acceptor = bridge.acceptor)
    (session : next.session = update bridge.session conn thread)
    (closer : next.closer = bridge.closer) (injector : next.injector = bridge.injector)
    : ∀ other, other ≠ .session conn → next.Holds other → bridge.Holds other := by
  rintro (_ | mine | caller | caller) different held
  · exact (congrArg AcceptPoint.holds acceptor).symm.trans held
  · obtain ⟨found, current, holds⟩ := held
    have apart : mine ≠ conn := fun same => different (congrArg Party.session same)
    rw [session, update_of_ne apart] at current
    exact ⟨found, current, holds⟩
  · exact (congrFun closer caller).symm.trans held
  · exact (congrArg InjectPoint.holds (congrFun injector caller)).symm.trans held

theorem others_of_closer {caller : Fin closers} {point : ClosePoint}
    (acceptor : next.acceptor = bridge.acceptor) (session : next.session = bridge.session)
    (closer : next.closer = update bridge.closer caller point)
    (injector : next.injector = bridge.injector)
    : ∀ other, other ≠ .closer caller → next.Holds other → bridge.Holds other := by
  rintro (_ | conn | mine | mine) different held
  · exact (congrArg AcceptPoint.holds acceptor).symm.trans held
  · obtain ⟨thread, found, holds⟩ := held
    exact ⟨thread, session ▸ found, holds⟩
  · have apart : mine ≠ caller := fun same => different (congrArg Party.closer same)
    have same := congrFun closer mine
    rw [update_of_ne apart] at same
    exact same.symm.trans held
  · exact (congrArg InjectPoint.holds (congrFun injector mine)).symm.trans held

theorem others_of_injector {caller : Fin injectors} {point : InjectPoint}
    (acceptor : next.acceptor = bridge.acceptor) (session : next.session = bridge.session)
    (closer : next.closer = bridge.closer)
    (injector : next.injector = update bridge.injector caller point)
    : ∀ other, other ≠ .injector caller → next.Holds other → bridge.Holds other := by
  rintro (_ | conn | mine | mine) different held
  · exact (congrArg AcceptPoint.holds acceptor).symm.trans held
  · obtain ⟨thread, found, holds⟩ := held
    exact ⟨thread, session ▸ found, holds⟩
  · exact (congrFun closer mine).symm.trans held
  · have apart : mine ≠ caller := fun same => different (congrArg Party.injector same)
    have same := congrFun injector mine
    rw [update_of_ne apart] at same
    exact (congrArg InjectPoint.holds same).symm.trans held

theorem not_holds_setSession {conn : Nat} {thread : SessionThread}
    (outside : thread.stage.holds = false)
    : ¬ (bridge.setSession conn thread).Holds (.session conn) := by
  rintro ⟨found, current, holds⟩
  rw [setSession_session, if_pos rfl] at current
  cases current
  rw [outside] at holds
  cases holds

theorem not_holds_setCloser {caller : Fin closers} {point : ClosePoint}
    (outside : point ≠ .holding)
    : ¬ (bridge.setCloser caller point).Holds (.closer caller) :=
  fun held => outside ((update_self _ _ _).symm.trans held)

theorem not_holds_setInjector {caller : Fin injectors} {point : InjectPoint}
    (outside : point.holds = false)
    : ¬ (bridge.setInjector caller point).Holds (.injector caller) := by
  rw [Holds, setInjector_injector, if_pos rfl, outside]
  exact Bool.noConfusion

/-- Every step keeps the lock with the thread that holds it. -/
theorem step_guarded (guarded : Guarded bridge.mutex bridge.Holds)
    {event : BridgeEvent closers injectors} {output : Option SentOctets}
    (stepped : bridge.step event = some (next, output))
    : Guarded next.mutex next.Holds := by
  have loop (held : bridge.acceptor.holds = true) : bridge.Holds .acceptor := held
  have injection {caller : Fin injectors} {point : InjectPoint}
      (here : bridge.injector caller = point) (holds : point.holds = true)
      : bridge.Holds (.injector caller) := (congrArg InjectPoint.holds here).trans holds
  cases step_moves stepped
  case accept | giveUp | target | fail | drop =>
    exact guarded.keep Bool.noConfusion (others_of_acceptor (.inl rfl) rfl rfl)
  case lock free here | relock free here =>
    rw [free] at guarded
    exact guarded.acquire (others_of_acceptor (.inl rfl) rfl rfl)
  case full here | arm here | clear here =>
    exact guarded.release (loop (congrArg AcceptPoint.holds here)) Bool.noConfusion
      (others_of_acceptor (.inl rfl) rfl rfl)
  case wait here | choose here =>
    exact guarded.keep (fun _ => loop (congrArg AcceptPoint.holds here))
      (others_of_acceptor (.inl rfl) rfl rfl)
  case join here =>
    exact guarded.keep (fun _ => loop (congrArg AcceptPoint.holds here))
      (others_of_acceptor (.inr ⟨_, _, rfl, rfl⟩) rfl rfl)
  case create | start =>
    exact guarded.keep Bool.noConfusion (others_of_acceptor (.inr ⟨_, _, rfl, rfl⟩) rfl rfl)
  case readSlot =>
    exact guarded.keep (absurd · (not_holds_setSession rfl)) (others_of_session rfl rfl rfl rfl)
  case lockSlot free here =>
    rw [free] at guarded
    exact guarded.acquire (others_of_session rfl rfl rfl rfl)
  case clearSlot conn slot fd here =>
    have held : bridge.Holds (.session conn) := ⟨_, here, rfl⟩
    exact guarded.keep (fun _ => held) (others_of_session rfl rfl rfl rfl)
  case unlockSlot conn slot fd here =>
    have held : bridge.Holds (.session conn) := ⟨_, here, rfl⟩
    exact guarded.release held (not_holds_setSession rfl) (others_of_session rfl rfl rfl rfl)
  case closeCopy fd here =>
    cases fd <;>
      exact guarded.keep (absurd · (not_holds_setSession rfl)) (others_of_session rfl rfl rfl rfl)
  case hold free here =>
    rw [free] at guarded
    exact guarded.acquire (others_of_closer rfl rfl rfl rfl)
  case take caller here =>
    have held : bridge.Holds (.closer caller) := here
    exact guarded.release held (not_holds_setCloser ClosePoint.noConfusion)
      (others_of_closer rfl rfl rfl rfl)
  case leave | close =>
    exact guarded.keep (absurd · (not_holds_setCloser ClosePoint.noConfusion))
      (others_of_closer rfl rfl rfl rfl)
  case look free here =>
    rw [free] at guarded
    exact guarded.acquire (others_of_injector rfl rfl rfl rfl)
  case miss here | release here =>
    exact guarded.release (injection here rfl) (not_holds_setInjector rfl)
      (others_of_injector rfl rfl rfl rfl)
  case hit here | claim here =>
    exact guarded.keep (fun _ => injection here rfl) (others_of_injector rfl rfl rfl rfl)
  case inject | finish | stop | send =>
    exact guarded.keep (absurd · (not_holds_setInjector rfl)) (others_of_injector rfl rfl rfl rfl)
  case opened | closed =>
    exact guarded.keep id (others_of_acceptor (.inl rfl) rfl rfl)

end Bridge

end SwitchLanPlay.Sysmodule
