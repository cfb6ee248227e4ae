import SwitchLanPlay.Sysmodule.SessionThreads

/-! The steps of the TCP proxy's threads by name. The step function returns a state only for the
moves listed here, with what holds before the move.
-/

namespace SwitchLanPlay.Sysmodule

open Foundation

variable {output : Option SentOctets}

variable {closers injectors : Nat} {bridge next : Bridge closers injectors}

/-- The moves of all threads, and of the rest of the process. -/
inductive Bridge.Move (bridge : Bridge closers injectors)
    : BridgeEvent closers injectors → Bridge closers injectors → Option SentOctets → Prop
  -- The accept loop
  | accept {number : Nat} (here : bridge.acceptor = .idle)
    : Move bridge (.accept number) {
        bridge with
        acceptor := .busy bridge.accepted number .accepted
        sockets := Function.update bridge.sockets number (some (.connection bridge.accepted))
        accepted := bridge.accepted + 1
      } none
  | giveUp {conn number : Nat} (here : bridge.acceptor = .busy conn number .accepted)
    : Move bridge (.readTarget none) { bridge with acceptor := .busy conn number .dropping } none
  | target {conn number : Nat} {target : UInt32}
    (here : bridge.acceptor = .busy conn number .accepted)
    : Move bridge (.readTarget (some target)) {
        bridge with
        acceptor := .busy conn number (.targeted target)
        target := Function.update bridge.target conn (some target)
      } none
  | lock {conn number : Nat} {target : UInt32} (free : bridge.mutex = none)
    (here : bridge.acceptor = .busy conn number (.targeted target))
    : Move bridge .acceptor {
        bridge with
        mutex := some .acceptor
        acceptor := .busy conn number (.scanning target)
      } none
  | full {conn number : Nat} {target : UInt32}
    (here : bridge.acceptor = .busy conn number (.scanning target))
    : Move bridge .acceptor { bridge.unlock with acceptor := .busy conn number .dropping } none
  | wait {conn number : Nat} {target : UInt32} {slot : Slot}
    (found : sessionView.free? bridge.slots = some slot)
    (created : (bridge.slots slot).threadCreated = true)
    (here : bridge.acceptor = .busy conn number (.scanning target))
    : Move bridge .acceptor
        { bridge with acceptor := .busy conn number (.joining target slot) } none
  | choose {conn number : Nat} {target : UInt32} {slot : Slot}
    (found : sessionView.free? bridge.slots = some slot)
    (vacant : ¬ (bridge.slots slot).threadCreated = true)
    (here : bridge.acceptor = .busy conn number (.scanning target))
    : Move bridge .acceptor { bridge with acceptor := .busy conn number (.ready target slot) } none
  | join {conn number joined : Nat} {target : UInt32} {slot : Slot}
    (thread : bridge.slotThread slot = some joined)
    (exited : bridge.session joined = some ⟨slot, .exited⟩)
    (here : bridge.acceptor = .busy conn number (.joining target slot))
    : Move bridge .acceptor {
        (bridge.setSlot slot { bridge.slots slot with threadCreated := false }).setSession
          joined ⟨slot, .joined⟩ with
        acceptor := .busy conn number (.ready target slot)
      } none
  | arm {conn number : Nat} {target : UInt32} {slot : Slot}
    (here : bridge.acceptor = .busy conn number (.ready target slot))
    : Move bridge .acceptor {
        (bridge.setSlot slot
          ⟨true, (bridge.slots slot).threadCreated, some number, target⟩).unlock with
        slotConn := Function.update bridge.slotConn slot conn
        acceptor := .busy conn number (.armed slot)
      } none
  | create {conn number : Nat} {slot : Slot}
    (here : bridge.acceptor = .busy conn number (.armed slot))
    : Move bridge (.threadCreate true) {
        (bridge.setSlot slot { bridge.slots slot with threadCreated := true }).setSession conn
          ⟨slot, .created⟩ with
        slotThread := Function.update bridge.slotThread slot (some conn)
        acceptor := .starting conn slot
      } none
  | start {conn : Nat} {slot : Slot} (here : bridge.acceptor = .starting conn slot)
    : Move bridge .acceptor { bridge.setSession conn ⟨slot, .started⟩ with acceptor := .idle } none
  | fail {conn number : Nat} {slot : Slot}
    (here : bridge.acceptor = .busy conn number (.armed slot))
    : Move bridge (.threadCreate false)
        { bridge with acceptor := .busy conn number (.failed slot) } none
  | relock {conn number : Nat} {slot : Slot} (free : bridge.mutex = none)
    (here : bridge.acceptor = .busy conn number (.failed slot))
    : Move bridge .acceptor {
        bridge with
        mutex := some .acceptor
        acceptor := .busy conn number (.clearing slot)
      } none
  | clear {conn number : Nat} {slot : Slot}
    (here : bridge.acceptor = .busy conn number (.clearing slot))
    : Move bridge .acceptor {
        (bridge.setSlot slot (bridge.slots slot).free).unlock with
        acceptor := .busy conn number .dropping
      } none
  | drop {conn number : Nat} (here : bridge.acceptor = .busy conn number .dropping)
    : Move bridge .acceptor { bridge.close number conn with acceptor := .idle } none
  -- A session thread
  | readSlot {conn : Nat} {slot : Slot} (here : bridge.session conn = some ⟨slot, .started⟩)
    : Move bridge (.session conn)
        (bridge.setSession conn ⟨slot, .looping (bridge.slots slot).clientFd⟩) none
  | lockSlot {conn : Nat} {slot : Slot} {fd : Option Nat} (free : bridge.mutex = none)
    (here : bridge.session conn = some ⟨slot, .looping fd⟩)
    : Move bridge (.session conn)
        { bridge.setSession conn ⟨slot, .locked fd⟩ with mutex := some (.session conn) } none
  | clearSlot {conn : Nat} {slot : Slot} {fd : Option Nat}
    (here : bridge.session conn = some ⟨slot, .locked fd⟩)
    : Move bridge (.session conn)
        ((bridge.setSlot slot (bridge.slots slot).free).setSession conn ⟨slot, .cleared fd⟩) none
  | unlockSlot {conn : Nat} {slot : Slot} {fd : Option Nat}
    (here : bridge.session conn = some ⟨slot, .cleared fd⟩)
    : Move bridge (.session conn) (bridge.unlock.setSession conn ⟨slot, .closing fd⟩) none
  | closeCopy {conn : Nat} {slot : Slot} {fd : Option Nat}
    (here : bridge.session conn = some ⟨slot, .closing fd⟩)
    : Move bridge (.session conn) ((bridge.closeCopy conn fd).setSession conn ⟨slot, .exited⟩) none
  -- A call of `ldn_bridge_close`
  | hold {caller : Fin closers} (free : bridge.mutex = none) (here : bridge.closer caller = .idle)
    : Move bridge (.closer caller)
        { bridge.setCloser caller .holding with mutex := some (.closer caller) } none
  | take {caller : Fin closers} (here : bridge.closer caller = .holding)
    : Move bridge (.closer caller)
        (bridge.emptySlots.unlock.setCloser caller (.closing bridge.snapshot)) none
  | leave {caller : Fin closers} (here : bridge.closer caller = .closing [])
    : Move bridge (.closer caller) (bridge.setCloser caller .idle) none
  | close {caller : Fin closers} {number conn : Nat} {rest : List (Nat × Nat)}
    (here : bridge.closer caller = .closing ((number, conn) :: rest))
    : Move bridge (.closer caller)
        ((bridge.close number conn).setCloser caller (.closing rest)) none
  -- An injection
  | inject {caller : Fin injectors} {src : UInt32} {data : Bytes}
    : Move bridge (.inject caller src data) (bridge.setInjector caller (.waiting src data)) none
  | look {caller : Fin injectors} {src : UInt32} {data : Bytes} (free : bridge.mutex = none)
    (here : bridge.injector caller = .waiting src data)
    : Move bridge (.injector caller)
        { bridge.setInjector caller (.looking src data) with mutex := some (.injector caller) } none
  | miss {caller : Fin injectors} {src : UInt32} {data : Bytes}
    (here : bridge.injector caller = .looking src data)
    : Move bridge (.injector caller) (bridge.unlock.setInjector caller .idle) none
  | hit {caller : Fin injectors} {src : UInt32} {data : Bytes} {injection : Injection}
    (found : bridge.lookUp src data = some injection)
    (here : bridge.injector caller = .looking src data)
    : Move bridge (.injector caller) (bridge.setInjector caller (.found injection)) none
  | claim {caller : Fin injectors} {injection : Injection}
    (here : bridge.injector caller = .found injection)
    : Move bridge (.injector caller) {
        bridge.setInjector caller (.writing injection) with
        writeMutex := Function.update bridge.writeMutex injection.slot (some caller)
      } none
  | release {caller : Fin injectors} {injection : Injection}
    (here : bridge.injector caller = .writing injection)
    : Move bridge (.injector caller) (bridge.unlock.setInjector caller (.sending injection)) none
  | finish {caller : Fin injectors} {injection : Injection}
    (here : bridge.injector caller = .sending injection)
    : Move bridge (.injector caller) {
        bridge.setInjector caller .idle with
        writeMutex := Function.update bridge.writeMutex injection.slot none
      } none
  | stop {caller : Fin injectors} {taken : Nat} {injection : Injection}
    (here : bridge.injector caller = .sending injection)
    : Move bridge (.send caller taken)
        (bridge.setInjector caller (.sending { injection with data := [] })) none
  | send {caller : Fin injectors} {taken : Nat} {injection : Injection} {receiver : Socket}
    (opened : bridge.sockets injection.number = some receiver)
    (octets : injection.data.take taken ≠ [])
    (here : bridge.injector caller = .sending injection)
    : Move bridge (.send caller taken)
        (bridge.setInjector caller (.sending { injection with data := injection.data.drop taken }))
        (some ⟨injection.src, receiver, injection.data.take taken⟩)
  -- The rest of the process
  | opened {number : Nat}
    : Move bridge (.opened number)
        { bridge with sockets := Function.update bridge.sockets number (some .other) } none
  | closed {number : Nat}
    : Move bridge (.closed number)
        { bridge with sockets := Function.update bridge.sockets number none } none

theorem Bridge.acceptorStep_moves (stepped : bridge.acceptorStep bridge.acceptor = some next)
    : bridge.Move .acceptor next none := by
  generalize here : bridge.acceptor = point at stepped
  revert stepped
  fun_cases acceptorStep bridge point
  all_goals rintro ⟨⟩
  case case1 free => exact .lock free here
  case case3 full => exact .full here
  case case4 found created => exact .wait found created here
  case case5 found vacant => exact .choose found vacant here
  case case7 thread exited => exact .join thread exited here
  case case9 => exact .arm here
  case case10 => exact .start here
  case case11 free => exact .relock free here
  case case13 => exact .clear here
  case case14 => exact .drop here

theorem Bridge.sessionStep_moves {conn : Nat}
    (stepped : bridge.sessionStep conn (bridge.session conn) = some next)
    : bridge.Move (.session conn) next none := by
  generalize here : bridge.session conn = thread at stepped
  revert stepped
  fun_cases sessionStep bridge conn thread
  all_goals rintro ⟨⟩
  case case1 => exact .readSlot here
  case case2 free => exact .lockSlot free here
  case case4 => exact .clearSlot here
  case case5 => exact .unlockSlot here
  case case6 => exact .closeCopy here

theorem Bridge.closerStep_moves {caller : Fin closers}
    (stepped : bridge.closerStep caller (bridge.closer caller) = some next)
    : bridge.Move (.closer caller) next none := by
  generalize here : bridge.closer caller = point at stepped
  revert stepped
  fun_cases closerStep bridge caller point
  all_goals rintro ⟨⟩
  case case1 free => exact .hold free here
  case case3 => exact .take here
  case case4 => exact .leave here
  case case5 => exact .close here

theorem Bridge.injectorStep_moves {caller : Fin injectors}
    (stepped : bridge.injectorStep caller (bridge.injector caller) = some next)
    : bridge.Move (.injector caller) next none := by
  generalize here : bridge.injector caller = point at stepped
  revert stepped
  fun_cases injectorStep bridge caller point
  all_goals rintro ⟨⟩
  case case1 free => exact .look free here
  case case3 missing => exact .miss here
  case case4 found => exact .hit found here
  case case5 free => exact .claim here
  case case7 => exact .release here
  case case8 sent => exact .finish here

theorem Bridge.send_moves {caller : Fin injectors} {taken : Nat}
    (stepped : bridge.send caller taken (bridge.injector caller) = some (next, output))
    : bridge.Move (.send caller taken) next output := by
  generalize here : bridge.injector caller = point at stepped
  revert stepped
  fun_cases Bridge.send bridge caller taken point
  all_goals rintro ⟨⟩
  case case1 closed => exact .stop here
  case case2 nothing => exact .stop here
  case case3 opened octets some => exact .send opened some here

theorem silent_eq_some {step : Option (Bridge closers injectors)}
    (stepped : silent step = some (next, output))
    : step = some next ∧ output = none := by
  obtain ⟨found, same, pair⟩ := Option.map_eq_some_iff.mp stepped
  cases pair
  exact ⟨same, rfl⟩

theorem Bridge.step_moves {event : BridgeEvent closers injectors}
    (stepped : bridge.step event = some (next, output))
    : bridge.Move event next output := by
  cases event with
  | send caller taken => exact send_moves stepped
  | inject caller src data | opened number =>
    simp only [step] at stepped
    split at stepped
    · cases stepped
      constructor
    · cases stepped
  | closed number =>
    cases stepped
    exact .closed
  | accept number =>
    obtain ⟨moved, rfl⟩ := silent_eq_some stepped
    unfold Bridge.accept at moved
    split at moved
    · next idle =>
        cases moved
        exact .accept idle.1
    · cases moved
  | readTarget target =>
    obtain ⟨moved, rfl⟩ := silent_eq_some stepped
    generalize here : bridge.acceptor = point at moved
    revert moved
    fun_cases readTarget bridge target point
    all_goals rintro ⟨⟩
    case case1 => exact .giveUp here
    case case2 => exact .target here
  | threadCreate succeeds =>
    obtain ⟨moved, rfl⟩ := silent_eq_some stepped
    generalize here : bridge.acceptor = point at moved
    revert moved
    fun_cases threadCreate bridge succeeds point
    all_goals rintro ⟨⟩
    case case1 creates =>
      rw [creates]
      exact .create here
    case case2 fails =>
      rw [Bool.eq_false_iff.mpr fails]
      exact .fail here
  | acceptor =>
    obtain ⟨moved, rfl⟩ := silent_eq_some stepped
    exact acceptorStep_moves moved
  | session conn =>
    obtain ⟨moved, rfl⟩ := silent_eq_some stepped
    exact sessionStep_moves moved
  | closer caller =>
    obtain ⟨moved, rfl⟩ := silent_eq_some stepped
    exact closerStep_moves moved
  | injector caller =>
    obtain ⟨moved, rfl⟩ := silent_eq_some stepped
    exact injectorStep_moves moved

end SwitchLanPlay.Sysmodule
