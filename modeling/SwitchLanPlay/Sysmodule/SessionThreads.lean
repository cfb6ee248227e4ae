import SwitchLanPlay.Foundation.Machine
import SwitchLanPlay.Foundation.Mutex
import SwitchLanPlay.Sysmodule.Sessions

/-! The threads of the TCP proxy, step by step. What one of them does between `mutexLock` and
`mutexUnlock` is cut only where it waits, for the others touch nothing of it but a slot's
descriptor, which a session thread reads without the lock.
-/

namespace SwitchLanPlay.Sysmodule

open Foundation

abbrev Slot := Fin tcpSessionMax

/-- What a descriptor number stands for in the kernel: a connection that `accept` has returned,
by its serial number, or anything else that the process has opened.
-/
inductive Socket where
  | connection (conn : Nat)
  | other
deriving DecidableEq, Repr

/-- How far the accept loop is with a connection. From `scanning` to `ready` and in `clearing` it
holds `g_sessions_mtx`.
-/
inductive AcceptStage where
  | accepted
  | targeted (target : UInt32)
  | scanning (target : UInt32)
  | joining (target : UInt32) (slot : Slot)
  | ready (target : UInt32) (slot : Slot)
  | armed (slot : Slot)
  | failed (slot : Slot)
  | clearing (slot : Slot)
  | dropping
deriving DecidableEq, Repr

/-- Where `ldn_bridge_tcp_thread_fn` is. It is busy with a descriptor until it is closed or passed
on to a session thread.
-/
inductive AcceptPoint where
  | idle
  | busy (conn number : Nat) (stage : AcceptStage)
  | starting (conn : Nat) (slot : Slot)
deriving DecidableEq, Repr

/-- Where `tcp_session_thread_fn` is. `fd` is its copy of the descriptor, nothing if it read a
negative one. In `locked` and `cleared` it holds `g_sessions_mtx`.
-/
inductive SessionStage where
  | created
  | started
  | looping (fd : Option Nat)
  | locked (fd : Option Nat)
  | cleared (fd : Option Nat)
  | closing (fd : Option Nat)
  | exited
  | joined
deriving DecidableEq, Repr

structure SessionThread where
  slot : Slot
  stage : SessionStage
deriving DecidableEq, Repr

/-- Where a call of `ldn_bridge_close` is. A descriptor of the snapshot comes with the connection
it was accepted for.
-/
inductive ClosePoint where
  | idle
  | holding
  | closing (snapshot : List (Nat × Nat))
deriving DecidableEq, Repr

/-- What a call of `ldn_bridge_tcp_inject_from_relay` has found: data still to be sent for a source
address, the slot and its descriptor, and the connection the descriptor was accepted for.
-/
structure Injection where
  src : UInt32
  data : Bytes
  slot : Slot
  number : Nat
  conn : Nat
deriving DecidableEq, Repr

/-- Where a call of `ldn_bridge_tcp_inject_from_relay` is. It holds `g_sessions_mtx` in `looking`,
`found` and `writing`, and the slot's `write_mtx` in `writing` and `sending`.
-/
inductive InjectPoint where
  | idle
  | waiting (src : UInt32) (data : Bytes)
  | looking (src : UInt32) (data : Bytes)
  | found (injection : Injection)
  | writing (injection : Injection)
  | sending (injection : Injection)
deriving DecidableEq, Repr

inductive Party (closers injectors : Nat) where
  | acceptor
  | session (conn : Nat)
  | closer (caller : Fin closers)
  | injector (caller : Fin injectors)
deriving DecidableEq, Repr

/-- The session table, its locks, the threads and the kernel's descriptors. A session thread is
named by its connection. Not in the source: the count of accepted connections, the target of each,
the one each slot was armed for last, and the calls of `close` for each.
-/
structure Bridge (closers injectors : Nat) where
  slots : Slot → TcpSession
  slotThread : Slot → Option Nat
  mutex : Option (Party closers injectors)
  writeMutex : Slot → Option (Fin injectors)
  acceptor : AcceptPoint
  session : Nat → Option SessionThread
  closer : Fin closers → ClosePoint
  injector : Fin injectors → InjectPoint
  sockets : Nat → Option Socket
  accepted : Nat
  target : Nat → Option UInt32
  slotConn : Slot → Nat
  closes : Nat → Nat

variable {closers injectors : Nat}

namespace Bridge

/-- The table as the accept thread initialises it, no connection yet; `sockets` is what else the
process has open.
-/
def init (opened : Nat → Bool) : Bridge closers injectors where
  slots := Sessions.zero.tcpThreadStart.slots
  slotThread := fun _ => none
  mutex := none
  writeMutex := fun _ => none
  acceptor := .idle
  session := fun _ => none
  closer := fun _ => .idle
  injector := fun _ => .idle
  sockets := fun number => if opened number then some .other else none
  accepted := 0
  target := fun _ => none
  slotConn := fun _ => 0
  closes := fun _ => 0

def setSlot (bridge : Bridge closers injectors) (slot : Slot) (session : TcpSession)
    : Bridge closers injectors := { bridge with slots := Function.update bridge.slots slot session }

def setSession (bridge : Bridge closers injectors) (conn : Nat) (thread : SessionThread)
    : Bridge closers injectors :=
  { bridge with session := Function.update bridge.session conn (some thread) }

def setCloser (bridge : Bridge closers injectors) (caller : Fin closers)
    (point : ClosePoint)
    : Bridge closers injectors :=
  { bridge with closer := Function.update bridge.closer caller point }

def setInjector (bridge : Bridge closers injectors) (caller : Fin injectors)
    (point : InjectPoint)
    : Bridge closers injectors :=
  { bridge with injector := Function.update bridge.injector caller point }

def unlock (bridge : Bridge closers injectors) : Bridge closers injectors :=
  { bridge with mutex := none }

def close (bridge : Bridge closers injectors) (number conn : Nat)
    : Bridge closers injectors :=
  {
    bridge with
    sockets := Function.update bridge.sockets number none
    closes := Function.update bridge.closes conn (bridge.closes conn + 1)
  }

end Bridge

def TcpSession.free (session : TcpSession) : TcpSession :=
  { session with active := false, clientFd := none }

-- The accept loop

/-- `accept` returns a descriptor; its number is any that is not open. -/
def Bridge.accept (bridge : Bridge closers injectors) (number : Nat)
    : Option (Bridge closers injectors) :=
  if bridge.acceptor = .idle ∧ bridge.sockets number = none then
    some {
      bridge with
      acceptor := .busy bridge.accepted number .accepted
      sockets := Function.update bridge.sockets number (some (.connection bridge.accepted))
      accepted := bridge.accepted + 1
    }
  else none

/-- `recv` of the target address, nothing when it returns less. -/
def Bridge.readTarget (bridge : Bridge closers injectors) (target : Option UInt32)
    : AcceptPoint → Option (Bridge closers injectors)
  | .busy conn number .accepted =>
    match target with
    | none => some { bridge with acceptor := .busy conn number .dropping }
    | some target =>
      some {
        bridge with
        acceptor := .busy conn number (.targeted target)
        target := Function.update bridge.target conn (some target)
      }
  | _ => none

def Bridge.threadCreate (bridge : Bridge closers injectors) (succeeds : Bool)
    : AcceptPoint → Option (Bridge closers injectors)
  | .busy conn number (.armed slot) =>
    if succeeds then
      some {
        (bridge.setSlot slot { bridge.slots slot with threadCreated := true }).setSession conn
          ⟨slot, .created⟩ with
        slotThread := Function.update bridge.slotThread slot (some conn)
        acceptor := .starting conn slot
      }
    else some { bridge with acceptor := .busy conn number (.failed slot) }
  | _ => none

/-- The steps of the accept loop that leave no choice. `threadWaitForExit` waits for the thread that
the slot's `Thread` stands for.
-/
def Bridge.acceptorStep (bridge : Bridge closers injectors)
    : AcceptPoint → Option (Bridge closers injectors)
  | .busy conn number (.targeted target) =>
    if bridge.mutex = none then
      some {
        bridge with
        mutex := some .acceptor
        acceptor := .busy conn number (.scanning target)
      }
    else none
  | .busy conn number (.scanning target) =>
    match sessionView.free? bridge.slots with
    | none => some { bridge.unlock with acceptor := .busy conn number .dropping }
    | some slot =>
      if (bridge.slots slot).threadCreated then
        some { bridge with acceptor := .busy conn number (.joining target slot) }
      else some { bridge with acceptor := .busy conn number (.ready target slot) }
  | .busy conn number (.joining target slot) =>
    match bridge.slotThread slot with
    | none => none
    | some joined =>
      if bridge.session joined = some ⟨slot, .exited⟩ then
        some {
          (bridge.setSlot slot { bridge.slots slot with threadCreated := false }).setSession
            joined ⟨slot, .joined⟩ with
          acceptor := .busy conn number (.ready target slot)
        }
      else none
  | .busy conn number (.ready target slot) =>
    some {
      (bridge.setSlot slot ⟨true, (bridge.slots slot).threadCreated, some number, target⟩).unlock
        with
      slotConn := Function.update bridge.slotConn slot conn
      acceptor := .busy conn number (.armed slot)
    }
  | .starting conn slot => some { bridge.setSession conn ⟨slot, .started⟩ with acceptor := .idle }
  | .busy conn number (.failed slot) =>
    if bridge.mutex = none then
      some {
        bridge with
        mutex := some .acceptor
        acceptor := .busy conn number (.clearing slot)
      }
    else none
  | .busy conn number (.clearing slot) =>
    some {
      (bridge.setSlot slot (bridge.slots slot).free).unlock with
      acceptor := .busy conn number .dropping
    }
  | .busy conn number .dropping => some { bridge.close number conn with acceptor := .idle }
  | .busy _ _ .accepted => none
  | .busy _ _ (.armed _) => none
  | .idle => none

-- Session threads and `ldn_bridge_close`

/-- `close` by a session thread; a negative descriptor closes nothing. -/
def Bridge.closeCopy (bridge : Bridge closers injectors) (conn : Nat)
    : Option Nat → Bridge closers injectors
  | none => bridge
  | some number => bridge.close number conn

/-- The next step of a session thread; it leaves its loop at any time. -/
def Bridge.sessionStep (bridge : Bridge closers injectors) (conn : Nat)
    : Option SessionThread → Option (Bridge closers injectors)
  | some ⟨slot, .started⟩ =>
    some (bridge.setSession conn ⟨slot, .looping (bridge.slots slot).clientFd⟩)
  | some ⟨slot, .looping fd⟩ =>
    if bridge.mutex = none then
      some { bridge.setSession conn ⟨slot, .locked fd⟩ with mutex := some (.session conn) }
    else none
  | some ⟨slot, .locked fd⟩ =>
    some ((bridge.setSlot slot (bridge.slots slot).free).setSession conn ⟨slot, .cleared fd⟩)
  | some ⟨slot, .cleared fd⟩ => some (bridge.unlock.setSession conn ⟨slot, .closing fd⟩)
  | some ⟨slot, .closing fd⟩ => some ((bridge.closeCopy conn fd).setSession conn ⟨slot, .exited⟩)
  | some ⟨_, .created⟩ => none
  | some ⟨_, .exited⟩ => none
  | some ⟨_, .joined⟩ => none
  | none => none

def Bridge.snapshot (bridge : Bridge closers injectors) : List (Nat × Nat) :=
  (List.finRange tcpSessionMax).filterMap fun slot =>
    (bridge.slots slot).clientFd.map fun number => (number, bridge.slotConn slot)

def Bridge.emptySlots (bridge : Bridge closers injectors) : Bridge closers injectors :=
  { bridge with slots := fun slot => { bridge.slots slot with clientFd := none } }

def Bridge.closerStep (bridge : Bridge closers injectors) (caller : Fin closers)
    : ClosePoint → Option (Bridge closers injectors)
  | .idle =>
    if bridge.mutex = none then
      some { bridge.setCloser caller .holding with mutex := some (.closer caller) }
    else none
  | .holding => some (bridge.emptySlots.unlock.setCloser caller (.closing bridge.snapshot))
  | .closing [] => some (bridge.setCloser caller .idle)
  | .closing ((number, conn) :: rest) =>
    some ((bridge.close number conn).setCloser caller (.closing rest))

-- Injections

structure SentOctets where
  src : UInt32
  receiver : Socket
  octets : Bytes
deriving DecidableEq, Repr

/-- The search of `ldn_bridge_tcp_inject_from_relay`: the first active session with the source as
target decides, also when it has no descriptor.
-/
def Bridge.lookUp (bridge : Bridge closers injectors) (src : UInt32) (data : Bytes)
    : Option Injection :=
  (sessionView.match? bridge.slots src).bind fun slot =>
    (bridge.slots slot).clientFd.map fun number => ⟨src, data, slot, number, bridge.slotConn slot⟩

def Bridge.injectorStep (bridge : Bridge closers injectors) (caller : Fin injectors)
    : InjectPoint → Option (Bridge closers injectors)
  | .waiting src data =>
    if bridge.mutex = none then
      some {
        bridge.setInjector caller (.looking src data) with
        mutex := some (.injector caller)
      }
    else none
  | .looking src data =>
    match bridge.lookUp src data with
    | none => some (bridge.unlock.setInjector caller .idle)
    | some injection => some (bridge.setInjector caller (.found injection))
  | .found injection =>
    if bridge.writeMutex injection.slot = none then
      some {
        bridge.setInjector caller (.writing injection) with
        writeMutex := Function.update bridge.writeMutex injection.slot (some caller)
      }
    else none
  | .writing injection => some (bridge.unlock.setInjector caller (.sending injection))
  | .sending injection =>
    if injection.data = [] then
      some {
        bridge.setInjector caller .idle with
        writeMutex := Function.update bridge.writeMutex injection.slot none
      }
    else none
  | .idle => none

/-- `send` on the descriptor of an injection takes up to `taken` octets. A closed number or a count
of zero ends the loop.
-/
def Bridge.send (bridge : Bridge closers injectors) (caller : Fin injectors) (taken : Nat)
    : InjectPoint → Option (Bridge closers injectors × Option SentOctets)
  | .sending injection =>
    match bridge.sockets injection.number with
    | none => some (bridge.setInjector caller (.sending { injection with data := [] }), none)
    | some receiver =>
      let octets := injection.data.take taken
      if octets = [] then
        some (bridge.setInjector caller (.sending { injection with data := [] }), none)
      else
        some (bridge.setInjector caller
            (.sending { injection with data := injection.data.drop taken }),
          some ⟨injection.src, receiver, octets⟩)
  | _ => none

-- All of them

inductive BridgeEvent (closers injectors : Nat) where
  | accept (number : Nat)
  | readTarget (target : Option UInt32)
  | threadCreate (succeeds : Bool)
  | acceptor
  | session (conn : Nat)
  | closer (caller : Fin closers)
  | inject (caller : Fin injectors) (src : UInt32) (data : Bytes)
  | injector (caller : Fin injectors)
  | send (caller : Fin injectors) (taken : Nat)
  | opened (number : Nat)
  | closed (number : Nat)
deriving DecidableEq, Repr

def silent (next : Option (Bridge closers injectors))
    : Option (Bridge closers injectors × Option SentOctets) := next.map fun next => (next, none)

/-- One step. The rest of the process opens free numbers and closes any. -/
def Bridge.step (bridge : Bridge closers injectors)
    : BridgeEvent closers injectors → Option (Bridge closers injectors × Option SentOctets)
  | .accept number => silent (bridge.accept number)
  | .readTarget target => silent (bridge.readTarget target bridge.acceptor)
  | .threadCreate succeeds => silent (bridge.threadCreate succeeds bridge.acceptor)
  | .acceptor => silent (bridge.acceptorStep bridge.acceptor)
  | .session conn => silent (bridge.sessionStep conn (bridge.session conn))
  | .closer caller => silent (bridge.closerStep caller (bridge.closer caller))
  | .inject caller src data =>
    if bridge.injector caller = .idle ∧ data ≠ [] then
      some (bridge.setInjector caller (.waiting src data), none)
    else none
  | .injector caller => silent (bridge.injectorStep caller (bridge.injector caller))
  | .send caller taken => bridge.send caller taken (bridge.injector caller)
  | .opened number =>
    if bridge.sockets number = none then
      some ({
        bridge with sockets := Function.update bridge.sockets number (some .other)
      }, none)
    else none
  | .closed number =>
    some ({ bridge with sockets := Function.update bridge.sockets number none }, none)

def bridgeMachine (closers injectors : Nat)
    : Machine (Option (Bridge closers injectors)) (BridgeEvent closers injectors)
        (Option SentOctets) := Machine.failing Bridge.step none

end SwitchLanPlay.Sysmodule
