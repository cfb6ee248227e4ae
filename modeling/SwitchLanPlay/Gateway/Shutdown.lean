import SwitchLanPlay.Foundation.Machine

/-! Shutdown of the gateway. `UvLwipBase::release` closes the lwIP handle and every connection,
and the object lets go of itself when the connections are closed and the close callback of the
handle has run. Connections call back later and may close themselves again.
-/

namespace SwitchLanPlay.Gateway

open Foundation

inductive ConnectionKind where
  | tcpConnection
  | switchFakeTcpConnection
deriving DecidableEq, Repr

/-- An `IConnection` with its `uvl_tcp_t`. `killed` is `TcpConnection::closing`, which shadows the
flag of the base class; `handles` counts the two asynchronous handles that are being closed, and
`leaked` is the reference of the connection to itself.
-/
structure Connection where
  kind : ConnectionKind
  closing : Bool
  killed : Bool
  handles : Nat
  closedHandle : Nat
  closeCb : Bool
  leaked : Bool
deriving DecidableEq, Repr

/-- `UvLwipBase` over some connections. `uvlClosing` and `uvlClosed` tell whether the handle is
being closed and whether its callback has run; `resets` counts the calls of `reset`.
-/
structure UvLwipBase (n : Nat) where
  connections : Fin n → Connection
  connSet : List (Fin n)
  closing : Bool
  lwipClosed : Bool
  closingCount : Int
  leaked : Bool
  uvlClosing : Bool
  uvlClosed : Bool
  resets : Nat

variable {n : Nat}

def UvLwipBase.running (connections : Fin n → Connection) : UvLwipBase n where
  connections := connections
  connSet := List.finRange n
  closing := false
  lwipClosed := false
  closingCount := 0
  leaked := true
  uvlClosing := false
  uvlClosed := false
  resets := 0

def UvLwipBase.onSelfClose (base : UvLwipBase n) : UvLwipBase n :=
  if !base.lwipClosed then { base with lwipClosed := true }
  else { base with leaked := false, resets := base.resets + 1 }

def UvLwipBase.removeConnection (base : UvLwipBase n) (i : Fin n) : UvLwipBase n :=
  if base.closing then
    let counted := { base with closingCount := base.closingCount - 1 }
    if counted.closingCount = 0 then counted.onSelfClose else counted
  else { base with connSet := base.connSet.erase i }

def UvLwipBase.modify (base : UvLwipBase n) (i : Fin n) (change : Connection → Connection)
    : UvLwipBase n :=
  { base with connections := Function.update base.connections i (change (base.connections i)) }

def Connection.uvlTcpClose (connection : Connection) : Connection :=
  { connection with handles := 2, closeCb := true }

namespace UvLwipBase

/-- `IConnection::close`; the weak pointer to the gateway is empty once that let go of itself. -/
def close (base : UvLwipBase n) (i : Fin n) : UvLwipBase n :=
  let removed := if base.leaked then base.removeConnection i else base
  if !(removed.connections i).closing then
    removed.modify i (fun connection => { connection with closing := true }.uvlTcpClose)
  else removed

def kill (base : UvLwipBase n) (i : Fin n) : UvLwipBase n :=
  if !(base.connections i).killed then
    (base.modify i (fun connection => { connection with killed := true })).close i
  else base

def onClosed (base : UvLwipBase n) (i : Fin n) : UvLwipBase n :=
  match (base.connections i).kind with
  | .tcpConnection => base.kill i
  | .switchFakeTcpConnection => base

def closeCallback (base : UvLwipBase n) (i : Fin n) : UvLwipBase n :=
  (base.onClosed i).modify i (fun connection => { connection with leaked := false })

/-- `uvl_tcp_close_handle_cb`; calling back without a callback would fail. -/
def uvlTcpCloseHandleCb (base : UvLwipBase n) (i : Fin n) : Option (UvLwipBase n) :=
  let connection := base.connections i
  if connection.closedHandle + 1 = 2 then
    if connection.closeCb then
      let cleared := base.modify i (fun connection =>
        { connection with
          handles := connection.handles - 1, closedHandle := 0, closeCb := false })
      some (cleared.closeCallback i)
    else none
  else
    some (base.modify i (fun connection =>
      { connection with
        handles := connection.handles - 1, closedHandle := connection.closedHandle + 1 }))

def release (base : UvLwipBase n) : UvLwipBase n :=
  let released := {
    base with
    closing := true
    closingCount := base.connSet.length
    uvlClosing := true
  }
  base.connSet.foldl UvLwipBase.close released

end UvLwipBase

/-- What the loop calls after `release`: the callback of a closed handle of a connection, that of
the proxy's side of a `TcpConnection`, and that of the lwIP handle.
-/
inductive ShutdownEvent (n : Nat) where
  | handleClosed (i : Fin n)
  | proxyClosed (i : Fin n)
  | uvlClosed
deriving DecidableEq, Repr

/-- One callback; libuv calls back once for each handle that is closed. -/
def UvLwipBase.step (base : UvLwipBase n) : ShutdownEvent n → Option (UvLwipBase n × Unit)
  | .handleClosed i =>
    if (base.connections i).handles = 0 then none
    else (base.uvlTcpCloseHandleCb i).map (fun next => (next, ()))
  | .proxyClosed i =>
    match (base.connections i).kind with
    | .tcpConnection => some (base.kill i, ())
    | .switchFakeTcpConnection => none
  | .uvlClosed =>
    if base.uvlClosing then
      some ({ base with uvlClosing := false, uvlClosed := true }.onSelfClose, ())
    else none

def shutdownMachine (n : Nat) : Machine (Option (UvLwipBase n)) (ShutdownEvent n) Unit :=
  Machine.failing UvLwipBase.step ()

def UvLwipBase.Reached (connections : Fin n → Connection) (events : List (ShutdownEvent n))
    (base : UvLwipBase n)
    : Prop :=
  (shutdownMachine n).run (some (UvLwipBase.running connections).release) events = some base

-- The counter

namespace UvLwipBase

/-- The loop of `release` is over and has counted down to zero: the gateway waits for the callback
of the handle, or has let go of itself in it.
-/
structure Settled (base : UvLwipBase n) : Prop where
  closing : base.closing = true
  counted : base.closingCount ≤ 0
  lwipClosed : base.lwipClosed = true
  phase
    : (base.uvlClosed = false ∧ base.leaked = true ∧ base.resets = 0)
      ∨ (base.uvlClosed = true ∧ base.uvlClosing = false ∧ base.resets = 1)

theorem Settled.modify {base : UvLwipBase n} (settled : base.Settled) (i : Fin n)
    (change : Connection → Connection)
    : (base.modify i change).Settled :=
  ⟨settled.closing, settled.counted, settled.lwipClosed, settled.phase⟩

/-- Below zero the counter is never zero again. -/
theorem Settled.removeConnection {base : UvLwipBase n} (settled : base.Settled)
    (i : Fin n)
    : (base.removeConnection i).Settled := by
  have counted := settled.counted
  have past : base.closingCount - 1 ≠ 0 := by omega
  unfold UvLwipBase.removeConnection
  rw [if_pos settled.closing]
  dsimp only
  rw [if_neg past]
  exact ⟨settled.closing, by dsimp only; omega, settled.lwipClosed, settled.phase⟩

/-- What holds behind `removeConnection` and of any change of a connection holds behind `close`. -/
theorem close_of_removed (property : UvLwipBase n → Prop) {base : UvLwipBase n}
    (i : Fin n)
    (modified : ∀ base, property base → ∀ change, property (base.modify i change))
    (removed : property (if base.leaked then base.removeConnection i else base))
    : property (base.close i) := by
  unfold UvLwipBase.close
  generalize (if base.leaked then base.removeConnection i else base) = next at removed ⊢
  dsimp only
  split
  · exact modified next removed _
  · exact removed

theorem Settled.close {base : UvLwipBase n} (settled : base.Settled) (i : Fin n)
    : (base.close i).Settled := by
  have removed : (if base.leaked then base.removeConnection i else base).Settled := by
    split
    · exact settled.removeConnection i
    · exact settled
  exact close_of_removed UvLwipBase.Settled i
    (fun _ settled change => settled.modify i change) removed

theorem Settled.kill {base : UvLwipBase n} (settled : base.Settled) (i : Fin n)
    : (base.kill i).Settled := by
  unfold UvLwipBase.kill
  split
  · exact (settled.modify i _).close i
  · exact settled

theorem Settled.closeCallback {base : UvLwipBase n} (settled : base.Settled) (i : Fin n)
    : (base.closeCallback i).Settled := by
  refine modify ?_ i _
  unfold onClosed
  cases (base.connections i).kind with
  | tcpConnection => exact settled.kill i
  | switchFakeTcpConnection => exact settled

/-- Every callback keeps the phase, and that of the handle ends it. -/
theorem Settled.step {base next : UvLwipBase n} {event : ShutdownEvent n}
    {output : Unit} (settled : base.Settled) (stepped : base.step event = some (next, output))
    : next.Settled := by
  cases event with
  | handleClosed i =>
    simp only [UvLwipBase.step] at stepped
    split at stepped
    · cases stepped
    · obtain ⟨_, called, same⟩ := Option.map_eq_some_iff.mp stepped
      cases same
      unfold uvlTcpCloseHandleCb at called
      dsimp only at called
      split_ifs at called
      · cases called
        exact (settled.modify i _).closeCallback i
      · cases called
        exact settled.modify i _
  | proxyClosed i =>
    simp only [UvLwipBase.step] at stepped
    split at stepped
    · cases stepped
      exact settled.kill i
    · cases stepped
  | uvlClosed =>
    simp only [UvLwipBase.step] at stepped
    split at stepped
    · rename_i open_
      cases stepped
      rcases settled.phase with ⟨_, _, resets⟩ | ⟨_, closed, _⟩
      · rw [onSelfClose, if_neg (by simp [settled.lwipClosed])]
        exact ⟨settled.closing, settled.counted, settled.lwipClosed,
          .inr ⟨rfl, rfl, congrArg (· + 1) resets⟩⟩
      · rw [closed] at open_
        cases open_
    · cases stepped

/-- In the loop of `release`, with `rest` connections to go. -/
structure Counting (base : UvLwipBase n) (rest : Nat) : Prop where
  closing : base.closing = true
  counted : base.closingCount = rest
  lwipClosed : base.lwipClosed = false
  uvlClosed : base.uvlClosed = false
  leaked : base.leaked = true
  resets : base.resets = 0

theorem Counting.modify {base : UvLwipBase n} {rest : Nat}
    (counting : base.Counting rest) (i : Fin n) (change : Connection → Connection)
    : (base.modify i change).Counting rest :=
  ⟨counting.closing, counting.counted, counting.lwipClosed, counting.uvlClosed, counting.leaked,
    counting.resets⟩

/-- A connection that is not the last one is counted. -/
theorem Counting.close {base : UvLwipBase n} {rest : Nat}
    (counting : base.Counting (rest + 1 + 1)) (i : Fin n)
    : (base.close i).Counting (rest + 1) := by
  refine close_of_removed (UvLwipBase.Counting · (rest + 1)) i
    (fun _ counting change => counting.modify i change) ?_
  have more : base.closingCount - 1 = (rest + 1 : Nat) := by rw [counting.counted]; omega
  rw [if_pos counting.leaked, removeConnection, if_pos counting.closing]
  dsimp only
  rw [if_neg (by omega)]
  exact ⟨counting.closing, more, counting.lwipClosed, counting.uvlClosed, counting.leaked,
    counting.resets⟩

/-- The last connection settles the gateway. -/
theorem Counting.close_last {base : UvLwipBase n} (counting : base.Counting 1)
    (i : Fin n)
    : (base.close i).Settled := by
  refine close_of_removed UvLwipBase.Settled i
    (fun _ settled change => settled.modify i change) ?_
  have zero : base.closingCount - 1 = 0 := by rw [counting.counted]; rfl
  rw [if_pos counting.leaked, removeConnection, if_pos counting.closing]
  dsimp only
  rw [if_pos zero, onSelfClose, if_pos (by simp [counting.lwipClosed])]
  exact ⟨counting.closing, zero.le, rfl,
    .inl ⟨counting.uvlClosed, counting.leaked, counting.resets⟩⟩

/-- The loop of `release`. -/
theorem Counting.foldl_close {base : UvLwipBase n} {i : Fin n} {rest : List (Fin n)}
    (counting : base.Counting (rest.length + 1))
    : ((i :: rest).foldl UvLwipBase.close base).Settled := by
  induction rest generalizing base i with
  | nil => exact counting.close_last i
  | cons next rest ih =>
    rw [List.foldl_cons]
    exact ih (counting.close i)

theorem settled_release (connections : Fin (n + 1) → Connection)
    : (UvLwipBase.running connections).release.Settled := by
  have set : (running connections).connSet = 0 :: (List.finRange n).map Fin.succ :=
    List.finRange_succ
  unfold release
  rw [set]
  exact UvLwipBase.Counting.foldl_close ⟨rfl, rfl, rfl, rfl, rfl, rfl⟩

end UvLwipBase

/-- The reference of the gateway to itself is reset exactly once, in the callback of the handle, if
and only if there was a connection: with none, nothing counts down and the callback is taken for
the first of the two events.
-/
theorem shutdown_completes_iff (connections : Fin n → Connection)
    : (∀ events base,
        UvLwipBase.Reached connections events base
        → base.resets = if base.uvlClosed then 1 else 0)
      ↔ n ≠ 0 := by
  constructor
  · rintro completes rfl
    cases completes [.uvlClosed] _ rfl
  · intro some_ events base reached
    obtain ⟨rest, rfl⟩ := Nat.exists_eq_succ_of_ne_zero some_
    have settled : base.Settled :=
      Machine.failing_run_invariant UvLwipBase.Settled
        (fun _ _ _ _ settled stepped => settled.step stepped)
        (UvLwipBase.settled_release connections) reached
    rcases settled.phase with ⟨waiting, _, none⟩ | ⟨closed, _, once⟩
    · rw [waiting, none]
      rfl
    · rw [closed, once]
      rfl

/-- Without connections the gateway never lets go of itself. -/
theorem empty_gateway_leaks
    : ∃ base : UvLwipBase 0,
        UvLwipBase.Reached (fun i => i.elim0) [.uvlClosed] base
        ∧ base.uvlClosed = true
        ∧ base.uvlClosing = false
        ∧ base.resets = 0
        ∧ base.leaked = true :=
  ⟨_, rfl, rfl, rfl, rfl, rfl⟩

end SwitchLanPlay.Gateway
