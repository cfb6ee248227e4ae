import SwitchLanPlay.Foundation.SlotTable
import SwitchLanPlay.Sysmodule.Proxy

/-! The session table of the TCP proxy. The accept loop fills a slot for each connection of the
local `ldn_mitm`, the session thread frees it, and data from the relay goes to the first active
session with its sender as target.
-/

namespace SwitchLanPlay.Sysmodule

open Foundation

def tcpSessionMax : Nat := 8

/-- `struct TcpSession`; `clientFd` is nothing for a negative descriptor. -/
structure TcpSession where
  active : Bool
  threadCreated : Bool
  clientFd : Option Nat
  targetIp : UInt32
deriving DecidableEq, Repr

structure Sessions where
  ready : Bool
  slots : Fin tcpSessionMax → TcpSession

def sessionView : SlotView TcpSession UInt32 := ⟨TcpSession.active, TcpSession.targetIp⟩

namespace Sessions

/-- The static table before any thread has started: all zero. -/
def zero : Sessions := ⟨false, fun _ => ⟨false, false, some 0, 0⟩⟩

def tcpThreadStart (sessions : Sessions) : Sessions :=
  if sessions.ready then sessions
  else
    ⟨true, fun i =>
      { sessions.slots i with active := false, threadCreated := false, clientFd := none }⟩

/-- `ldn_bridge_tcp_thread_fn` on an accepted connection, from the stream on that it carries.
`created` tells whether `threadCreate` succeeds.
-/
def accept (sessions : Sessions) (clientFd : Nat) (stream : Bytes) (created : Bool)
    : Sessions :=
  match readTarget stream, sessionView.free? sessions.slots with
  | none, _ => sessions
  | some _, none => sessions
  | some (targetIp, _), some slot =>
    let session : TcpSession :=
      if created then ⟨true, true, some clientFd, targetIp⟩
      else ⟨false, false, none, targetIp⟩
    { sessions with slots := Function.update sessions.slots slot session }

def sessionEnd (sessions : Sessions) (slot : Fin tcpSessionMax) : Sessions :=
  {
    sessions with
    slots := Function.update sessions.slots slot
      { sessions.slots slot with active := false, clientFd := none }
  }

def close (sessions : Sessions) : Sessions :=
  if sessions.ready then
    { sessions with slots := fun i => { sessions.slots i with clientFd := none } }
  else sessions

def wait (sessions : Sessions) : Sessions :=
  if sessions.ready then
    { sessions with slots := fun i => { sessions.slots i with threadCreated := false } }
  else sessions

/-- The descriptor data from `srcIp` is written to. The first active session decides, also
when it has none.
-/
def socketFor (sessions : Sessions) (srcIp : UInt32) : Option Nat :=
  if sessions.ready then
    (sessionView.content sessions.slots srcIp).bind TcpSession.clientFd
  else none

end Sessions

/-- The loop of `ldn_bridge_tcp_inject_from_relay`: the octets `send` takes. `send` stands for
the result of each call, zero when it fails. The length of the data is enough fuel.
-/
def sendAll (send : Bytes → Nat) : Nat → Bytes → Bytes
  | 0, _ => []
  | fuel + 1, data =>
    let n := min (send data) data.length
    if n = 0 then [] else data.take n ++ sendAll send fuel (data.drop n)

/-- Every call with something to send takes at least one octet. -/
def SendsSucceed (send : Bytes → Nat) : Prop := ∀ data, data ≠ [] → 0 < send data

/-- Short counts do not matter: the loop goes on until all is sent. -/
theorem sendAll_eq {send : Bytes → Nat} (succeed : SendsSucceed send) {fuel : Nat} {data : Bytes}
    (enough : data.length ≤ fuel)
    : sendAll send fuel data = data := by
  induction fuel generalizing data with
  | zero => exact (List.eq_nil_of_length_eq_zero (Nat.le_zero.mp enough)).symm
  | succ fuel ih =>
    unfold sendAll
    dsimp only
    split
    · rename_i stopped
      by_contra rest
      have taken := succeed data (Ne.symm rest)
      have length := List.length_pos_iff.mpr (Ne.symm rest)
      omega
    · have shorter : (data.drop (min (send data) data.length)).length ≤ fuel := by
        rw [List.length_drop]
        omega
      rw [ih shorter, List.take_append_drop]

end SwitchLanPlay.Sysmodule
