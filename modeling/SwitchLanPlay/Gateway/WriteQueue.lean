import SwitchLanPlay.Foundation.Bytes
import SwitchLanPlay.Foundation.Machine

/-! The write queue of a connection of `uv_lwip`. `uvl_write` appends a request; a deferred callback
passes its buffers to lwIP as far as the send buffer allows and ends the requests whose octets are
all acknowledged.
-/

namespace SwitchLanPlay.Gateway

open Foundation

/-- `uvl_write_t`, with the number of its call. The counters have 32 bits. -/
structure UvlWrite where
  id : Nat
  sendBufs : List Bytes
  sentBufs : Nat
  sent : Nat
  pending : Nat
  totalSent : Nat
  totalLen : Nat
deriving DecidableEq, Repr

/-- lwIP's side of a connection: the octets that `tcp_write` accepted, how many of them are
acknowledged, and what `tcp_sndbuf` reports.
-/
structure TcpPcb where
  written : Bytes
  acked : Nat
  sndBuf : UInt16
deriving DecidableEq, Repr

/-- The answer of `tcp_write`: it accepts the octets and then has some room left, it has no memory,
or it fails otherwise.
-/
inductive TcpWriteAnswer where
  | ok (sndBuf : UInt16)
  | errMem
  | err
deriving DecidableEq, Repr

/-- `uvl_tcp_t`, as far as writing is concerned. The requests from `cur_write` on are in `queue`,
and `writeReq` tells that the deferred callback was asked for. Three fields are history: the calls
of `uvl_write`, and the requests called back with 0 and with `UV_ECANCELED`.
-/
structure UvlWriter where
  pcb : TcpPcb
  queue : List UvlWrite
  closed : Bool
  writeReq : Bool
  calls : List (List Bytes)
  completed : List Nat
  cancelled : List Nat
deriving DecidableEq, Repr

def UvlWriter.init : UvlWriter := ⟨⟨[], 0, 0⟩, [], false, false, [], [], []⟩

def UvlWriter.write (client : UvlWriter) (bufs : List Bytes) : UvlWriter :=
  {
    client with
    queue := client.queue ++ [{
      id := client.calls.length
      sendBufs := bufs
      sentBufs := 0
      sent := 0
      pending := 0
      totalSent := 0
      totalLen := bufs.flatten.length % 2 ^ 32
    }]
    writeReq := true
    calls := client.calls ++ [bufs]
  }

-- Passing buffers to lwIP

/-- What a loop over buffers leaves: the answers not yet used, lwIP's side, the request, and whether
the loop goes on.
-/
structure Progress where
  answers : List TcpWriteAnswer
  pcb : TcpPcb
  req : UvlWrite
  more : Bool
deriving DecidableEq, Repr

def UvlWrite.advance (req : UvlWrite) (toWrite : Nat) : UvlWrite :=
  {
    req with
    sent := (req.sent + toWrite) % 2 ^ 32
    pending := (req.pending + toWrite) % 2 ^ 32
    totalSent := (req.totalSent + toWrite) % 2 ^ 32
  }

/-- The label `may_next` of `uvl_imp_write_buf_to_tcp`. -/
def mayNext (answers : List TcpWriteAnswer) (pcb : TcpPcb) (req : UvlWrite) : Progress :=
  if pcb.sndBuf = 0 then ⟨answers, pcb, req, false⟩
  else ⟨answers, pcb, { req with sent := 0, sentBufs := req.sentBufs + 1 }, true⟩

/-- `uvl_imp_write_buf_to_tcp` on a buffer. lwIP answers as the list says, and has no memory when it
ends. An error of another kind frees the connection, and the caller goes on with its null pointer.
-/
def impWriteBufToTcp (buf : Bytes) (answers : List TcpWriteAnswer) (pcb : TcpPcb) (req : UvlWrite)
    : Option Progress :=
  let toWrite := min (buf.length - req.sent) pcb.sndBuf.toNat
  if toWrite = 0 then some (mayNext answers pcb req)
  else
    match answers with
    | [] => some ⟨[], pcb, req, false⟩
    | .errMem :: answers => some ⟨answers, pcb, req, false⟩
    | .err :: _ => none
    | .ok sndBuf :: answers =>
      let pcb := {
        pcb with
        written := pcb.written ++ (buf.drop req.sent).take toWrite
        sndBuf := sndBuf
      }
      let req := req.advance toWrite
      if req.sent < buf.length then impWriteBufToTcp buf answers pcb req
      else some (mayNext answers pcb req)

/-- The second loop of `uvl_imp_write_to_tcp` within one request, from its first buffer that is not
sent. Without such a buffer it would read behind the array.
-/
def impWriteRequest : List Bytes → List TcpWriteAnswer → TcpPcb → UvlWrite → Option Progress
  | [], _, _, _ => none
  | buf :: bufs, answers, pcb, req => do
      let progress ← impWriteBufToTcp buf answers pcb req
      if !progress.more then some progress
      else if progress.req.sentBufs = req.sendBufs.length then some progress
      else impWriteRequest bufs progress.answers progress.pcb progress.req

def impWriteQueue (answers : List TcpWriteAnswer) (pcb : TcpPcb)
    : List UvlWrite → Option (TcpPcb × List UvlWrite)
  | [] => some (pcb, [])
  | req :: rest => do
      let progress ← impWriteRequest (req.sendBufs.drop req.sentBufs) answers pcb req
      if progress.more then
        let (pcb, rest) ← impWriteQueue progress.answers progress.pcb rest
        some (pcb, progress.req :: rest)
      else some (progress.pcb, progress.req :: rest)

def UvlWrite.isSent (req : UvlWrite) : Bool := !(req.sentBufs < req.sendBufs.length)

/-- `uvl_imp_write_to_tcp`: skip the requests that are sent, pass on the others, and let lwIP put
them out. If that fails, the connection is closed.
-/
def UvlWriter.impWriteToTcp (client : UvlWriter) (answers : List TcpWriteAnswer) (output : Bool)
    : Option UvlWriter := do
  let (pcb, rest) ← impWriteQueue answers client.pcb (client.queue.dropWhile UvlWrite.isSent)
  some {
    client with
    pcb := pcb
    queue := client.queue.takeWhile UvlWrite.isSent ++ rest
    closed := !output
  }

-- The callbacks

def UvlWrite.isComplete (req : UvlWrite) : Bool := req.totalSent = req.totalLen && req.pending = 0

/-- `write_cb(req, 0)` for the first request, whose callback calls `uvl_write` in turn. -/
def UvlWriter.complete (client : UvlWriter) (req : UvlWrite) (rest : List UvlWrite)
    (calls : List (List Bytes))
    : UvlWriter :=
  calls.foldl UvlWriter.write
    { client with queue := rest, completed := client.completed ++ [req.id] }

def UvlWriter.completeAll (client : UvlWriter) : List UvlWrite → UvlWriter
  | [] => client
  | req :: rest => if req.isComplete then (client.complete req rest []).completeAll rest else client

/-- The loop of `uvl_async_tcp_write_cb`; each callback writes what the list says. `next` is read
before the callback, so a request that the callback of the last one writes is not looked at.
-/
def UvlWriter.completeLoop : List (List (List Bytes)) → UvlWriter → UvlWriter
  | [], client => client.completeAll client.queue
  | calls :: more, client =>
    match client.queue with
    | [] => client
    | req :: rest =>
      if req.isComplete then
        if rest = [] then client.complete req rest calls
        else (client.complete req rest calls).completeLoop more
      else client

def UvlWriter.cancelReqs (client : UvlWriter) : UvlWriter :=
  { client with queue := [], cancelled := client.cancelled ++ client.queue.map UvlWrite.id }

def UvlWriter.asyncTcpWriteCb (client : UvlWriter) (callbacks : List (List (List Bytes)))
    (answers : List TcpWriteAnswer) (output : Bool)
    : Option UvlWriter :=
  let client := client.completeLoop callbacks
  if client.closed then some client.cancelReqs
  else if client.queue ≠ [] then client.impWriteToTcp answers output
  else some client

/-- The loop of `uvl_client_sent_func`; behind the last request it would follow a null pointer. -/
def subtractPending : Nat → List UvlWrite → Option (List UvlWrite)
  | 0, queue => some queue
  | _ + 1, [] => none
  | len + 1, req :: rest =>
    let toSub := min req.pending (len + 1)
    (subtractPending (len + 1 - toSub) rest).map
      ({ req with pending := req.pending - toSub } :: ·)

def UvlWriter.clientSentFunc (client : UvlWriter) (len : Nat) : Option UvlWriter :=
  (subtractPending len client.queue).map fun queue =>
    {
      client with
      pcb := { client.pcb with acked := client.pcb.acked + len }
      queue := queue
      writeReq := true
    }

/-- What happens to a connection: a call of `uvl_write`, the deferred callback, for which lwIP first
reports the room in its send buffer, an acknowledgement, or the end of the connection.
-/
inductive UvlWriteEvent where
  | write (bufs : List Bytes)
  | asyncWrite (sndBuf : UInt16) (callbacks : List (List (List Bytes)))
      (answers : List TcpWriteAnswer) (output : Bool)
  | sent (len : Nat)
  | freed
deriving DecidableEq, Repr

/-- One event. lwIP acknowledges at most what was written, and nothing once the connection is
closed.
-/
def UvlWriter.step (client : UvlWriter) : UvlWriteEvent → Option (UvlWriter × Unit)
  | .write bufs => some (client.write bufs, ())
  | .asyncWrite sndBuf callbacks answers output =>
    if client.writeReq then
      let called := {
        client with
        pcb := { client.pcb with sndBuf := sndBuf }
        writeReq := false
      }
      (called.asyncTcpWriteCb callbacks answers output).map (·, ())
    else none
  | .sent len =>
    if client.closed ∨ len = 0 ∨ client.pcb.written.length < client.pcb.acked + len then none
    else (client.clientSentFunc len).map (·, ())
  | .freed => some ({ client with closed := true }, ())

def uvlWriteMachine : Machine (Option UvlWriter) UvlWriteEvent Unit :=
  Machine.failing UvlWriter.step ()

def UvlWriter.Reached (events : List UvlWriteEvent) (client : UvlWriter) : Prop :=
  uvlWriteMachine.run (some .init) events = some client

end SwitchLanPlay.Gateway
