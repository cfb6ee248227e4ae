import SwitchLanPlay.Foundation.Bytes
import SwitchLanPlay.Foundation.Machine

/-! What a connection of `uv_lwip` hands to its reader. A segment goes into a buffer that a deferred
callback empties while reading is started; the end of the stream is told at once.
-/

namespace SwitchLanPlay.Gateway

open Foundation

variable {client : UvlReader} {output : UvlReadOutput}

def uvlTcpRecvBufLen : Nat := 4 * 512

/-- `uvl_tcp_t`, as far as reading is concerned: the octets in `recv_buf`, whether `read_cb` is set
and the connection closed, and whether `read_req` was sent and not yet called.
-/
structure UvlReader where
  recvBuf : Bytes
  readCb : Bool
  closed : Bool
  readReq : Bool
deriving DecidableEq, Repr

def UvlReader.init : UvlReader := ⟨[], false, false, false⟩

/-- What happens to a connection. The deferred callback is given the length of the buffer that
`alloc_cb` provides, if it provides one.
-/
inductive UvlReadEvent where
  | segment (data : Bytes)
  | fin
  | asyncRead (alloc : Option Nat)
  | readStart
  | readStop
deriving DecidableEq, Repr

/-- What an event leads to: lwIP is told whether the segment is taken, `read_cb` is called with
data, `UV_EOF` or `UV_ENOBUFS`, or `uvl_read_start` refuses.
-/
inductive UvlReadOutput where
  | nothing
  | taken (data : Bytes)
  | errMem
  | data (octets : Bytes)
  | eof
  | enobufs
  | ealready
deriving DecidableEq, Repr

namespace UvlReader

def clientRecvFunc (client : UvlReader) (data : Bytes) : UvlReader × UvlReadOutput :=
  if uvlTcpRecvBufLen - client.recvBuf.length < data.length then (client, .errMem)
  else ({ client with recvBuf := client.recvBuf ++ data, readReq := true }, .taken data)

def clientFreed (client : UvlReader) : UvlReader × UvlReadOutput :=
  ({ client with closed := true, readCb := false }, if client.readCb then .eof else .nothing)

def asyncTcpReadCb (client : UvlReader) (alloc : Option Nat)
    : UvlReader × UvlReadOutput :=
  if client.readCb ∧ client.recvBuf ≠ [] then
    match alloc with
    | none => (client, .enobufs)
    | some len =>
      if len < client.recvBuf.length then (client, .enobufs)
      else ({ client with recvBuf := [] }, .data client.recvBuf)
  else (client, .nothing)

def readStart (client : UvlReader) : UvlReader × UvlReadOutput :=
  if client.readCb then (client, .ealready)
  else if client.closed then (client, .eof)
  else ({ client with readReq := true, readCb := true }, .nothing)

def readStop (client : UvlReader) : UvlReader × UvlReadOutput :=
  ({ client with readCb := false }, .nothing)

/-- One event. lwIP calls back with octets, and not once the connection is closed; the deferred
callback runs when it was asked for.
-/
def step (client : UvlReader) : UvlReadEvent → Option (UvlReader × UvlReadOutput)
  | .segment data => if client.closed ∨ data = [] then none else some (client.clientRecvFunc data)
  | .fin => if client.closed then none else some client.clientFreed
  | .asyncRead alloc =>
    if client.readReq then some ({ client with readReq := false }.asyncTcpReadCb alloc) else none
  | .readStart => some client.readStart
  | .readStop => some client.readStop

end UvlReader

def uvlReadMachine : Machine (Option UvlReader) UvlReadEvent UvlReadOutput :=
  Machine.failing UvlReader.step .nothing

def UvlReader.Reached (events : List UvlReadEvent) (client : UvlReader) : Prop :=
  uvlReadMachine.run (some .init) events = some client

instance (events : List UvlReadEvent) (client : UvlReader)
    : Decidable (UvlReader.Reached events client) :=
  inferInstanceAs (Decidable (uvlReadMachine.run (some .init) events = some client))

def readOutputs (events : List UvlReadEvent) : List UvlReadOutput :=
  uvlReadMachine.outputs (some .init) events

def receivedOctets (outputs : List UvlReadOutput) : Bytes :=
  outputs.flatMap fun
    | .taken data => data
    | _ => []

def deliveredOctets (outputs : List UvlReadOutput) : Bytes :=
  outputs.flatMap fun
    | .data octets => octets
    | _ => []

def deliveredBeforeEof (outputs : List UvlReadOutput) : Bytes :=
  deliveredOctets (outputs.takeWhile (· ≠ .eof))

-- Octets before and behind the end

theorem receivedOctets_append (left right : List UvlReadOutput)
    : receivedOctets (left ++ right) = receivedOctets left ++ receivedOctets right :=
  List.flatMap_append

theorem deliveredOctets_append (left right : List UvlReadOutput)
    : deliveredOctets (left ++ right) = deliveredOctets left ++ deliveredOctets right :=
  List.flatMap_append

/-- While the connection is open an event that leaves it open moves octets into the buffer or from
there to the reader.
-/
theorem UvlReader.step_open {next : UvlReader} {event : UvlReadEvent}
    (stepped : client.step event = some (next, output)) (open_ : next.closed = false)
    : client.closed = false
      ∧ client.recvBuf ++ receivedOctets [output] = deliveredOctets [output] ++ next.recvBuf
      ∧ output ≠ .eof := by
  cases event with
  | segment data =>
    simp only [UvlReader.step, clientRecvFunc] at stepped
    split_ifs at stepped with unusable full
    · cases stepped
      exact ⟨open_, by simp [receivedOctets, deliveredOctets], UvlReadOutput.noConfusion⟩
    · cases stepped
      exact ⟨open_, by simp [receivedOctets, deliveredOctets], UvlReadOutput.noConfusion⟩
  | fin =>
    simp only [UvlReader.step, clientFreed] at stepped
    split_ifs at stepped <;> cases stepped <;> cases open_
  | asyncRead alloc =>
    simp only [UvlReader.step, asyncTcpReadCb] at stepped
    split at stepped
    · split at stepped
      · cases alloc with
        | none =>
          cases stepped
          exact ⟨open_, by simp [receivedOctets, deliveredOctets], UvlReadOutput.noConfusion⟩
        | some len =>
          dsimp only at stepped
          split at stepped <;> cases stepped <;>
            exact ⟨open_, by simp [receivedOctets, deliveredOctets],
              UvlReadOutput.noConfusion⟩
      · cases stepped
        exact ⟨open_, by simp [receivedOctets, deliveredOctets], UvlReadOutput.noConfusion⟩
    · cases stepped
  | readStart =>
    simp only [UvlReader.step, UvlReader.readStart] at stepped
    split_ifs at stepped with already closed
    · cases stepped
      exact ⟨open_, by simp [receivedOctets, deliveredOctets], UvlReadOutput.noConfusion⟩
    · cases stepped
      exact absurd (open_.symm.trans closed) Bool.false_ne_true
    · cases stepped
      exact ⟨open_, by simp [receivedOctets, deliveredOctets], UvlReadOutput.noConfusion⟩
  | readStop =>
    cases stepped
    exact ⟨open_, by simp [receivedOctets, deliveredOctets], UvlReadOutput.noConfusion⟩

/-- Behind the end no octet is taken or handed on. -/
theorem UvlReader.step_closed {next : UvlReader} {event : UvlReadEvent}
    (closed : client.closed = true) (stopped : client.readCb = false)
    (stepped : client.step event = some (next, output))
    : next.closed = true
      ∧ next.readCb = false
      ∧ deliveredOctets [output] = [] := by
  cases event with
  | segment data => simp [UvlReader.step, closed] at stepped
  | fin => simp [UvlReader.step, closed] at stepped
  | asyncRead alloc =>
    simp only [UvlReader.step, asyncTcpReadCb, stopped] at stepped
    split at stepped <;> cases stepped
    exact ⟨closed, rfl, rfl⟩
  | readStart =>
    simp only [UvlReader.step, UvlReader.readStart, closed, stopped] at stepped
    cases stepped
    exact ⟨closed, stopped, rfl⟩
  | readStop =>
    cases stepped
    exact ⟨closed, rfl, rfl⟩

/-- The end closes the connection and hands on nothing. -/
theorem UvlReader.step_fin {next : UvlReader} (stepped : client.step .fin = some (next, output))
    : client.closed = false
      ∧ next.closed = true
      ∧ next.readCb = false
      ∧ deliveredOctets [output] = [] := by
  simp only [UvlReader.step, clientFreed] at stepped
  split at stepped
  · cases stepped
  · rename_i open_
    cases stepped
    refine ⟨Bool.eq_false_iff.mpr open_, rfl, rfl, ?_⟩
    split <;> rfl

/-- What was received and not yet delivered is in the buffer, as long as the connection is open. -/
theorem UvlReader.Reached.received_eq {events : List UvlReadEvent}
    (reached : UvlReader.Reached events client) (open_ : client.closed = false)
    : receivedOctets (readOutputs events) = deliveredOctets (readOutputs events) ++ client.recvBuf
      ∧ .eof ∉ readOutputs events := by
  refine Machine.failing_outputs_induction
    (fun _ outputs client =>
      client.closed = false
      → receivedOctets outputs = deliveredOctets outputs ++ client.recvBuf ∧ .eof ∉ outputs)
    (fun _ => ⟨rfl, List.not_mem_nil⟩) ?_ reached open_
  intro _ outputs client event next output holds stepped open_
  obtain ⟨before, moved, noEnd⟩ := step_open stepped open_
  obtain ⟨balance, none⟩ := holds before
  refine ⟨?_, ?_⟩
  · rw [receivedOctets_append, deliveredOctets_append, balance, List.append_assoc, moved,
      List.append_assoc]
  · rw [List.mem_append, List.mem_singleton]
    rintro (earlier | rfl)
    · exact none earlier
    · exact noEnd rfl

/-- A closed connection delivers nothing more. -/
theorem UvlReader.delivered_closed {final : UvlReader} {events : List UvlReadEvent}
    (closed : client.closed = true) (stopped : client.readCb = false)
    (ran : uvlReadMachine.run (some client) events = some final)
    : deliveredOctets (uvlReadMachine.outputs (some client) events) = [] := by
  refine (Machine.failing_outputs_induction
    (fun _ outputs client =>
      client.closed = true ∧ client.readCb = false ∧ deliveredOctets outputs = [])
    ⟨closed, stopped, rfl⟩ ?_ ran).2.2
  rintro _ outputs client event next output ⟨closed, stopped, nothing⟩ stepped
  obtain ⟨closed, stopped, more⟩ := step_closed closed stopped stepped
  exact ⟨closed, stopped, by rw [deliveredOctets_append, nothing, more]; rfl⟩

/-- The reader gets all octets that lwIP delivered before the end of the stream if and only if the
buffer is empty when the end comes: what is still in it is never handed on.
-/
theorem no_data_lost_iff {before after : List UvlReadEvent} {client final : UvlReader}
    (reached : UvlReader.Reached before client)
    (ended : UvlReader.Reached (before ++ .fin :: after) final)
    : deliveredBeforeEof (readOutputs (before ++ .fin :: after))
        = receivedOctets (readOutputs before)
      ↔ client.recvBuf = [] := by
  obtain ⟨_, same, rest⟩ := Machine.failing_run_append_eq_some.mp ended
  cases reached.symm.trans same
  obtain ⟨next, output, stepped, later⟩ := Machine.failing_run_cons_eq_some.mp rest
  obtain ⟨open_, closed, stopped, end_⟩ := UvlReader.step_fin stepped
  obtain ⟨balance, noEnd⟩ := reached.received_eq open_
  have outputs : readOutputs (before ++ .fin :: after)
      = readOutputs before ++ output :: uvlReadMachine.outputs (some next) after := by
    rw [readOutputs, Machine.outputs_append, reached]
    exact congrArg _ (Machine.failing_outputs_cons stepped after)
  have silent : deliveredOctets (output :: uvlReadMachine.outputs (some next) after) = [] := by
    rw [← List.singleton_append, deliveredOctets_append, end_,
      UvlReader.delivered_closed closed stopped later]
    rfl
  have delivered : deliveredBeforeEof (readOutputs (before ++ .fin :: after))
      = deliveredOctets (readOutputs before) := by
    have front : ∀ output ∈ readOutputs before, decide (output ≠ .eof) = true :=
      fun output member => decide_eq_true fun same => noEnd (same ▸ member)
    have behind : deliveredOctets
        ((output :: uvlReadMachine.outputs (some next) after).takeWhile (· ≠ .eof)) = [] :=
      List.flatMap_eq_nil_iff.mpr fun output member =>
        List.flatMap_eq_nil_iff.mp silent output ((List.takeWhile_prefix _).subset member)
    rw [deliveredBeforeEof, outputs, List.takeWhile_append_of_pos front, deliveredOctets_append,
      behind, List.append_nil]
  rw [delivered, balance]
  exact List.self_eq_append_right

theorem no_data_lost_iff_readInTime
    : UvlReader.Reached [.readStart, .segment [7], .asyncRead (some 65536)]
        ⟨[], true, false, false⟩
      ∧ deliveredBeforeEof
          (readOutputs ([.readStart, .segment [7], .asyncRead (some 65536)] ++ .fin :: []))
        = receivedOctets (readOutputs [.readStart, .segment [7], .asyncRead (some 65536)]) := by
  have reached : UvlReader.Reached [.readStart, .segment [7], .asyncRead (some 65536)]
      ⟨[], true, false, false⟩ := by decide
  have ended : UvlReader.Reached
      ([.readStart, .segment [7], .asyncRead (some 65536)] ++ .fin :: [])
      ⟨[], false, true, false⟩ := by decide
  exact ⟨reached, (no_data_lost_iff reached ended).mpr rfl⟩

/-- Octets are lost when the end comes before the deferred callback, and when it comes while the
reader has stopped, as the gateway does with each chunk, even if the reader starts again.
-/
theorem octets_lost_at_eof
    : (readOutputs [.readStart, .segment [7], .fin, .asyncRead (some 65536)]
        = [.nothing, .taken [7], .eof, .nothing])
      ∧ readOutputs
          [.readStart, .segment [7], .asyncRead (some 65536), .readStop, .segment [8], .fin,
            .readStart]
        = [.nothing, .taken [7], .data [7], .nothing, .taken [8], .nothing, .eof] := by
  decide

end SwitchLanPlay.Gateway
