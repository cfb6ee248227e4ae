import SwitchLanPlay.Gateway.WriteOrder

/-! The account of a connection's writes: the queue holds the calls that are not completed and all
octets not acknowledged, so each callback is called once, in the order of the calls.
-/

namespace SwitchLanPlay.Gateway

open List Option
open Foundation

variable {req : UvlWrite} {callbacks : List (List (List Bytes))} {id : Nat}

/-- The queue holds the calls that are not completed, in their order, and accounts for all octets
that are written and not acknowledged.
-/
structure UvlWriter.Ordered (client : UvlWriter) : Prop where
  lined : Lined client.queue
  inOrder : InOrder client.queue
  ids : client.queue.map UvlWrite.id = range' client.completed.length client.queue.length
  sendBufs : client.queue.map UvlWrite.sendBufs = client.calls.drop client.completed.length
  calls : client.completed.length + client.queue.length = client.calls.length
  completed : client.completed = range client.completed.length
  written
    : client.pcb.written
      = (client.calls.take client.completed.length).flatten.flatten
        ++ client.queue.flatMap UvlWrite.sentBytes
  ledger : (client.queue.map UvlWrite.pending).sum + client.pcb.acked = client.pcb.written.length

/-- A request that is complete is not left alone: the deferred callback is asked for. -/
def UvlWriter.Attended (client : UvlWriter) : Prop :=
  client.writeReq = false → ∀ req ∈ client.queue.head?, req.isComplete = false

section Connection

variable {client : UvlWriter}

namespace UvlWriter

theorem ordered_init : UvlWriter.init.Ordered := ⟨trivial, trivial, rfl, rfl, rfl, rfl, rfl, rfl⟩

theorem Ordered.write (ordered : client.Ordered) {bufs : List Bytes}
    (lawful : LawfulCall bufs)
    : (client.write bufs).Ordered := by
  have fresh : UvlWrite.Fresh {
      id := client.calls.length, sendBufs := bufs, sentBufs := 0, sent := 0, pending := 0,
      totalSent := 0, totalLen := bufs.flatten.length % 2 ^ 32 } :=
    ⟨lawful, Nat.mod_eq_of_lt lawful.2, rfl, rfl, rfl, rfl⟩
  have known := ordered.calls
  refine ⟨ordered.lined.concat fresh, ordered.inOrder.concat fresh, ?_, ?_, ?_, ordered.completed,
    ?_, ?_⟩
  · simp only [UvlWriter.write, map_append, map_singleton, ordered.ids,
      length_append, length_singleton]
    rw [range'_concat, Nat.one_mul, known]
  · simp only [UvlWriter.write, map_append, map_singleton, ordered.sendBufs]
    rw [drop_append_of_le_length (by omega)]
  · simp only [UvlWriter.write, length_append, length_singleton]
    omega
  · simp only [UvlWriter.write, flatMap_append, flatMap_singleton, fresh.sentBytes,
      append_nil]
    rw [take_append_of_le_length (by omega)]
    exact ordered.written
  · simp only [UvlWriter.write, map_append, map_singleton, sum_append,
      sum_singleton, Nat.add_zero]
    exact ordered.ledger

theorem Ordered.foldl_write (ordered : client.Ordered) {calls : List (List Bytes)}
    (lawful : ∀ bufs ∈ calls, LawfulCall bufs)
    : (calls.foldl UvlWriter.write client).Ordered := by
  induction calls generalizing client with
  | nil => exact ordered
  | cons bufs calls ih =>
    rw [forall_mem_cons] at lawful
    exact ih (ordered.write lawful.1) lawful.2

/-- The first request ends when it is complete. -/
theorem Ordered.complete (ordered : client.Ordered) {rest : List UvlWrite}
    (here : client.queue = req :: rest) (complete : req.isComplete = true)
    {calls : List (List Bytes)} (lawful : ∀ bufs ∈ calls, LawfulCall bufs)
    : (client.complete req rest calls).Ordered := by
  obtain ⟨lined, inOrder, ids, sendBufs, known, completed, written, ledger⟩ := ordered
  rw [here] at lined inOrder ids sendBufs known written ledger
  obtain ⟨placed, order⟩ := lined
  obtain ⟨sent, acknowledged⟩ := UvlWrite.isComplete_iff.mp complete
  have all : req.sentBytes = req.sendBufs.flatten :=
    UvlWrite.sentBytes_of_length_le (by rw [sent, placed.total])
  rw [map_cons, length_cons, range'_succ, List.cons.injEq] at ids
  rw [map_cons] at sendBufs
  have length : (client.completed ++ [req.id]).length = client.completed.length + 1 := by simp
  have next : client.calls.take (client.completed.length + 1)
      = client.calls.take client.completed.length ++ [req.sendBufs] := by
    rw [take_add, ← sendBufs]
    rfl
  refine foldl_write ⟨?_, ?_, ?_, ?_, ?_, ?_, ?_, ?_⟩ lawful
  · rcases order with ⟨_, behind⟩ | ⟨_, fresh⟩
    · exact behind
    · exact lined_of_fresh fresh
  · rcases inOrder with ⟨_, behind⟩ | ⟨waits, _⟩
    · exact behind
    · omega
  · rw [length]
    exact ids.2
  · rw [length, ← drop_drop, ← sendBufs]
    rfl
  · rw [length_cons] at known
    change (client.completed ++ [req.id]).length + rest.length = client.calls.length
    omega
  · rw [length, range_succ, ← completed, ids.1]
  · rw [length, next, written, flatMap_cons, all, flatten_append, flatten_append,
      append_assoc]
    simp
  · rw [map_cons, sum_cons, acknowledged, Nat.zero_add] at ledger
    exact ledger

theorem Ordered.completeAll (ordered : client.Ordered) {queue : List UvlWrite}
    (here : client.queue = queue)
    : (client.completeAll queue).Ordered ∧ (client.completeAll queue).Attended := by
  induction queue generalizing client with
  | nil =>
    refine ⟨ordered, fun _ req member => ?_⟩
    rw [UvlWriter.completeAll, here] at member
    cases member
  | cons req rest ih =>
    unfold UvlWriter.completeAll
    split
    · rename_i complete
      exact ih (ordered.complete here complete (forall_mem_nil _)) rfl
    · rename_i incomplete
      refine ⟨ordered, fun _ other member => ?_⟩
      rw [here] at member
      cases member
      exact Bool.eq_false_iff.mpr incomplete

/-- Behind a write the deferred callback is asked for. -/
theorem writeReq_foldl_write {calls : List (List Bytes)} (some_ : calls ≠ [])
    : (calls.foldl UvlWriter.write client).writeReq = true := by
  obtain ⟨front, last, rfl⟩ := eq_nil_or_concat calls |>.resolve_left some_
  rw [concat_eq_append, foldl_append]
  rfl

theorem attended_complete (calls : List (List Bytes))
    : (client.complete req [] calls).Attended := by
  intro idle other member
  cases calls with
  | nil => cases member
  | cons bufs calls =>
    have asked : (client.complete req [] (bufs :: calls)).writeReq = true :=
      writeReq_foldl_write (cons_ne_nil bufs calls)
    exact absurd (idle.symm.trans asked) Bool.false_ne_true

/-- The loop of the deferred callback. -/
theorem Ordered.completeLoop (ordered : client.Ordered)
    (lawful : ∀ calls ∈ callbacks, ∀ bufs ∈ calls, LawfulCall bufs)
    : (client.completeLoop callbacks).Ordered ∧ (client.completeLoop callbacks).Attended := by
  induction callbacks generalizing client with
  | nil => exact ordered.completeAll rfl
  | cons calls more ih =>
    rw [forall_mem_cons] at lawful
    unfold UvlWriter.completeLoop
    cases here : client.queue with
    | nil =>
      refine ⟨ordered, fun _ req member => ?_⟩
      rw [here] at member
      cases member
    | cons req rest =>
      dsimp only
      split
      · rename_i complete
        have next := ordered.complete here complete lawful.1
        split
        · rename_i last
          subst last
          exact ⟨next, attended_complete calls⟩
        · exact ih next lawful.2
      · rename_i incomplete
        refine ⟨ordered, fun _ other member => ?_⟩
        rw [here] at member
        cases member
        exact Bool.eq_false_iff.mpr incomplete

/-- Passing on octets keeps the order. A request that is not complete does not become so: it waits
for what it passes on.
-/
theorem Ordered.impWriteToTcp (ordered : client.Ordered) (attended : client.Attended)
    {answers : List TcpWriteAnswer} {output : Bool} {next : UvlWriter}
    (wrote : client.impWriteToTcp answers output = some next)
    : next.Ordered ∧ next.Attended := by
  simp only [UvlWriter.impWriteToTcp, bind_eq_bind, bind_eq_some_iff] at wrote
  obtain ⟨⟨pcb, rest⟩, wrote, same⟩ := wrote
  cases same
  have queue : client.queue.takeWhile UvlWrite.isSent ++ client.queue.dropWhile UvlWrite.isSent
      = client.queue := takeWhile_append_dropWhile
  have headUnsent := isSent_head?_dropWhile client.queue
  obtain ⟨tailLined, others⟩ := ordered.lined.dropWhile
  generalize client.queue.takeWhile UvlWrite.isSent = sent at queue others ⊢
  generalize client.queue.dropWhile UvlWrite.isSent = unsent at queue wrote headUnsent tailLined
  obtain ⟨-, inOrder, ids, sendBufs, known, completed, written, ledger⟩ := ordered
  rw [← queue] at inOrder ids sendBufs known written ledger
  obtain ⟨octets, sends⟩ := tailLined.impWriteQueue headUnsent wrote
  have length : rest.length = unsent.length := by simpa using congrArg List.length sends.ids
  refine ⟨⟨others rest sends.lined, inOrder.append_right sends.inOrder sends.waits, ?_, ?_, ?_,
    completed, ?_, ?_⟩, ?_⟩
  · rw [map_append, sends.ids, ← map_append, ids, length_append, length_append,
      length]
  · rw [map_append, sends.sendBufs, ← map_append, sendBufs]
  · rw [length_append] at known ⊢
    rw [length]
    exact known
  · rw [sends.written, written, flatMap_append, flatMap_append, sends.sent]
    simp only [append_assoc]
  · have pending := sends.pending
    rw [map_append, sum_append] at ledger
    rw [sends.acked, sends.written, length_append, map_append, sum_append]
    dsimp only
    omega
  · intro idle req member
    have before := attended idle
    rw [← queue] at before
    cases sent with
    | nil => exact sends.incomplete before req member
    | cons first sent => exact before req member

/-- Acknowledged octets keep the order. -/
theorem Ordered.clientSentFunc (ordered : client.Ordered) {len : Nat} {next : UvlWriter}
    (called : client.clientSentFunc len = some next)
    : next.Ordered := by
  obtain ⟨queue, subtracted, rfl⟩ := map_eq_some_iff.mp called
  have acks := queueAcks_of_subtractPending subtracted
  have length : queue.length = client.queue.length := by
    simpa using congrArg List.length acks.ids
  have pending := acks.pending
  have ledger := ordered.ledger
  refine ⟨acks.lined ordered.lined, acks.inOrder ordered.inOrder, ?_, ?_, ?_, ordered.completed,
    ?_, ?_⟩
  · exact acks.ids.trans (length ▸ ordered.ids)
  · exact acks.sendBufs.trans ordered.sendBufs
  · exact length ▸ ordered.calls
  · rw [ordered.written]
    exact congrArg _ acks.sent.symm
  · change (queue.map UvlWrite.pending).sum + (client.pcb.acked + len) = client.pcb.written.length
    omega

theorem closed_foldl_write (calls : List (List Bytes))
    : (calls.foldl UvlWriter.write client).closed = client.closed := by
  induction calls generalizing client with
  | nil => rfl
  | cons bufs calls ih => exact ih

theorem closed_completeAll (queue : List UvlWrite)
    : (client.completeAll queue).closed = client.closed := by
  induction queue generalizing client with
  | nil => rfl
  | cons req rest ih =>
    unfold completeAll
    split
    · exact ih
    · rfl

theorem closed_completeLoop (callbacks : List (List (List Bytes)))
    : (client.completeLoop callbacks).closed = client.closed := by
  induction callbacks generalizing client with
  | nil => exact closed_completeAll _
  | cons calls more ih =>
    unfold completeLoop
    cases client.queue with
    | nil => rfl
    | cons req rest =>
      dsimp only
      split
      · split
        · exact closed_foldl_write calls
        · exact ih.trans (closed_foldl_write calls)
      · rfl

end UvlWriter

def UvlWriteEvent.Lawful : UvlWriteEvent → Prop
  | .write bufs => LawfulCall bufs
  | .asyncWrite _ callbacks _ _ => ∀ calls ∈ callbacks, ∀ bufs ∈ calls, LawfulCall bufs
  | .sent _ => True
  | .freed => True

/-- The deferred callback. -/
theorem UvlWriter.asyncTcpWriteCb_ordered
    (lawful : ∀ calls ∈ callbacks, ∀ bufs ∈ calls, LawfulCall bufs) {answers : List TcpWriteAnswer}
    {output : Bool} {next : UvlWriter}
    (called : client.asyncTcpWriteCb callbacks answers output = some next)
    (open_ : next.closed = false)
    : client.closed = false ∧ (client.Ordered → next.Ordered ∧ next.Attended) := by
  have same := client.closed_completeLoop callbacks
  unfold asyncTcpWriteCb at called
  dsimp only at called
  split at called
  · rename_i closed
    cases called
    exact absurd (open_.symm.trans closed) Bool.false_ne_true
  · rename_i notClosed
    refine ⟨by rw [← same]; exact Bool.eq_false_iff.mpr notClosed, fun ordered => ?_⟩
    obtain ⟨looped, attended⟩ := ordered.completeLoop lawful
    split at called
    · exact looped.impWriteToTcp attended called
    · cases called
      exact ⟨looped, attended⟩

/-- An event that leaves the connection open finds it open and keeps the order. -/
theorem UvlWriter.step_ordered {next : UvlWriter} {event : UvlWriteEvent} {output : Unit}
    (lawful : event.Lawful) (stepped : client.step event = some (next, output))
    (open_ : next.closed = false)
    : client.closed = false
      ∧ (client.Ordered → client.Attended → next.Ordered ∧ next.Attended) := by
  cases event with
  | write bufs =>
    cases stepped
    exact ⟨open_, fun ordered _ => ⟨ordered.write lawful, fun idle => by cases idle⟩⟩
  | asyncWrite sndBuf callbacks answers output =>
    simp only [UvlWriter.step] at stepped
    split at stepped
    · obtain ⟨_, called, same⟩ := map_eq_some_iff.mp stepped
      cases same
      obtain ⟨before, kept⟩ := asyncTcpWriteCb_ordered lawful called open_
      refine ⟨before, fun ordered _ => kept ?_⟩
      exact ⟨ordered.lined, ordered.inOrder, ordered.ids, ordered.sendBufs, ordered.calls,
        ordered.completed, ordered.written, ordered.ledger⟩
    · cases stepped
  | sent len =>
    simp only [UvlWriter.step] at stepped
    split at stepped
    · cases stepped
    · rename_i usable
      obtain ⟨_, called, same⟩ := map_eq_some_iff.mp stepped
      cases same
      refine ⟨?_, fun ordered _ => ⟨ordered.clientSentFunc called, ?_⟩⟩
      · exact Bool.eq_false_iff.mpr (not_or.mp usable).1
      · obtain ⟨queue, _, rfl⟩ := map_eq_some_iff.mp called
        exact fun idle => by cases idle
  | freed =>
    cases stepped
    cases open_

/-- Every open connection is in order. -/
theorem UvlWriter.Reached.ordered {events : List UvlWriteEvent}
    (reached : UvlWriter.Reached events client) (lawful : ∀ event ∈ events, event.Lawful)
    (open_ : client.closed = false)
    : client.Ordered ∧ client.Attended := by
  refine Machine.failing_run_induction
    (fun history client =>
      (∀ event ∈ history, event.Lawful) → client.closed = false
      → client.Ordered ∧ client.Attended)
    ?_ ?_ reached lawful open_
  · exact fun _ _ => ⟨ordered_init, fun _ _ member => by cases member⟩
  · intro history client event next output holds stepped lawful open_
    rw [forall_mem_append, forall_mem_singleton] at lawful
    obtain ⟨before, kept⟩ := step_ordered lawful.2 stepped open_
    obtain ⟨ordered, attended⟩ := holds lawful.1 before
    exact kept ordered attended

end Connection

-- The order of octets and callbacks

section Order

variable {client : UvlWriter}

namespace UvlWriter

def lengthThrough (client : UvlWriter) (id : Nat) : Nat :=
  (client.calls.take (id + 1)).flatten.flatten.length

theorem Ordered.written_isPrefix (ordered : client.Ordered)
    : client.pcb.written <+: client.calls.flatten.flatten := by
  have front := ordered.lined.sentBytes_isPrefix
  rw [ordered.sendBufs] at front
  rw [ordered.written]
  conv_rhs => rw [← take_append_drop client.completed.length client.calls]
  rw [flatten_append, flatten_append]
  exact (prefix_append_right_inj _).mpr front

theorem lengthThrough_mono {later : Nat} (le : id ≤ later)
    : client.lengthThrough id ≤ client.lengthThrough later := by
  have front : client.calls.take (id + 1) <+: client.calls.take (later + 1) :=
    take_prefix_take_left (Nat.succ_le_succ le)
  obtain ⟨more, same⟩ := front
  unfold lengthThrough
  rw [← same, flatten_append, flatten_append, length_append]
  exact Nat.le_add_right _ _

/-- All octets of completed requests are acknowledged. -/
theorem Ordered.lengthThrough_le (ordered : client.Ordered) (done : id ∈ client.completed)
    : client.lengthThrough id ≤ client.pcb.acked := by
  rw [ordered.completed, mem_range] at done
  have ledger := ordered.ledger
  rw [ordered.written, length_append] at ledger
  have waits := (sum_pending_le ordered.lined.positioned).1
  have through := client.lengthThrough_mono (Nat.le_sub_one_of_lt done)
  unfold lengthThrough at through ⊢
  rw [Nat.sub_one_add_one (Nat.ne_zero_of_lt done)] at through
  omega

/-- The octets of the first request that is not complete are not all acknowledged. -/
theorem Ordered.acked_lt (ordered : client.Ordered) {rest : List UvlWrite}
    (here : client.queue = req :: rest) (incomplete : req.isComplete = false)
    : client.pcb.acked < client.lengthThrough client.completed.length := by
  obtain ⟨lined, inOrder, -, sendBufs, -, -, written, ledger⟩ := ordered
  rw [here] at lined inOrder sendBufs written ledger
  have positioned := lined.positioned
  rw [forall_mem_cons] at positioned
  obtain ⟨placed, others⟩ := positioned
  have own := placed.length_sentBytes
  have bound := placed.totalSent_le
  have through : client.lengthThrough client.completed.length
      = (client.calls.take client.completed.length).flatten.flatten.length
        + req.sendBufs.flatten.length := by
    rw [lengthThrough, take_add, ← sendBufs]
    simp
  rw [written, map_cons, sum_cons, flatMap_cons, length_append,
    length_append] at ledger
  rw [through]
  rw [Bool.eq_false_iff, ne_eq, UvlWrite.isComplete_iff, placed.total] at incomplete
  obtain ⟨le, eq⟩ := sum_pending_le others
  rcases inOrder with ⟨none, -⟩ | ⟨waits, all⟩
  · have partly : req.totalSent < req.sendBufs.flatten.length :=
      Nat.lt_of_le_of_ne bound (fun same => incomplete ⟨same, none⟩)
    rcases lined.2 with ⟨sent, -⟩ | ⟨-, fresh⟩
    · exact absurd (placed.totalSent_of_isSent sent) partly.ne
    · rw [flatMap_sentBytes_of_fresh fresh, length_nil] at ledger
      omega
  · have same := eq all
    omega

/-- When no callback is asked for, all requests whose octets are acknowledged are completed. -/
theorem Ordered.mem_completed (ordered : client.Ordered) (attended : client.Attended)
    (idle : client.writeReq = false) (called : id < client.calls.length)
    (acknowledged : client.lengthThrough id ≤ client.pcb.acked)
    : id ∈ client.completed := by
  rw [ordered.completed, mem_range]
  by_contra notDone
  have known := ordered.calls
  cases here : client.queue with
  | nil =>
    rw [here, length_nil] at known
    omega
  | cons req rest =>
    have behind := ordered.acked_lt here (attended idle req (by rw [here]; rfl))
    have through := client.lengthThrough_mono (Nat.not_lt.mp notDone)
    omega

/-- Without an error of another kind the deferred callback comes to its end. -/
theorem Ordered.asyncTcpWriteCb_isSome (ordered : client.Ordered)
    (lawful : ∀ calls ∈ callbacks, ∀ bufs ∈ calls, LawfulCall bufs) {answers : List TcpWriteAnswer}
    (fine : .err ∉ answers) (output : Bool)
    : (client.asyncTcpWriteCb callbacks answers output).isSome := by
  obtain ⟨looped, -⟩ := ordered.completeLoop lawful
  unfold asyncTcpWriteCb
  dsimp only
  split
  · rfl
  · split
    · obtain ⟨⟨pcb, rest⟩, wrote⟩ := isSome_iff_exists.mp
        (looped.lined.dropWhile.1.exists_impWriteQueue fine _ (isSent_head?_dropWhile _))
      rw [UvlWriter.impWriteToTcp, wrote]
      rfl
    · rfl

end UvlWriter

/-- On an open connection lwIP gets a front of all queued octets, in the order of the calls; the
requests in the queue account for the octets that are not acknowledged, so neither the callback of
an acknowledgement nor the deferred callback runs out of them; the callbacks of the requests are
called once each, in the order of the calls, when all octets up to there are acknowledged, and at
the latest by the deferred callback that is then asked for.
-/
theorem write_queue_in_order {events : List UvlWriteEvent}
    (reached : UvlWriter.Reached events client) (lawful : ∀ event ∈ events, event.Lawful)
    (open_ : client.closed = false)
    : client.pcb.written <+: client.calls.flatten.flatten
      ∧ (client.queue.map UvlWrite.pending).sum + client.pcb.acked = client.pcb.written.length
      ∧ (∀ len,
          client.pcb.acked + len ≤ client.pcb.written.length
          → (client.clientSentFunc len).isSome)
      ∧ (∀ sndBuf callbacks answers output,
          (UvlWriteEvent.asyncWrite sndBuf callbacks answers output).Lawful
          → client.writeReq = true
          → .err ∉ answers
          → (client.step (.asyncWrite sndBuf callbacks answers output)).isSome)
      ∧ client.completed = List.range client.completed.length
      ∧ (∀ id ∈ client.completed, client.lengthThrough id ≤ client.pcb.acked)
      ∧ (client.writeReq = false
        → ∀ id < client.calls.length,
            client.lengthThrough id ≤ client.pcb.acked → id ∈ client.completed) := by
  obtain ⟨ordered, attended⟩ := reached.ordered lawful open_
  refine ⟨ordered.written_isPrefix, ordered.ledger, ?_, ?_, ordered.completed,
    fun id done => ordered.lengthThrough_le done,
    fun idle id called => ordered.mem_completed attended idle called⟩
  · intro len within
    have ledger := ordered.ledger
    rw [UvlWriter.clientSentFunc, Option.isSome_map, subtractPending_isSome_iff]
    omega
  · intro sndBuf callbacks answers output lawfulCalls asked fine
    have called : UvlWriter.Ordered {
        client with
        pcb := { client.pcb with sndBuf := sndBuf }
        writeReq := false } :=
      ⟨ordered.lined, ordered.inOrder, ordered.ids, ordered.sendBufs, ordered.calls,
        ordered.completed, ordered.written, ordered.ledger⟩
    rw [UvlWriter.step, if_pos asked, Option.isSome_map]
    exact called.asyncTcpWriteCb_isSome lawfulCalls fine output

def sentInParts : List UvlWriteEvent :=
  [.write [[7, 8], []], .asyncWrite 1 [] [.ok 0] true, .sent 1, .asyncWrite 5 [] [.ok 4] true,
    .sent 1, .asyncWrite 4 [] [] true]

theorem write_queue_in_order_sentInParts
    : ∃ client,
        UvlWriter.Reached sentInParts client
        ∧ client.pcb.acked = 2
        ∧ client.completed = [0]
        ∧ client.pcb.written <+: client.calls.flatten.flatten := by
  have lawful : ∀ event ∈ sentInParts, event.Lawful := by
    simp [sentInParts, UvlWriteEvent.Lawful, LawfulCall]
  have reached : UvlWriter.Reached sentInParts
      ⟨⟨[7, 8], 2, 4⟩, [], false, false, [[[7, 8], []]], [0], []⟩ := by
    unfold UvlWriter.Reached
    decide
  exact ⟨_, reached, rfl, rfl, (write_queue_in_order reached lawful rfl).1⟩

end Order

end SwitchLanPlay.Gateway
