import SwitchLanPlay.Gateway.WriteQueue

/-! The calls of lwIP that `uvl_imp_write_to_tcp` makes when `tcp_write` fails with another error
than `ERR_MEM`. The client is closed then, and its `pcb` is null.
-/

namespace SwitchLanPlay.Gateway

open List
open Foundation

/-- The functions of lwIP. `clear` stands for `tcp_err`, `tcp_recv` and `tcp_sent`, which take the
callbacks off.
-/
inductive LwipCall where
  | sndbuf
  | write (answer : TcpWriteAnswer)
  | clear
  | close
  | abort
  | output
deriving DecidableEq, Repr

/-- `uvl_client_close_func`: what it returns, `ERR_OK` or `ERR_ABRT`, and its calls. -/
def clientCloseFunc (closes : Bool) : Int × List LwipCall :=
  if closes then (0, [.clear, .close]) else (-13, [.clear, .close, .clear, .abort])

def impWriteBufCalls (closes : Bool) (buf : Bytes) (answers : List TcpWriteAnswer) (pcb : TcpPcb)
    (req : UvlWrite)
    : List LwipCall :=
  let toWrite := min (buf.length - req.sent) pcb.sndBuf.toNat
  if toWrite = 0 then [.sndbuf, .sndbuf]
  else
    match answers with
    | [] => [.sndbuf, .write .errMem]
    | .errMem :: _ => [.sndbuf, .write .errMem]
    | .err :: _ => .sndbuf :: .write .err :: (clientCloseFunc closes).2
    | .ok sndBuf :: answers =>
      let pcb := {
        pcb with
        written := pcb.written ++ (buf.drop req.sent).take toWrite
        sndBuf := sndBuf
      }
      let req := req.advance toWrite
      .sndbuf :: .write (.ok sndBuf)
        :: if req.sent < buf.length then impWriteBufCalls closes buf answers pcb req
          else [.sndbuf]

/-- How the second loop of `uvl_imp_write_to_tcp` leaves a request: it goes on to the next one, it
stops before `tcp_output`, it makes a call with a null `pcb`, or it goes no further.
-/
inductive LoopEnd where
  | next (progress : Progress)
  | stopped
  | null (call : LwipCall)
  | returned
deriving DecidableEq, Repr

/-- The second loop of `uvl_imp_write_to_tcp` within one request. When the client was closed, 0
leaves the loop for `tcp_output`, -1 returns, and any other value calls `uvl_imp_write_buf_to_tcp`
again, which starts with `tcp_sndbuf`.
-/
def impWriteRequestCalls (closes : Bool)
    : List Bytes → List TcpWriteAnswer → TcpPcb → UvlWrite → List LwipCall × LoopEnd
  | [], _, _, _ => ([], .returned)
  | buf :: bufs, answers, pcb, req =>
    let calls := impWriteBufCalls closes buf answers pcb req
    match impWriteBufToTcp buf answers pcb req with
    | none =>
      let ret := (clientCloseFunc closes).1
      (calls,
        if ret = 0 then .null .output else if ret = -1 then .returned else .null .sndbuf)
    | some progress =>
      if !progress.more then (calls, .stopped)
      else if progress.req.sentBufs = req.sendBufs.length then (calls, .next progress)
      else
        let rest := impWriteRequestCalls closes bufs progress.answers progress.pcb progress.req
        (calls ++ rest.1, rest.2)

/-- The second loop of `uvl_imp_write_to_tcp` and `tcp_output`: the calls, and the call with a null
`pcb` that may follow them.
-/
def impWriteQueueCalls (closes output : Bool)
    : List TcpWriteAnswer → TcpPcb → List UvlWrite → List LwipCall × Option LwipCall
  | _, _, [] => (.output :: if output then [] else (clientCloseFunc closes).2, none)
  | answers, pcb, req :: rest =>
    match impWriteRequestCalls closes (req.sendBufs.drop req.sentBufs) answers pcb req with
    | (calls, .next progress) =>
      let more := impWriteQueueCalls closes output progress.answers progress.pcb rest
      (calls ++ more.1, more.2)
    | (calls, .stopped) =>
      (calls ++ .output :: if output then [] else (clientCloseFunc closes).2, none)
    | (calls, .null call) => (calls, some call)
    | (calls, .returned) => (calls, none)

def UvlWriter.impWriteToTcpCalls (client : UvlWriter) (answers : List TcpWriteAnswer)
    (closes output : Bool)
    : List LwipCall × Option LwipCall :=
  impWriteQueueCalls closes output answers client.pcb (client.queue.dropWhile UvlWrite.isSent)

def LeftAlone (calls : List LwipCall × Option LwipCall) : Prop :=
  .write .err ∈ calls.1 → calls.2 = none

-- A failure and the call behind it

section Calls

variable {closes : Bool} {answers : List TcpWriteAnswer} {pcb : TcpPcb} {req : UvlWrite}
  {bufs : List Bytes}

theorem fatal_mem_impWriteBufCalls_iff {buf : Bytes}
    : .write .err ∈ impWriteBufCalls closes buf answers pcb req
      ↔ impWriteBufToTcp buf answers pcb req = none := by
  fun_induction impWriteBufToTcp buf answers pcb req with
  | case1 answers pcb req toWrite none =>
    rw [impWriteBufCalls.eq_def, if_pos none]
    simp
  | case2 pcb req toWrite some | case3 pcb req toWrite some | case4 pcb req toWrite some =>
    rw [impWriteBufCalls, if_neg some]
    simp
  | case5 pcb req toWrite some sndBuf answers after advanced more ih =>
    rw [impWriteBufCalls, if_neg some]
    change _ ∈ _ :: _ :: (if advanced.sent < buf.length then
      impWriteBufCalls closes buf answers after advanced else _) ↔ _
    rw [if_pos more]
    simpa using ih
  | case6 pcb req toWrite some sndBuf answers after advanced done =>
    rw [impWriteBufCalls, if_neg some]
    change _ ∈ _ :: _ :: (if advanced.sent < buf.length then _ else _) ↔ _
    rw [if_neg done]
    simp

/-- A loop that leaves a request for a call with a null `pcb` has had a fatal `tcp_write`. -/
theorem fatal_mem_impWriteRequestCalls_iff
    : .write .err ∈ (impWriteRequestCalls closes bufs answers pcb req).1
      ↔ ∃ call, (impWriteRequestCalls closes bufs answers pcb req).2 = .null call := by
  induction bufs generalizing answers pcb req with
  | nil => simp [impWriteRequestCalls]
  | cons buf bufs ih =>
    have fatal := @fatal_mem_impWriteBufCalls_iff closes answers pcb req buf
    rw [impWriteRequestCalls]
    cases wrote : impWriteBufToTcp buf answers pcb req with
    | none =>
      rw [wrote] at fatal
      refine iff_of_true (fatal.mpr rfl) ?_
      cases closes <;> exact ⟨_, rfl⟩
    | some progress =>
      rw [wrote] at fatal
      dsimp only
      split
      · simp [fatal]
      · split
        · simp [fatal]
        · simp only [mem_append, fatal, reduceCtorEq, false_or]
          exact ih

theorem fatal_mem_impWriteQueueCalls_iff {output : Bool} {queue : List UvlWrite}
    : .write .err ∈ (impWriteQueueCalls closes output answers pcb queue).1
      ↔ (impWriteQueueCalls closes output answers pcb queue).2 ≠ none := by
  have quiet : LwipCall.write .err
      ∉ LwipCall.output :: if output then [] else (clientCloseFunc closes).2 := by
    cases closes <;> cases output <;> decide
  induction queue generalizing answers pcb with
  | nil => exact iff_of_false quiet (not_not_intro rfl)
  | cons req rest ih =>
    have fatal := @fatal_mem_impWriteRequestCalls_iff closes answers pcb req
      (req.sendBufs.drop req.sentBufs)
    rw [impWriteQueueCalls]
    revert fatal
    generalize impWriteRequestCalls closes (req.sendBufs.drop req.sentBufs) answers pcb req
      = left
    obtain ⟨calls, loopEnd⟩ := left
    intro fatal
    cases loopEnd with
    | next progress =>
      have none : .write .err ∉ calls := by simpa using fatal
      simp only [mem_append, none, false_or]
      exact ih
    | stopped =>
      have none : .write .err ∉ calls := by simpa using fatal
      simp [none, quiet]
    | null call => simpa using fatal
    | returned => simpa using fatal

-- Something to write

def BufsLeft : List Bytes → Nat → Prop
  | [], _ => False
  | buf :: bufs, sent => sent < buf.length ∨ BufsLeft bufs 0

/-- Some octet of the requests is left, and each request in front of it has a buffer. -/
def QueueLeft : List UvlWrite → Prop
  | [] => False
  | req :: rest =>
    BufsLeft (req.sendBufs.drop req.sentBufs) req.sent
    ∨ (req.sentBufs < req.sendBufs.length ∧ QueueLeft rest)

theorem impWriteBufToTcp_of_none {buf : Bytes}
    (none : req.sent < buf.length → pcb.sndBuf = 0)
    : impWriteBufToTcp buf answers pcb req = some (mayNext answers pcb req) := by
  rw [impWriteBufToTcp.eq_def, if_pos]
  by_cases left : req.sent < buf.length
  · rw [none left]
    exact Nat.min_zero _
  · rw [Nat.sub_eq_zero_of_le (Nat.le_of_not_lt left), Nat.zero_min]

theorem mayNext_of_room (room : pcb.sndBuf ≠ 0)
    : mayNext answers pcb req
      = ⟨answers, pcb, { req with sent := 0, sentBufs := req.sentBufs + 1 }, true⟩ := if_neg room

/-- A request of which no octet is left is passed over. -/
theorem impWriteRequestCalls_of_not_left (room : pcb.sndBuf ≠ 0) (some_ : bufs ≠ [])
    (whole : req.sentBufs + bufs.length = req.sendBufs.length) (none : ¬BufsLeft bufs req.sent)
    : ∃ calls later,
        impWriteRequestCalls closes bufs answers pcb req
          = (calls, .next ⟨answers, pcb, later, true⟩) := by
  induction bufs generalizing req with
  | nil => exact absurd rfl some_
  | cons buf bufs ih =>
    obtain ⟨sent, none⟩ := not_or.mp none
    rw [impWriteRequestCalls, impWriteBufToTcp_of_none (absurd · sent), mayNext_of_room room]
    dsimp only
    rw [if_neg (by decide)]
    split
    · exact ⟨_, _, rfl⟩
    · next more =>
        rw [length_cons] at whole
        have rest : bufs ≠ [] := by
          rintro rfl
          exact more whole
        obtain ⟨calls, later, skipped⟩ :=
          @ih { req with sent := 0, sentBufs := req.sentBufs + 1 } rest
            (by dsimp only; omega) none
        rw [skipped]
        exact ⟨_, _, rfl⟩

/-- The first octet that is left is passed to `tcp_write`. -/
theorem impWriteRequestCalls_of_left (room : pcb.sndBuf ≠ 0)
    (whole : req.sentBufs + bufs.length = req.sendBufs.length) (left : BufsLeft bufs req.sent)
    : ∃ call, (impWriteRequestCalls closes bufs [.err] pcb req).2 = .null call := by
  induction bufs generalizing req with
  | nil => exact left.elim
  | cons buf bufs ih =>
    by_cases here : req.sent < buf.length
    · have some_ : ¬min (buf.length - req.sent) pcb.sndBuf.toNat = 0 := by
        have positive : pcb.sndBuf.toNat ≠ 0 := fun zero => room (UInt16.toNat_inj.mp zero)
        omega
      have failed : impWriteBufToTcp buf [.err] pcb req = none := by
        rw [impWriteBufToTcp, if_neg some_]
      rw [impWriteRequestCalls, failed]
      cases closes <;> exact ⟨_, rfl⟩
    · have left := left.resolve_left here
      rw [impWriteRequestCalls, impWriteBufToTcp_of_none (absurd · here), mayNext_of_room room]
      dsimp only
      rw [if_neg (by decide), if_neg]
      · exact @ih { req with sent := 0, sentBufs := req.sentBufs + 1 }
          (by rw [length_cons] at whole; dsimp only; omega) left
      · cases bufs with
        | nil => exact left.elim
        | cons =>
          rw [length_cons, length_cons] at whole
          omega

theorem impWriteQueueCalls_eq_none_iff (room : pcb.sndBuf ≠ 0) (queue : List UvlWrite)
    : (∀ answers closes output,
        (impWriteQueueCalls closes output answers pcb queue).2 = none)
      ↔ ¬QueueLeft queue := by
  induction queue with
  | nil => exact iff_of_true (fun _ _ _ => rfl) not_false
  | cons req rest ih =>
    by_cases some_ : req.sentBufs < req.sendBufs.length
    · have nonempty : req.sendBufs.drop req.sentBufs ≠ [] := by
        rw [ne_eq, drop_eq_nil_iff]
        omega
      have whole : req.sentBufs + (req.sendBufs.drop req.sentBufs).length
          = req.sendBufs.length := by
        rw [length_drop]
        omega
      by_cases left : BufsLeft (req.sendBufs.drop req.sentBufs) req.sent
      · refine iff_of_false (fun all => ?_) (not_not_intro (.inl left))
        obtain ⟨call, null⟩ := @impWriteRequestCalls_of_left true pcb req _ room whole left
        have none := all [.err] true true
        rw [impWriteQueueCalls] at none
        generalize impWriteRequestCalls true _ [.err] pcb req = loop at null none
        obtain ⟨calls, _⟩ := loop
        cases null
        cases none
      · rw [QueueLeft, or_iff_right left, and_iff_right some_, ← ih]
        refine forall_congr' fun answers => forall_congr' fun closes =>
          forall_congr' fun output => ?_
        obtain ⟨calls, later, skipped⟩ :=
          @impWriteRequestCalls_of_not_left closes answers pcb req _ room nonempty whole left
        rw [impWriteQueueCalls, skipped]
    · have behind : req.sendBufs.drop req.sentBufs = [] :=
        drop_eq_nil_of_le (Nat.le_of_not_lt some_)
      refine iff_of_true (fun answers closes output => ?_) ?_
      · rw [impWriteQueueCalls, behind, impWriteRequestCalls]
      · rw [QueueLeft, behind]
        exact not_or.mpr ⟨not_false, fun left => some_ left.1⟩

/-- A full send buffer ends the loop. -/
theorem impWriteQueueCalls_of_full (full : pcb.sndBuf = 0) (output : Bool)
    (queue : List UvlWrite)
    : (impWriteQueueCalls closes output answers pcb queue).2 = none := by
  cases queue with
  | nil => rfl
  | cons req rest =>
    rw [impWriteQueueCalls]
    cases req.sendBufs.drop req.sentBufs with
    | nil => rfl
    | cons buf bufs =>
      rw [impWriteRequestCalls, impWriteBufToTcp_of_none fun _ => full, mayNext, if_pos full]
      rfl

end Calls

/-- A client is left alone whatever lwIP answers if and only if there is nothing to pass to
`tcp_write`: the send buffer is full, or no octet is left.
-/
theorem leftAlone_iff (client : UvlWriter)
    : (∀ answers closes output, LeftAlone (client.impWriteToTcpCalls answers closes output))
      ↔ client.pcb.sndBuf = 0 ∨ ¬QueueLeft (client.queue.dropWhile UvlWrite.isSent) := by
  have alone (answers : List TcpWriteAnswer) (closes output : Bool)
      : LeftAlone (client.impWriteToTcpCalls answers closes output)
        ↔ (client.impWriteToTcpCalls answers closes output).2 = none := by
    rw [LeftAlone, UvlWriter.impWriteToTcpCalls, fatal_mem_impWriteQueueCalls_iff]
    exact ⟨fun free => by_contra fun null => null (free null), fun none _ => none⟩
  simp only [alone]
  unfold UvlWriter.impWriteToTcpCalls
  by_cases full : client.pcb.sndBuf = 0
  · exact iff_of_true (fun _ _ output => impWriteQueueCalls_of_full full output _) (.inl full)
  · rw [or_iff_right full, impWriteQueueCalls_eq_none_iff full]

/-- A client with a request of one octet. If `tcp_close` succeeds, `tcp_output` is called, and
otherwise `tcp_sndbuf`.
-/
theorem fatal_write_goes_on
    : UvlWriter.impWriteToTcpCalls
          { UvlWriter.init with pcb := ⟨[], 0, 9⟩, queue := [⟨0, [[7]], 0, 0, 0, 0, 1⟩] }
          [.err] true true
        = ([.sndbuf, .write .err, .clear, .close], some .output)
      ∧ UvlWriter.impWriteToTcpCalls
          { UvlWriter.init with pcb := ⟨[], 0, 9⟩, queue := [⟨0, [[7]], 0, 0, 0, 0, 1⟩] }
          [.err] false true
        = ([.sndbuf, .write .err, .clear, .close, .clear, .abort], some .sndbuf) := by
  decide

end SwitchLanPlay.Gateway
