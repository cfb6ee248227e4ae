import SwitchLanPlay.Gateway.WriteQueue

/-! Order in the write queue: what a request has sent is a front of its buffers, and requests are
sent, acknowledged and called back one after the other.
-/

namespace SwitchLanPlay.Gateway

open List Option
open Foundation

variable {len count : Nat} {result : List UvlWrite}

/-- A call of `uvl_write` with at least one buffer, and lengths that fit the counters. -/
def LawfulCall (bufs : List Bytes) : Prop := bufs ≠ [] ∧ bufs.flatten.length < 2 ^ 32

/-- The counters of a request agree: it has sent `sentBufs` buffers and `sent` octets of the
next.
-/
structure UvlWrite.Positioned (req : UvlWrite) : Prop where
  lawful : LawfulCall req.sendBufs
  total : req.totalLen = req.sendBufs.flatten.length
  bufs : req.sentBufs ≤ req.sendBufs.length
  place : req.totalSent = (req.sendBufs.take req.sentBufs).flatten.length + req.sent
  inside : req.sent ≤ ((req.sendBufs.drop req.sentBufs).headD []).length
  pending_le : req.pending ≤ req.totalSent

def UvlWrite.sentBytes (req : UvlWrite) : Bytes := req.sendBufs.flatten.take req.totalSent

-- One request

section Request

variable {req next : UvlWrite} {pcb after : TcpPcb} {buf : Bytes} {bufs : List Bytes}

/-- What a request has not sent: the rest of one buffer, and the buffers behind it. -/
theorem UvlWrite.Positioned.unsent (positioned : req.Positioned)
    (here : req.sendBufs.drop req.sentBufs = buf :: bufs)
    : req.sendBufs.flatten.drop req.totalSent = buf.drop req.sent ++ bufs.flatten := by
  have inside := positioned.inside
  rw [here, headD_cons] at inside
  conv_lhs => rw [← take_append_drop req.sentBufs req.sendBufs]
  rw [flatten_append, positioned.place, drop_length_add_append, here, flatten_cons,
    drop_append_of_le_length inside]

theorem UvlWrite.Positioned.totalSent_le (positioned : req.Positioned)
    : req.totalSent ≤ req.sendBufs.flatten.length := by
  have inside := positioned.inside
  have whole : req.sendBufs.flatten.length
      = (req.sendBufs.take req.sentBufs).flatten.length
        + (req.sendBufs.drop req.sentBufs).flatten.length := by
    rw [← length_append, ← flatten_append, take_append_drop]
  have head : ((req.sendBufs.drop req.sentBufs).headD []).length
      ≤ (req.sendBufs.drop req.sentBufs).flatten.length := by
    cases req.sendBufs.drop req.sentBufs with
    | nil => exact Nat.le_refl _
    | cons buf bufs => simp
  rw [positioned.place, whole]
  omega

structure Sends (req : UvlWrite) (pcb : TcpPcb) (next : UvlWrite) (after : TcpPcb) (count : Nat)
    : Prop where
  id : next.id = req.id
  sendBufs : next.sendBufs = req.sendBufs
  totalLen : next.totalLen = req.totalLen
  totalSent : next.totalSent = req.totalSent + count
  pending : next.pending = req.pending + count
  written : after.written = pcb.written ++ (req.sendBufs.flatten.drop req.totalSent).take count
  acked : after.acked = pcb.acked

theorem Sends.refl (req : UvlWrite) (pcb : TcpPcb) : Sends req pcb req pcb 0 :=
  ⟨rfl, rfl, rfl, rfl, rfl, by simp, rfl⟩

theorem Sends.trans {last : UvlWrite} {final : TcpPcb} {more : Nat}
    (first : Sends req pcb next after count) (second : Sends next after last final more)
    : Sends req pcb last final (count + more) where
  id := second.id.trans first.id
  sendBufs := second.sendBufs.trans first.sendBufs
  totalLen := second.totalLen.trans first.totalLen
  totalSent := by rw [second.totalSent, first.totalSent, Nat.add_assoc]
  pending := by rw [second.pending, first.pending, Nat.add_assoc]
  written := by
    rw [second.written, first.written, second.sendBufs.symm.trans second.sendBufs,
      first.sendBufs, first.totalSent, append_assoc, take_add, drop_drop]
  acked := second.acked.trans first.acked

/-- The buffer being sent lies within the request. -/
theorem UvlWrite.room (here : req.sendBufs.drop req.sentBufs = buf :: bufs)
    : (req.sendBufs.take req.sentBufs).flatten.length + buf.length
      ≤ req.sendBufs.flatten.length := by
  conv_rhs => rw [← take_append_drop req.sentBufs req.sendBufs]
  rw [here]
  simp

/-- One `tcp_write` within a buffer. -/
theorem UvlWrite.Positioned.advance (positioned : req.Positioned)
    (here : req.sendBufs.drop req.sentBufs = buf :: bufs) {toWrite : Nat}
    (fits : req.sent + toWrite ≤ buf.length) (pcb : TcpPcb) (sndBuf : UInt16)
    : (req.advance toWrite).Positioned
      ∧ Sends req pcb (req.advance toWrite)
          { pcb with written := pcb.written ++ (buf.drop req.sent).take toWrite, sndBuf := sndBuf }
          toWrite
      ∧ (req.advance toWrite).sent = req.sent + toWrite := by
  have room := UvlWrite.room here
  have small := positioned.lawful.2
  have place := positioned.place
  have pendingLe := positioned.pending_le
  have sent : (req.advance toWrite).sent = req.sent + toWrite := Nat.mod_eq_of_lt (by omega)
  have pending : (req.advance toWrite).pending = req.pending + toWrite :=
    Nat.mod_eq_of_lt (by omega)
  have totalSent : (req.advance toWrite).totalSent = req.totalSent + toWrite :=
    Nat.mod_eq_of_lt (by omega)
  refine ⟨⟨positioned.lawful, positioned.total, positioned.bufs, ?_, ?_, ?_⟩,
    ⟨rfl, rfl, rfl, totalSent, pending, ?_, rfl⟩, sent⟩
  · rw [totalSent, sent, place, Nat.add_assoc]
    rfl
  · rw [sent]
    change _ ≤ ((req.sendBufs.drop req.sentBufs).headD []).length
    rwa [here]
  · rw [totalSent, pending]
    exact Nat.add_le_add_right pendingLe toWrite
  · have within : toWrite ≤ (buf.drop req.sent).length := by rw [length_drop]; omega
    rw [positioned.unsent here, take_append_of_le_length within]

/-- The label `may_next`: a buffer is left behind only when it is sent. -/
theorem UvlWrite.Positioned.mayNext (positioned : req.Positioned)
    (here : req.sendBufs.drop req.sentBufs = buf :: bufs) (answers : List TcpWriteAnswer)
    (pcb : TcpPcb) (atEnd : pcb.sndBuf ≠ 0 → req.sent = buf.length)
    : (mayNext answers pcb req).req.Positioned
      ∧ Sends req pcb (mayNext answers pcb req).req (mayNext answers pcb req).pcb 0
      ∧ (mayNext answers pcb req).req.sentBufs
        = req.sentBufs + if (mayNext answers pcb req).more then 1 else 0 := by
  unfold Gateway.mayNext
  by_cases full : pcb.sndBuf = 0
  · rw [if_pos full]
    exact ⟨positioned, Sends.refl req pcb, rfl⟩
  · rw [if_neg full]
    have next : req.sendBufs.take (req.sentBufs + 1)
        = req.sendBufs.take req.sentBufs ++ [buf] := by
      rw [take_add, here]
      rfl
    have bound : req.sentBufs < req.sendBufs.length := by
      rw [← drop_eq_nil_iff.not.trans Nat.not_le, here]
      exact cons_ne_nil buf bufs
    refine ⟨⟨positioned.lawful, positioned.total, bound, ?_, Nat.zero_le _,
      positioned.pending_le⟩, ⟨rfl, rfl, rfl, rfl, rfl, by simp, rfl⟩, rfl⟩
    change req.totalSent = (req.sendBufs.take (req.sentBufs + 1)).flatten.length + 0
    rw [next, positioned.place, atEnd full]
    simp

/-- With room in the send buffer nothing is left to write only at the end of the buffer. -/
theorem sent_eq_of_nothing_to_write {sent : Nat} {sndBuf : UInt16} (inside : sent ≤ len)
    (nothing : min (len - sent) sndBuf.toNat = 0) (room : sndBuf ≠ 0)
    : sent = len := by
  have : sndBuf.toNat ≠ 0 := fun zero => room (UInt16.toNat_inj.mp zero)
  omega

/-- `uvl_imp_write_buf_to_tcp` sends a front of the rest of the buffer, and goes on to the next one
behind its end.
-/
theorem UvlWrite.Positioned.impWriteBufToTcp {answers : List TcpWriteAnswer} {progress : Progress}
    (positioned : req.Positioned) (here : req.sendBufs.drop req.sentBufs = buf :: bufs)
    (wrote : impWriteBufToTcp buf answers pcb req = some progress)
    : progress.req.Positioned
      ∧ (∃ count, Sends req pcb progress.req progress.pcb count)
      ∧ progress.req.sentBufs = req.sentBufs + if progress.more then 1 else 0 := by
  have inside : req.sent ≤ buf.length := by simpa [here] using positioned.inside
  induction answers generalizing pcb req with
  | nil =>
    unfold Gateway.impWriteBufToTcp at wrote
    dsimp only at wrote
    split at wrote
    · rename_i nothing
      cases wrote
      obtain ⟨placed, sends, bufs⟩ := positioned.mayNext here [] pcb
        (sent_eq_of_nothing_to_write inside nothing)
      exact ⟨placed, ⟨0, sends⟩, bufs⟩
    · cases wrote
      exact ⟨positioned, ⟨0, Sends.refl req pcb⟩, rfl⟩
  | cons answer answers ih =>
    unfold Gateway.impWriteBufToTcp at wrote
    dsimp only at wrote
    split at wrote
    · rename_i nothing
      cases wrote
      obtain ⟨placed, sends, bufs⟩ := positioned.mayNext here (answer :: answers) pcb
        (sent_eq_of_nothing_to_write inside nothing)
      exact ⟨placed, ⟨0, sends⟩, bufs⟩
    · cases answer with
      | errMem =>
        cases wrote
        exact ⟨positioned, ⟨0, Sends.refl req pcb⟩, rfl⟩
      | err => cases wrote
      | ok sndBuf =>
        have fits : req.sent + min (buf.length - req.sent) pcb.sndBuf.toNat ≤ buf.length := by
          omega
        obtain ⟨placed, sends, sent⟩ := positioned.advance here fits pcb sndBuf
        dsimp only at wrote
        split at wrote
        · rename_i more
          obtain ⟨placed, ⟨count, later⟩, bufs⟩ := ih placed here wrote (Nat.le_of_lt more)
          exact ⟨placed, ⟨_, sends.trans later⟩, bufs⟩
        · rename_i done
          cases wrote
          obtain ⟨placed, later, bufs⟩ := placed.mayNext here answers _ (fun _ => by omega)
          exact ⟨placed, ⟨_, sends.trans later⟩, bufs⟩

theorem UvlWrite.isSent_eq_false_iff
    : req.isSent = false ↔ req.sendBufs.drop req.sentBufs ≠ [] := by
  simp [isSent]

/-- The loop within a request ends behind its last buffer, or lwIP takes no more. -/
theorem UvlWrite.Positioned.impWriteRequest {answers : List TcpWriteAnswer} {progress : Progress}
    (positioned : req.Positioned) (here : req.sendBufs.drop req.sentBufs = bufs)
    (wrote : impWriteRequest bufs answers pcb req = some progress)
    : progress.req.Positioned
      ∧ (∃ count, Sends req pcb progress.req progress.pcb count)
      ∧ progress.req.isSent = progress.more := by
  induction bufs generalizing answers pcb req with
  | nil => cases wrote
  | cons buf bufs ih =>
    simp only [Gateway.impWriteRequest, bind_eq_bind, bind_eq_some_iff] at wrote
    obtain ⟨first, wroteFirst, wrote⟩ := wrote
    obtain ⟨placed, ⟨count, sends⟩, place⟩ := positioned.impWriteBufToTcp here wroteFirst
    have behind : first.req.sendBufs.drop (req.sentBufs + 1) = bufs := by
      rw [sends.sendBufs, ← drop_drop, here]
      rfl
    split at wrote
    · rename_i stopped
      cases wrote
      rw [Bool.not_eq_true'] at stopped
      rw [stopped] at place
      refine ⟨placed, ⟨count, sends⟩, ?_⟩
      rw [stopped, isSent_eq_false_iff, place, sends.sendBufs]
      change req.sendBufs.drop req.sentBufs ≠ []
      rw [here]
      exact cons_ne_nil buf bufs
    · rename_i goesOn
      have more : first.more = true := by simpa using goesOn
      split at wrote
      · rename_i last
        cases wrote
        refine ⟨placed, ⟨count, sends⟩, ?_⟩
        simp [isSent, last, more, sends.sendBufs]
      · rw [more] at place
        obtain ⟨placed, ⟨rest, later⟩, sent⟩ := ih placed (place ▸ behind) wrote
        exact ⟨placed, ⟨_, sends.trans later⟩, sent⟩

/-- Without an error of another kind the loop over a buffer comes to its end. -/
theorem exists_impWriteBufToTcp (buf : Bytes) {answers : List TcpWriteAnswer}
    (fine : .err ∉ answers) (pcb : TcpPcb) (req : UvlWrite)
    : ∃ progress,
        impWriteBufToTcp buf answers pcb req = some progress ∧ .err ∉ progress.answers := by
  have stays (answers : List TcpWriteAnswer) (pcb : TcpPcb) (req : UvlWrite)
      : (mayNext answers pcb req).answers = answers := by
    unfold mayNext
    split <;> rfl
  induction answers generalizing pcb req with
  | nil =>
    unfold impWriteBufToTcp
    dsimp only
    split
    · exact ⟨_, rfl, by rwa [stays]⟩
    · exact ⟨_, rfl, fine⟩
  | cons answer answers ih =>
    unfold impWriteBufToTcp
    dsimp only
    split
    · exact ⟨_, rfl, by rwa [stays]⟩
    · rw [mem_cons, not_or] at fine
      cases answer with
      | err => exact absurd rfl fine.1
      | errMem => exact ⟨_, rfl, fine.2⟩
      | ok sndBuf =>
        dsimp only
        split
        · exact ih fine.2 _ _
        · exact ⟨_, rfl, by rw [stays]; exact fine.2⟩

/-- So does the loop over the buffers of a request that is not sent. -/
theorem UvlWrite.Positioned.exists_impWriteRequest {answers : List TcpWriteAnswer}
    (fine : .err ∉ answers) (pcb : TcpPcb) (positioned : req.Positioned)
    (here : req.sendBufs.drop req.sentBufs = bufs) (unsent : bufs ≠ [])
    : ∃ progress,
        Gateway.impWriteRequest bufs answers pcb req = some progress
        ∧ .err ∉ progress.answers := by
  induction bufs generalizing answers pcb req with
  | nil => exact absurd rfl unsent
  | cons buf bufs ih =>
    obtain ⟨first, wrote, stillFine⟩ := exists_impWriteBufToTcp buf fine pcb req
    obtain ⟨placed, ⟨count, sends⟩, place⟩ := positioned.impWriteBufToTcp here wrote
    simp only [Gateway.impWriteRequest, bind_eq_bind, wrote, bind_some]
    split
    · exact ⟨first, rfl, stillFine⟩
    · rename_i goesOn
      have more : first.more = true := by simpa using goesOn
      split
      · exact ⟨first, rfl, stillFine⟩
      · rename_i notLast
        rw [more] at place
        have behind : first.req.sendBufs.drop first.req.sentBufs = bufs := by
          rw [place, sends.sendBufs]
          change req.sendBufs.drop (req.sentBufs + 1) = bufs
          rw [← drop_drop, here]
          rfl
        refine ih stillFine _ placed behind ?_
        rintro rfl
        have atEnd := drop_eq_nil_iff.mp behind
        have bound := placed.bufs
        rw [sends.sendBufs] at atEnd bound
        exact notLast (Nat.le_antisymm bound atEnd)

end Request

-- The queue

structure UvlWrite.Fresh (req : UvlWrite) : Prop where
  lawful : LawfulCall req.sendBufs
  total : req.totalLen = req.sendBufs.flatten.length
  sentBufs : req.sentBufs = 0
  sent : req.sent = 0
  pending : req.pending = 0
  totalSent : req.totalSent = 0

/-- Requests are sent one after the other: behind one that is not sent all are fresh. -/
def Lined : List UvlWrite → Prop
  | [] => True
  | req :: rest =>
    req.Positioned
    ∧ ((req.isSent = true ∧ Lined rest)
      ∨ (req.isSent = false ∧ ∀ other ∈ rest, other.Fresh))

def AllPending (queue : List UvlWrite) : Prop := ∀ req ∈ queue, req.pending = req.totalSent

/-- Acknowledgements reach the requests one after the other: behind one that waits for some all
wait for all of theirs.
-/
def InOrder : List UvlWrite → Prop
  | [] => True
  | req :: rest => (req.pending = 0 ∧ InOrder rest) ∨ (0 < req.pending ∧ AllPending rest)

section Queue

variable {req : UvlWrite} {queue rest : List UvlWrite}

theorem UvlWrite.Fresh.positioned (fresh : req.Fresh) : req.Positioned where
  lawful := fresh.lawful
  total := fresh.total
  bufs := by rw [fresh.sentBufs]; exact Nat.zero_le _
  place := by rw [fresh.totalSent, fresh.sentBufs, fresh.sent]; rfl
  inside := by rw [fresh.sent]; exact Nat.zero_le _
  pending_le := by rw [fresh.pending]; exact Nat.zero_le _

theorem UvlWrite.Fresh.isSent (fresh : req.Fresh) : req.isSent = false := by
  rw [isSent_eq_false_iff, fresh.sentBufs]
  exact fresh.lawful.1

theorem lined_of_fresh (fresh : ∀ req ∈ queue, req.Fresh) : Lined queue := by
  cases queue with
  | nil => trivial
  | cons req rest =>
    rw [forall_mem_cons] at fresh
    exact ⟨fresh.1.positioned, .inr ⟨fresh.1.isSent, fresh.2⟩⟩

theorem allPending_of_fresh (fresh : ∀ req ∈ queue, req.Fresh) : AllPending queue :=
  fun req member => (fresh req member).pending.trans (fresh req member).totalSent.symm

theorem AllPending.inOrder (all : AllPending queue) : InOrder queue := by
  induction queue with
  | nil => trivial
  | cons req rest ih =>
    rw [AllPending, forall_mem_cons] at all
    rcases Nat.eq_zero_or_pos req.pending with none | some_
    · exact .inl ⟨none, ih all.2⟩
    · exact .inr ⟨some_, all.2⟩

/-- A new request takes its place at the end. -/
theorem Lined.concat (lined : Lined queue) (fresh : req.Fresh) : Lined (queue ++ [req]) := by
  induction queue with
  | nil => exact lined_of_fresh (by simpa using fresh)
  | cons first rest ih =>
    obtain ⟨placed, ⟨sent, later⟩ | ⟨unsent, all⟩⟩ := lined
    · exact ⟨placed, .inl ⟨sent, ih later⟩⟩
    · refine ⟨placed, .inr ⟨unsent, ?_⟩⟩
      intro other member
      rcases mem_append.mp member with before | here
      · exact all other before
      · rwa [mem_singleton.mp here]

theorem InOrder.concat (inOrder : InOrder queue) (fresh : req.Fresh)
    : InOrder (queue ++ [req]) := by
  have all : AllPending [req] := allPending_of_fresh (by simpa using fresh)
  induction queue with
  | nil => exact all.inOrder
  | cons first rest ih =>
    rcases inOrder with ⟨none, later⟩ | ⟨some_, waits⟩
    · exact .inl ⟨none, ih later⟩
    · refine .inr ⟨some_, ?_⟩
      intro other member
      rcases mem_append.mp member with before | here
      · exact waits other before
      · exact all other here

theorem UvlWrite.Positioned.totalSent_of_isSent (positioned : req.Positioned)
    (sent : req.isSent = true)
    : req.totalSent = req.sendBufs.flatten.length := by
  have all : req.sendBufs.length ≤ req.sentBufs := by simpa [isSent] using sent
  have inside := positioned.inside
  rw [drop_eq_nil_of_le all] at inside
  rw [positioned.place, take_of_length_le all, Nat.le_zero.mp inside, Nat.add_zero]

theorem UvlWrite.sentBytes_of_length_le (all : req.sendBufs.flatten.length ≤ req.totalSent)
    : req.sentBytes = req.sendBufs.flatten := take_of_length_le all

theorem UvlWrite.Fresh.sentBytes (fresh : req.Fresh) : req.sentBytes = [] := by
  rw [UvlWrite.sentBytes, fresh.totalSent, take_zero]

theorem flatMap_sentBytes_of_fresh (fresh : ∀ req ∈ queue, req.Fresh)
    : queue.flatMap UvlWrite.sentBytes = [] :=
  flatMap_eq_nil_iff.mpr fun req member => (fresh req member).sentBytes

/-- The octets sent are a front of those queued. -/
theorem Lined.sentBytes_isPrefix (lined : Lined queue)
    : queue.flatMap UvlWrite.sentBytes <+: (queue.map UvlWrite.sendBufs).flatten.flatten := by
  induction queue with
  | nil => exact prefix_rfl
  | cons req rest ih =>
    rw [flatMap_cons, map_cons, flatten_cons, flatten_append]
    obtain ⟨placed, ⟨sent, later⟩ | ⟨unsent, fresh⟩⟩ := lined
    · rw [UvlWrite.sentBytes_of_length_le (placed.totalSent_of_isSent sent).ge]
      exact (prefix_append_right_inj _).mpr (ih later)
    · rw [flatMap_sentBytes_of_fresh fresh, append_nil]
      have front : req.sentBytes <+: req.sendBufs.flatten := take_prefix _ _
      exact front.trans (prefix_append _ _)

structure QueueSends (queue : List UvlWrite) (pcb : TcpPcb) (next : List UvlWrite)
    (after : TcpPcb) (octets : Bytes)
    : Prop where
  ids : next.map UvlWrite.id = queue.map UvlWrite.id
  sendBufs : next.map UvlWrite.sendBufs = queue.map UvlWrite.sendBufs
  sent : next.flatMap UvlWrite.sentBytes = queue.flatMap UvlWrite.sentBytes ++ octets
  pending
    : (next.map UvlWrite.pending).sum = (queue.map UvlWrite.pending).sum + octets.length
  written : after.written = pcb.written ++ octets
  acked : after.acked = pcb.acked
  lined : Lined next
  inOrder : InOrder next
  waits : AllPending queue → AllPending next
  incomplete
    : (∀ req ∈ queue.head?, req.isComplete = false) → ∀ req ∈ next.head?, req.isComplete = false

theorem UvlWrite.isComplete_iff
    : req.isComplete = true ↔ req.totalSent = req.totalLen ∧ req.pending = 0 := by
  simp [isComplete]

variable {next : UvlWrite} {pcb after : TcpPcb}

/-- The octets one request has passed on, as a whole number of them. -/
theorem Sends.octets (sends : Sends req pcb next after count) (placed : next.Positioned)
    : ∃ octets : Bytes,
        octets.length = count
        ∧ next.sentBytes = req.sentBytes ++ octets
        ∧ after.written = pcb.written ++ octets := by
  have bound := placed.totalSent_le
  rw [sends.sendBufs, sends.totalSent] at bound
  refine ⟨(req.sendBufs.flatten.drop req.totalSent).take count, ?_, ?_, sends.written⟩
  · rw [length_take, length_drop]
    omega
  · rw [UvlWrite.sentBytes, sends.sendBufs, sends.totalSent, take_add]
    rfl

/-- The request at the head passes on some octets and then, if it is sent, those behind it do. -/
theorem QueueSends.cons {later : List UvlWrite} {middle : TcpPcb} {octets : Bytes}
    (sends : Sends req pcb next middle count) (placed : next.Positioned)
    (fresh : ∀ other ∈ rest, other.Fresh) (behind : QueueSends rest middle later after octets)
    (order : next.isSent = false → later = rest)
    : ∃ octets, QueueSends (req :: rest) pcb (next :: later) after octets := by
  obtain ⟨own, length, sent, written⟩ := sends.octets placed
  have waits := behind.waits (allPending_of_fresh fresh)
  have nothing := flatMap_sentBytes_of_fresh fresh
  refine ⟨own ++ octets, ?_, ?_, ?_, ?_, ?_, behind.acked.trans sends.acked, ?_, ?_, ?_, ?_⟩
  · rw [map_cons, map_cons, sends.id, behind.ids]
  · rw [map_cons, map_cons, sends.sendBufs, behind.sendBufs]
  · rw [flatMap_cons, flatMap_cons, sent, behind.sent, nothing, append_nil,
      nil_append, append_assoc]
  · rw [map_cons, map_cons, sum_cons, sum_cons, sends.pending, behind.pending,
      length_append, length]
    omega
  · rw [behind.written, written, append_assoc]
  · cases isSent : next.isSent with
    | true => exact ⟨placed, .inl ⟨isSent, behind.lined⟩⟩
    | false => exact ⟨placed, .inr ⟨isSent, order isSent ▸ fresh⟩⟩
  · rcases Nat.eq_zero_or_pos next.pending with none | some_
    · exact .inl ⟨none, waits.inOrder⟩
    · exact .inr ⟨some_, waits⟩
  · intro all
    rw [AllPending, forall_mem_cons] at all ⊢
    exact ⟨by rw [sends.pending, sends.totalSent, all.1], waits⟩
  · rintro incomplete _ ⟨⟩
    have before := incomplete req rfl
    rw [Bool.eq_false_iff, ne_eq, UvlWrite.isComplete_iff] at before ⊢
    rw [sends.totalSent, sends.totalLen, sends.pending]
    omega

theorem QueueSends.refl_of_fresh (pcb : TcpPcb) (fresh : ∀ req ∈ queue, req.Fresh)
    : QueueSends queue pcb queue pcb [] where
  ids := rfl
  sendBufs := rfl
  sent := (append_nil _).symm
  pending := rfl
  written := (append_nil _).symm
  acked := rfl
  lined := lined_of_fresh fresh
  inOrder := (allPending_of_fresh fresh).inOrder
  waits := id
  incomplete := id

/-- The second loop of `uvl_imp_write_to_tcp`, which starts at the first request that is not
sent.
-/
theorem Lined.impWriteQueue {answers : List TcpWriteAnswer} (lined : Lined queue)
    (unsent : ∀ req ∈ queue.head?, req.isSent = false)
    (wrote : impWriteQueue answers pcb queue = some (after, result))
    : ∃ octets, QueueSends queue pcb result after octets := by
  induction queue generalizing answers pcb result with
  | nil =>
    cases wrote
    exact ⟨[], QueueSends.refl_of_fresh _ (forall_mem_nil _)⟩
  | cons req rest ih =>
    have notSent : req.isSent = false := unsent req rfl
    obtain ⟨placed, ⟨sent, -⟩ | ⟨-, fresh⟩⟩ := lined
    · exact absurd (notSent.symm.trans sent) Bool.false_ne_true
    · simp only [Gateway.impWriteQueue, bind_eq_bind, bind_eq_some_iff] at wrote
      obtain ⟨progress, wroteFirst, wrote⟩ := wrote
      obtain ⟨placed, ⟨count, sends⟩, isSent⟩ := placed.impWriteRequest rfl wroteFirst
      split at wrote
      · rename_i more
        obtain ⟨⟨_, later⟩, wroteRest, wrote⟩ := bind_eq_some_iff.mp wrote
        cases wrote
        have restUnsent : ∀ other ∈ rest.head?, other.isSent = false :=
          fun other member => (fresh other (mem_of_mem_head? member)).isSent
        obtain ⟨octets, behind⟩ := ih (lined_of_fresh fresh) restUnsent wroteRest
        refine QueueSends.cons sends placed fresh behind (fun contrary => ?_)
        rw [isSent, more] at contrary
        cases contrary
      · cases wrote
        exact QueueSends.cons sends placed fresh (QueueSends.refl_of_fresh _ fresh)
          (fun _ => rfl)

/-- Without an error of another kind the loop comes to its end. -/
theorem Lined.exists_impWriteQueue {answers : List TcpWriteAnswer} (fine : .err ∉ answers)
    (pcb : TcpPcb) (lined : Lined queue) (unsent : ∀ req ∈ queue.head?, req.isSent = false)
    : (Gateway.impWriteQueue answers pcb queue).isSome := by
  induction queue generalizing answers pcb with
  | nil => rfl
  | cons req rest ih =>
    have notSent : req.isSent = false := unsent req rfl
    obtain ⟨placed, ⟨sent, -⟩ | ⟨-, fresh⟩⟩ := lined
    · exact absurd (notSent.symm.trans sent) Bool.false_ne_true
    · obtain ⟨progress, wrote, stillFine⟩ := placed.exists_impWriteRequest fine pcb rfl
        (UvlWrite.isSent_eq_false_iff.mp notSent)
      simp only [Gateway.impWriteQueue, bind_eq_bind, wrote, bind_some]
      split
      · have restUnsent : ∀ other ∈ rest.head?, other.isSent = false :=
          fun other member => (fresh other (mem_of_mem_head? member)).isSent
        obtain ⟨result, same⟩ := isSome_iff_exists.mp
          (ih stillFine progress.pcb (lined_of_fresh fresh) restUnsent)
        rw [same]
        rfl
      · rfl

/-- Some octets of a queue are acknowledged, in the order of the requests. -/
structure QueueAcks (queue result : List UvlWrite) (len : Nat) : Prop where
  ids : result.map UvlWrite.id = queue.map UvlWrite.id
  sendBufs : result.map UvlWrite.sendBufs = queue.map UvlWrite.sendBufs
  sent : result.flatMap UvlWrite.sentBytes = queue.flatMap UvlWrite.sentBytes
  pending : (result.map UvlWrite.pending).sum + len = (queue.map UvlWrite.pending).sum
  lined : Lined queue → Lined result
  inOrder : InOrder queue → InOrder result

theorem subtractPending_zero (queue : List UvlWrite) : subtractPending 0 queue = some queue := by
  cases queue <;> rfl

/-- The acknowledged octets are found in the queue when it waits for that many. -/
theorem subtractPending_isSome_iff
    : (subtractPending len queue).isSome ↔ len ≤ (queue.map UvlWrite.pending).sum := by
  induction queue generalizing len with
  | nil => cases len <;> simp [subtractPending]
  | cons req rest ih =>
    cases len with
    | zero => simp [subtractPending]
    | succ len =>
      rw [subtractPending, isSome_map, ih, map_cons, sum_cons]
      omega

/-- Nothing is subtracted from fresh requests. -/
theorem subtractPending_fresh (fresh : ∀ req ∈ queue, req.Fresh)
    (subtracted : subtractPending len queue = some result)
    : result = queue := by
  cases len with
  | zero =>
    rw [subtractPending_zero] at subtracted
    exact (Option.some.inj subtracted).symm
  | succ len =>
    have enough := subtractPending_isSome_iff.mp (isSome_of_eq_some subtracted)
    have none : (queue.map UvlWrite.pending).sum = 0 := by
      refine sum_eq_zero ?_
      intro count member
      obtain ⟨req, inside, rfl⟩ := mem_map.mp member
      exact (fresh req inside).pending
    omega

theorem queueAcks_of_subtractPending (subtracted : subtractPending len queue = some result)
    : QueueAcks queue result len := by
  induction queue generalizing len result with
  | nil =>
    cases len <;> cases subtracted
    exact ⟨rfl, rfl, rfl, rfl, id, id⟩
  | cons req rest ih =>
    cases len with
    | zero =>
      cases subtracted
      exact ⟨rfl, rfl, rfl, rfl, id, id⟩
    | succ len =>
      obtain ⟨later, subtractedRest, rfl⟩ := map_eq_some_iff.mp subtracted
      have acks := ih subtractedRest
      refine ⟨?_, ?_, ?_, ?_, ?_, ?_⟩
      · rw [map_cons, map_cons, acks.ids]
      · rw [map_cons, map_cons, acks.sendBufs]
      · rw [flatMap_cons, flatMap_cons, acks.sent]
        rfl
      · have rest := acks.pending
        rw [map_cons, map_cons, sum_cons, sum_cons]
        dsimp only
        omega
      · rintro ⟨placed, order⟩
        refine ⟨⟨placed.lawful, placed.total, placed.bufs, placed.place, placed.inside,
          (Nat.sub_le _ _).trans placed.pending_le⟩, ?_⟩
        rcases order with ⟨sent, behind⟩ | ⟨unsent, fresh⟩
        · exact .inl ⟨sent, acks.lined behind⟩
        · exact .inr ⟨unsent, subtractPending_fresh fresh subtractedRest ▸ fresh⟩
      · rintro (⟨none, behind⟩ | ⟨some_, all⟩)
        · exact .inl ⟨by dsimp only; omega, acks.inOrder behind⟩
        · rcases Nat.lt_or_ge (len + 1) req.pending with within | past
          · have none : len + 1 - min req.pending (len + 1) = 0 := by omega
            rw [none, subtractPending_zero] at subtractedRest
            cases subtractedRest
            exact .inr ⟨by dsimp only; omega, all⟩
          · exact .inl ⟨by dsimp only; omega, acks.inOrder all.inOrder⟩

/-- Changes at the end of a queue that keep the order there keep it in the whole queue. -/
theorem InOrder.append_right {front tail : List UvlWrite} (inOrder : InOrder (front ++ tail))
    (kept : InOrder result) (waits : AllPending tail → AllPending result)
    : InOrder (front ++ result) := by
  induction front with
  | nil => exact kept
  | cons req front ih =>
    rcases inOrder with ⟨none, behind⟩ | ⟨some_, all⟩
    · exact .inl ⟨none, ih behind⟩
    · refine .inr ⟨some_, ?_⟩
      intro other member
      rcases mem_append.mp member with before | here
      · exact all other (mem_append_left _ before)
      · exact waits (fun other inside => all other (mem_append_right _ inside)) other here

/-- The queue behind its requests that are sent is in line, and so is any other there. -/
theorem Lined.append_right {front tail : List UvlWrite} (lined : Lined (front ++ tail))
    (sent : ∀ req ∈ front, req.isSent = true)
    : Lined tail ∧ ∀ result, Lined result → Lined (front ++ result) := by
  induction front with
  | nil => exact ⟨lined, fun _ => id⟩
  | cons req front ih =>
    rw [forall_mem_cons] at sent
    obtain ⟨placed, ⟨_, behind⟩ | ⟨unsent, _⟩⟩ := lined
    · obtain ⟨tail, others⟩ := ih behind sent.2
      exact ⟨tail, fun result lined => ⟨placed, .inl ⟨sent.1, others result lined⟩⟩⟩
    · exact absurd (unsent.symm.trans sent.1) Bool.false_ne_true

/-- Behind the requests that are sent comes one that is not. -/
theorem isSent_head?_dropWhile (queue : List UvlWrite)
    : ∀ req ∈ (queue.dropWhile UvlWrite.isSent).head?, req.isSent = false := by
  intro req member
  have first := head?_dropWhile_not UvlWrite.isSent queue
  rw [mem_def.mp member] at first
  exact first

/-- The part of a queue that is not sent is in line. -/
theorem Lined.dropWhile (lined : Lined queue)
    : Lined (queue.dropWhile UvlWrite.isSent)
      ∧ ∀ result, Lined result → Lined (queue.takeWhile UvlWrite.isSent ++ result) := by
  rw [← queue.takeWhile_append_dropWhile (p := UvlWrite.isSent)] at lined
  exact lined.append_right (fun req member => mem_takeWhile_imp member)

theorem Lined.positioned {queue : List UvlWrite} (lined : Lined queue)
    : ∀ req ∈ queue, req.Positioned := by
  induction queue with
  | nil => exact forall_mem_nil _
  | cons req rest ih =>
    obtain ⟨placed, ⟨_, behind⟩ | ⟨_, fresh⟩⟩ := lined
    · exact forall_mem_cons.mpr ⟨placed, ih behind⟩
    · exact forall_mem_cons.mpr ⟨placed, fun other member => (fresh other member).positioned⟩

theorem UvlWrite.Positioned.length_sentBytes {req : UvlWrite} (positioned : req.Positioned)
    : req.sentBytes.length = req.totalSent := by
  rw [sentBytes, length_take]
  exact Nat.min_eq_left positioned.totalSent_le

/-- A queue waits for octets it has sent, and for all of them before the first acknowledgement. -/
theorem sum_pending_le {queue : List UvlWrite} (positioned : ∀ req ∈ queue, req.Positioned)
    : (queue.map UvlWrite.pending).sum ≤ (queue.flatMap UvlWrite.sentBytes).length
      ∧ (AllPending queue
        → (queue.map UvlWrite.pending).sum = (queue.flatMap UvlWrite.sentBytes).length) := by
  induction queue with
  | nil => exact ⟨Nat.le_refl _, fun _ => rfl⟩
  | cons req rest ih =>
    rw [forall_mem_cons] at positioned
    obtain ⟨le, eq⟩ := ih positioned.2
    have own := positioned.1.length_sentBytes
    have pendingLe := positioned.1.pending_le
    rw [map_cons, sum_cons, flatMap_cons, length_append]
    refine ⟨by omega, fun all => ?_⟩
    rw [AllPending, forall_mem_cons] at all
    rw [eq all.2, own, all.1]

end Queue

end SwitchLanPlay.Gateway
