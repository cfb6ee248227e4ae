import SwitchLanPlay.LdnMitm.Framing
import SwitchLanPlay.Sysmodule.Proxy

/-! The rewriter in the TCP tunnel: the session thread takes each result of `recv` for one
packet, so what it forwards can depend on how the stream was cut.
-/

namespace SwitchLanPlay.Sysmodule

open List
open Foundation
open LdnMitm

variable {chunks : List Bytes}

/-- A stream as successive calls of `recv` with a buffer of 2048 octets return it. -/
structure Chunks (stream : Bytes) (chunks : List Bytes) : Prop where
  joined : chunks.flatten = stream
  positive : ∀ chunk ∈ chunks, 0 < chunk.length
  bounded : ∀ chunk ∈ chunks, chunk.length ≤ 2048

def forwardedPayload (addresses : Addresses) (targetIp : UInt32) (chunk : Bytes) : Bytes :=
  ((sessionPacket addresses targetIp chunk).map (drop 28)).getD []

def forwarded (addresses : Addresses) (targetIp : UInt32) (chunks : List Bytes) : Bytes :=
  chunks.flatMap (forwardedPayload addresses targetIp)

/-- Wherever a packet is taken to start, none of its counted nodes has a WiFi address that
the rewriter would replace by another one.
-/
def NothingToRewrite (addresses : Addresses) (stream : Bytes) : Prop :=
  addresses.wifiIp = 0 ∨ addresses.wifiIp = addresses.virtualIp
    ∨ ∀ start, ¬ Carries addresses.wifiIp (stream.drop start)

/-- Every chunk is forwarded, rewritten on its own. -/
theorem forwardedPayload_eq (addresses : Addresses) (targetIp : UInt32) {chunk : Bytes}
    (bounded : chunk.length ≤ 2048)
    : forwardedPayload addresses targetIp chunk = rewriteIps addresses true chunk := by
  obtain ⟨packet, built, payload⟩ := sessionPacket_payload addresses targetIp bounded
  rw [forwardedPayload, built]
  exact payload

@[simp] theorem forwarded_nil (addresses : Addresses) (targetIp : UInt32)
    : forwarded addresses targetIp [] = [] := rfl

theorem forwarded_append (addresses : Addresses) (targetIp : UInt32) (front rest : List Bytes)
    : forwarded addresses targetIp (front ++ rest)
      = forwarded addresses targetIp front ++ forwarded addresses targetIp rest := flatMap_append

/-- Chunks the rewriter leaves alone are forwarded as they are. -/
theorem forwarded_eq_flatten {addresses : Addresses} (targetIp : UInt32)
    (bounded : ∀ chunk ∈ chunks, chunk.length ≤ 2048)
    (same : ∀ chunk ∈ chunks, rewriteIps addresses true chunk = chunk)
    : forwarded addresses targetIp chunks = chunks.flatten := by
  induction chunks with
  | nil => rfl
  | cons chunk chunks ih =>
    rw [forall_mem_cons] at bounded same
    rw [forwarded, flatMap_cons, forwardedPayload_eq addresses targetIp bounded.1, same.1,
      flatten_cons]
    exact congrArg (chunk ++ ·) (ih bounded.2 same.2)

/-- A chunk stands somewhere in the stream with the rest of the stream behind it. -/
theorem exists_drop_eq_append {chunk : Bytes} (member : chunk ∈ chunks)
    : ∃ start rest, chunks.flatten.drop start = chunk ++ rest := by
  obtain ⟨before, after, rfl⟩ := append_of_mem member
  refine ⟨before.flatten.length, after.flatten, ?_⟩
  rw [flatten_append, flatten_cons, drop_left]

/-- Where there is nothing to rewrite in the stream there is nothing in its chunks. -/
theorem NothingToRewrite.chunk {addresses : Addresses}
    (nothing : NothingToRewrite addresses chunks.flatten) {chunk : Bytes} (member : chunk ∈ chunks)
    : rewriteIps addresses true chunk = chunk := by
  rw [rewriteIps_eq_self_iff]
  rcases nothing with unknown | equal | absent
  · exact .inl unknown
  · exact .inr (.inl equal)
  · obtain ⟨start, rest, window⟩ := exists_drop_eq_append member
    refine .inr (.inr fun carries => absent start ?_)
    rw [window]
    exact carries.append rest

def singles (stream : Bytes) : List Bytes := stream.map ([·])

theorem flatten_singles (stream : Bytes) : (singles stream).flatten = stream := by
  induction stream with
  | nil => rfl
  | cons byte stream ih => exact congrArg (byte :: ·) ih

theorem length_of_mem_singles {stream chunk : Bytes} (member : chunk ∈ singles stream)
    : chunk.length = 1 := by
  obtain ⟨byte, _, rfl⟩ := mem_map.mp member
  rfl

/-- One octet is no packet to rewrite. -/
theorem forwarded_singles (addresses : Addresses) (targetIp : UInt32) (stream : Bytes)
    : forwarded addresses targetIp (singles stream) = stream := by
  rw [forwarded_eq_flatten targetIp, flatten_singles]
  · intro chunk member
    have length := length_of_mem_singles member
    omega
  · intro chunk member
    have short : chunk.length < ldnHeaderSize := by
      rw [length_of_mem_singles member]
      decide
    rw [rewriteIps, if_pos short]

theorem chunks_singles (stream : Bytes) : Chunks stream (singles stream) where
  joined := flatten_singles stream
  positive chunk member := by
    rw [length_of_mem_singles member]
    exact Nat.one_pos
  bounded chunk member := by
    rw [length_of_mem_singles member]
    decide

def cutAround (stream : Bytes) (start : Nat) : List Bytes :=
  singles (stream.take start)
    ++ (stream.drop start).take 2048 :: singles ((stream.drop start).drop 2048)

theorem chunks_cutAround {stream : Bytes} {start : Nat} (inside : start < stream.length)
    : Chunks stream (cutAround stream start) where
  joined := by
    rw [cutAround, flatten_append, flatten_cons, flatten_singles, flatten_singles,
      take_append_drop, take_append_drop]
  positive chunk member := by
    rcases mem_append.mp member with before | within
    · exact (chunks_singles _).positive chunk before
    · rcases mem_cons.mp within with rfl | behind
      · rw [length_take, length_drop]
        omega
      · exact (chunks_singles _).positive chunk behind
  bounded chunk member := by
    rcases mem_append.mp member with before | within
    · exact (chunks_singles _).bounded chunk before
    · rcases mem_cons.mp within with rfl | behind
      · exact length_take_le _ _
      · exact (chunks_singles _).bounded chunk behind

theorem forwarded_cutAround (addresses : Addresses) (targetIp : UInt32) (stream : Bytes)
    (start : Nat)
    : forwarded addresses targetIp (cutAround stream start)
      = stream.take start
        ++ (rewriteIps addresses true ((stream.drop start).take 2048)
          ++ (stream.drop start).drop 2048) := by
  have chunk := forwardedPayload_eq addresses targetIp
    (length_take_le 2048 (stream.drop start))
  rw [cutAround, forwarded_append, forwarded_singles, ← chunk]
  exact congrArg (fun rest => stream.take start ++ (_ ++ rest)) (forwarded_singles ..)

/-- What the session thread forwards is independent of the segmentation exactly when there
is nothing to rewrite anywhere in the stream.
Witness: chunks of one octet are never rewritten, so a chunk that starts at a packet with the
WiFi address makes a difference.
-/
theorem forwarded_agree_iff (addresses : Addresses) (targetIp : UInt32) (stream : Bytes)
    : (∀ left right,
        Chunks stream left → Chunks stream right
        → forwarded addresses targetIp left = forwarded addresses targetIp right)
      ↔ NothingToRewrite addresses stream := by
  constructor
  · intro agree
    by_contra differs
    simp only [NothingToRewrite, not_or, not_forall, not_not] at differs
    obtain ⟨known, other, start, carries⟩ := differs
    have inside : start < stream.length := by
      obtain ⟨offset, member, _⟩ := carries
      have within := addressOffsets_inside member
      rw [List.length_drop] at within
      omega
    have same := agree _ _ (chunks_cutAround inside) (chunks_singles stream)
    rw [forwarded_cutAround, forwarded_singles] at same
    have split : stream
        = stream.take start
          ++ ((stream.drop start).take 2048 ++ (stream.drop start).drop 2048) := by
      rw [List.take_append_drop, List.take_append_drop]
    have kept := List.append_cancel_right (List.append_cancel_left (same.trans split))
    rcases (rewriteIps_eq_self_iff addresses _).mp kept with unknown | equal | absent
    · exact known unknown
    · exact other equal
    · exact absent carries.take
  · intro nothing left right leftChunks rightChunks
    have whole {chunks : List Bytes} (cut : Chunks stream chunks)
        : forwarded addresses targetIp chunks = stream := by
      have same {chunk : Bytes} (member : chunk ∈ chunks)
          : rewriteIps addresses true chunk = chunk := by
        have joined := nothing
        rw [← cut.joined] at joined
        exact joined.chunk member
      rw [forwarded_eq_flatten targetIp cut.bounded (fun _ => same), cut.joined]
    rw [whole leftChunks, whole rightChunks]

/-- A node with the WiFi address. Its only zero octet would take two in the compressed form,
so it is sent as it is.
-/
def wifiNode : NodeInfo :=
  ⟨sampleAddresses.wifiIp, ⟨replicate 6 1, rfl⟩, 0, 1, ⟨replicate 33 1, rfl⟩, 1, 257,
    ⟨replicate 16 1, rfl⟩⟩

/-- `Connect` in one chunk reaches the host with the virtual address, and cut behind its
header with the WiFi address.
-/
theorem forwarded_connect_differs
    : ∃ left right,
        Chunks (stream [⟨.connect, wifiNode.toBytes⟩]) left
        ∧ Chunks (stream [⟨.connect, wifiNode.toBytes⟩]) right
        ∧ (readLANPacketHeader (stream [⟨.connect, wifiNode.toBytes⟩])).compressed = 0
        ∧ readLe32 (forwarded sampleAddresses 0x0A0D0001 left) 12
          = sampleAddresses.virtualIp.toNat
        ∧ readLe32 (forwarded sampleAddresses 0x0A0D0001 right) 12
          = sampleAddresses.wifiIp.toNat := by
  refine ⟨[sendPacket .connect wifiNode.toBytes],
    [(sendPacket .connect wifiNode.toBytes).take 12,
      (sendPacket .connect wifiNode.toBytes).drop 12],
    ⟨?_, ?_, ?_⟩, ⟨?_, ?_, ?_⟩, ?_, ?_, ?_⟩
  all_goals decide +kernel

end SwitchLanPlay.Sysmodule
