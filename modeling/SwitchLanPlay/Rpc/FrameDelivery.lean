import SwitchLanPlay.Rpc.Decoding

/-! Frames that a client sends behind its request, cut into segments in any way. The decoder gets
no octet that came in one segment with the end of the request; of the others it keeps one back.
-/

namespace SwitchLanPlay.Rpc

open List
open Foundation
open Server (utf8)

variable {rest tail : Bytes}

-- The lines of a request

section Lines

variable {lines : List Bytes}

theorem splitLines_requestOctets (noEnd : ∀ line ∈ lines, 10 ∉ line)
    : splitLines [] (requestOctets lines) = (lines.map (· ++ [13]) ++ [[13]], []) := by
  induction lines with
  | nil => rfl
  | cons line lines ih =>
    obtain ⟨first, later⟩ := forall_mem_cons.mp noEnd
    have split : requestOctets (line :: lines) = (line ++ [13]) ++ 10 :: requestOctets lines := by
      simp [requestOctets]
    have inside : 10 ∉ line ++ [13] := by
      rw [mem_append]
      exact not_or.mpr ⟨first, by decide⟩
    rw [split, splitLines_line inside, ih later]
    rfl

/-- The lines that have come in with a part of the request. -/
theorem splitLines_front (noEnd : ∀ line ∈ lines, 10 ∉ line) {fed : Bytes}
    (request : fed ++ rest = requestOctets lines)
    : (splitLines [] fed).1 <+: lines.map (· ++ [13]) ++ [[13]]
      ∧ (rest ≠ [] → (splitLines [] fed).1 <+: lines.map (· ++ [13])) := by
  have whole := splitLines_requestOctets noEnd
  rw [← request, splitLines_append, Prod.mk.injEq] at whole
  obtain ⟨found, left⟩ := whole
  refine ⟨⟨_, found⟩, fun more => ?_⟩
  rcases eq_nil_or_concat' (splitLines (splitLines [] fed).2 rest).1 with
    none | ⟨front, last, ends⟩
  · rw [splitLines_snd_of_fst none, append_eq_nil_iff] at left
    exact absurd left.2 more
  · rw [ends, ← append_assoc] at found
    exact ⟨front, append_inj_left' found rfl⟩

/-- Before the request is complete no empty line has come in. -/
theorem rawLine_ne_blank (shaped : ∀ line ∈ lines, line ≠ [] ∧ 10 ∉ line) {fed : Bytes}
    (stream : fed ++ rest = requestOctets lines ++ tail)
    (short : fed.length < (requestOctets lines).length)
    : ∀ line ∈ (splitLines [] fed).1, line ≠ [13] := by
  obtain ⟨more, split⟩ : fed <+: requestOctets lines :=
    prefix_of_prefix_length_le ⟨rest, stream⟩ (prefix_append _ _) (Nat.le_of_lt short)
  have some_ : more ≠ [] := by
    rintro rfl
    rw [← split, append_nil] at short
    exact Nat.lt_irrefl _ short
  have front := (splitLines_front (fun line member => (shaped line member).2) split).2 some_
  rintro line member rfl
  obtain ⟨text, among, same⟩ := mem_map.mp (front.subset member)
  exact (shaped text among).1 (append_left_eq_self.mp same)

theorem rawLine_ne_nil (noEnd : ∀ line ∈ lines, 10 ∉ line) {fed : Bytes}
    (request : fed ++ rest = requestOctets lines)
    : ∀ line ∈ (splitLines [] fed).1, line ≠ [] := by
  rintro line member rfl
  have among := (splitLines_front noEnd request).1.subset member
  simp at among

end Lines

-- Reading the request

def WSConnection.Requesting (conn : WSConnection) : Prop :=
  conn.wsState = .doHeader ∨ conn.wsState = .waitHttp

def WSConnection.BetweenFrames (conn : WSConnection) : Prop :=
  ¬ conn.wsState.Decodes ∨ conn.wsState = .waitDecodeHeader

structure WSConnection.SameDecoder (conn next : WSConnection) : Prop where
  buffer : next.buffer = conn.buffer
  bl : next.bl = conn.bl
  closed : next.closed = conn.closed
  handed : next.handed = conn.handed

section Request

variable {digest : Bytes → Bytes} {conn next : WSConnection} {line : Bytes}

/-- What a line does: frames are expected behind an empty line only. -/
theorem WSConnection.onLine_cases (digest : Bytes → Bytes) (conn : WSConnection) (line : Bytes)
    : conn.SameDecoder (conn.onLine digest line)
      ∧ (conn.BetweenFrames → (conn.onLine digest line).BetweenFrames)
      ∧ (line ≠ [] → ¬ conn.wsState.Decodes → ¬ (conn.onLine digest line).wsState.Decodes) := by
  have dies : ∀ {next : WSConnection}, next.wsState = .dead → ¬ next.wsState.Decodes :=
    fun state => state ▸ WSCState.not_decodes_dead
  rw [onLine]
  split
  · split
    · exact ⟨⟨rfl, rfl, rfl, rfl⟩, fun _ => .inl (dies rfl), fun _ _ => dies rfl⟩
    · exact ⟨⟨rfl, rfl, rfl, rfl⟩, fun _ => .inl WSCState.not_decodes_waitHttp,
        fun _ _ => WSCState.not_decodes_waitHttp⟩
  · split
    · split
      · exact ⟨⟨rfl, rfl, rfl, rfl⟩, fun _ => .inl (dies rfl), fun _ _ => dies rfl⟩
      · exact ⟨⟨rfl, rfl, rfl, rfl⟩, id, fun _ => id⟩
    · next blank =>
        split
        · exact ⟨⟨rfl, rfl, rfl, rfl⟩, fun _ => .inr rfl, fun some_ => absurd some_ blank⟩
        · exact ⟨⟨rfl, rfl, rfl, rfl⟩, fun _ => .inl (dies rfl), fun _ _ => dies rfl⟩
  · exact ⟨⟨rfl, rfl, rfl, rfl⟩, id, fun _ => id⟩

theorem WSConnection.onRawLine_cases (read : conn.onRawLine digest line = some next)
    : conn.SameDecoder next
      ∧ (conn.BetweenFrames → next.BetweenFrames)
      ∧ (line ≠ [13] → ¬ conn.wsState.Decodes → ¬ next.wsState.Decodes) := by
  rw [onRawLine] at read
  split at read
  · cases read
  · next some_ =>
      split at read
      · next ends =>
          cases read
          obtain ⟨same, between, stays⟩ := onLine_cases digest conn line.dropLast
          refine ⟨same, between, fun notBlank => stays fun empty => notBlank ?_⟩
          rw [← dropLast_append_getLast? 13 ends, empty]
          rfl
      · cases read
        obtain ⟨same, between, stays⟩ := onLine_cases digest conn line
        exact ⟨same, between, fun _ => stays some_⟩

theorem WSConnection.onRawLines_cases {lines : List Bytes}
    (read : lines.foldlM (onRawLine digest) conn = some next)
    : conn.SameDecoder next
      ∧ (conn.BetweenFrames → next.BetweenFrames)
      ∧ ((∀ line ∈ lines, line ≠ [13]) → ¬ conn.wsState.Decodes → ¬ next.wsState.Decodes) := by
  induction lines generalizing conn with
  | nil =>
    cases read
    exact ⟨⟨rfl, rfl, rfl, rfl⟩, id, fun _ => id⟩
  | cons line lines ih =>
    rw [foldlM_cons] at read
    obtain ⟨middle, first, later⟩ := Option.bind_eq_some_iff.mp read
    obtain ⟨same, between, stays⟩ := onRawLine_cases first
    obtain ⟨sameLater, betweenLater, staysLater⟩ := ih later
    refine ⟨⟨sameLater.buffer.trans same.buffer, sameLater.bl.trans same.bl,
        sameLater.closed.trans same.closed, sameLater.handed.trans same.handed⟩,
      fun now => betweenLater (between now), fun notBlank quiet => ?_⟩
    obtain ⟨here, there⟩ := forall_mem_cons.mp notBlank
    exact staysLater there (stays here quiet)

/-- Lines that are not empty up to the newline are read without a fault. -/
theorem WSConnection.onRawLines_isSome {lines : List Bytes} (some_ : ∀ line ∈ lines, line ≠ [])
    : ∃ next, lines.foldlM (WSConnection.onRawLine digest) conn = some next := by
  induction lines generalizing conn with
  | nil => exact ⟨conn, rfl⟩
  | cons line lines ih =>
    obtain ⟨here, there⟩ := forall_mem_cons.mp some_
    have read : ∃ middle, conn.onRawLine digest line = some middle := by
      rw [onRawLine, if_neg here]
      split <;> exact ⟨_, rfl⟩
    obtain ⟨middle, first⟩ := read
    obtain ⟨next, later⟩ := @ih middle there
    refine ⟨next, ?_⟩
    rw [foldlM_cons, first]
    exact later

end Request

-- A connection under segments

namespace WSConnection

/-- The connection has spent octets of the `received` ones for frames, and kept one back if it
spent any.
-/
structure Kept (conn : WSConnection) (received : Nat) : Prop where
  paid : conn.spent + conn.bl.size ≤ received
  left : conn.spent = 0 ∨ 0 < conn.bl.size

theorem Kept.takes {conn next : WSConnection} {received : Nat}
    (kept : conn.Kept received) (takes : conn.Takes next)
    : next.Kept received := by
  obtain ⟨paid, left⟩ := kept
  rcases takes.pays with ⟨spent, same⟩ | ⟨taken, paidMore, size, leftMore⟩
  · rw [← spent, ← same] at paid left
    exact ⟨paid, left⟩
  · exact ⟨by omega, .inr leftMore⟩

theorem Kept.receive {conn : WSConnection} {received : Nat} (kept : conn.Kept received)
    (data : Bytes)
    : (conn.receive data).Kept (received + data.length) := by
  obtain ⟨paid, left⟩ := kept
  have size := conn.bl.size_add data
  refine ⟨?_, ?_⟩
  · change conn.spent + (conn.bl.add data).size ≤ _
    omega
  · change conn.spent = 0 ∨ 0 < (conn.bl.add data).size
    omega

/-- How a connection stands behind the octets `fed` of a request and of frames. -/
structure Tracks (lines : List Bytes) (fed : Bytes) (conn : WSConnection) : Prop where
  requesting : conn.Requesting → conn.buffer = (splitLines [] fed).2 ∧ conn.closed = false
  quiet : ¬ conn.wsState.Decodes → conn.handed = [] ∧ conn.bl = .init
  decoding
    : conn.wsState.Decodes
      → (requestOctets lines).length ≤ fed.length
        ∧ conn.Kept (fed.length - (requestOctets lines).length)

theorem tracks_init (lines : List Bytes) : WSConnection.init.Tracks lines [] where
  requesting _ := ⟨rfl, rfl⟩
  quiet _ := ⟨rfl, rfl⟩
  decoding decodes := absurd decodes (by decide)

theorem Requesting.not_decodes {conn : WSConnection} (requesting : conn.Requesting)
    : ¬ conn.wsState.Decodes := by
  rcases requesting with state | state
  · rw [state]
    decide
  · rw [state]
    decide

end WSConnection

section Segments

variable {digest : Bytes → Bytes} {lines : List Bytes} {fed data : Bytes}
  {conn next : WSConnection}

namespace WSConnection

theorem onData_requesting (requesting : conn.Requesting) (data : Bytes)
    : conn.onData digest data = conn.feed digest data := by
  rw [onData]
  rcases requesting with state | state
  · rw [state]
  · rw [state]

theorem onData_dead (notRequesting : ¬ conn.Requesting)
    (quiet : ¬ conn.wsState.Decodes) (data : Bytes)
    : conn.onData digest data = some conn := by
  have dead : conn.wsState = .dead := by
    by_contra alive
    exact quiet ⟨fun first => notRequesting (.inl first), fun later => notRequesting (.inr later),
      alive⟩
  rw [onData, dead]

theorem Tracks.feed (tracks : conn.Tracks lines fed) (requesting : conn.Requesting)
    (shaped : ∀ line ∈ lines, line ≠ [] ∧ 10 ∉ line)
    (stream : (fed ++ data) ++ rest = requestOctets lines ++ tail)
    (read : conn.feed digest data = some next)
    : next.Tracks lines (fed ++ data) := by
  obtain ⟨buffer, opened⟩ := tracks.requesting requesting
  obtain ⟨none, empty⟩ := tracks.quiet requesting.not_decodes
  rw [WSConnection.feed, buffer] at read
  have split := splitLines_kept fed data
  obtain ⟨same, between, stays⟩ := onRawLines_cases read
  have handed : next.handed = [] := same.handed.trans none
  have bl : next.bl = .init := same.bl.trans empty
  refine ⟨fun _ => ⟨?_, same.closed.trans opened⟩, fun _ => ⟨handed, bl⟩, fun decodes => ?_⟩
  · rw [same.buffer, split]
  · -- Only an empty line leads to the decoder, and the first of them ends the request.
    have complete : (requestOctets lines).length ≤ (fed ++ data).length := by
      by_contra short
      have notBlank := rawLine_ne_blank shaped stream (Nat.lt_of_not_le short)
      rw [split] at notBlank
      exact stays (fun line member => notBlank line (mem_append_right _ member))
        requesting.not_decodes decodes
    have atHeader : next.wsState = .waitDecodeHeader := by
      rcases between (.inl requesting.not_decodes) with quiet | atHeader
      · exact absurd decodes quiet
      · exact atHeader
    have nothing : next.spent = 0 := by
      rw [spent, handed, begun, atHeader]
      rfl
    refine ⟨complete, ?_, .inl nothing⟩
    rw [nothing, bl]
    exact Nat.zero_le _

/-- A connection that ignores a segment. -/
theorem Tracks.idle (tracks : conn.Tracks lines fed)
    (notRequesting : ¬ conn.Requesting) (data : Bytes)
    : conn.Tracks lines (fed ++ data) where
  requesting requesting := absurd requesting notRequesting
  quiet := tracks.quiet
  decoding decodes := by
    obtain ⟨complete, paid, left⟩ := tracks.decoding decodes
    rw [length_append]
    exact ⟨by omega, by omega, left⟩

theorem Tracks.decode (tracks : conn.Tracks lines fed)
    (decodes : conn.wsState.Decodes)
    (decoded
      : (conn.receive data).decodeFrames ((conn.receive data).bl.size + 2) = some next)
    : next.Tracks lines (fed ++ data) := by
  obtain ⟨complete, kept⟩ := tracks.decoding decodes
  have takes := @decodeFrames_takes (conn.receive data) _ _ decodes decoded
  refine ⟨fun requesting => absurd takes.decodes requesting.not_decodes,
    fun quiet => absurd takes.decodes quiet, fun _ => ?_⟩
  have received : (fed ++ data).length - (requestOctets lines).length
      = fed.length - (requestOctets lines).length + data.length := by
    rw [length_append]
    omega
  rw [received]
  refine ⟨?_, (kept.receive data).takes takes⟩
  rw [length_append]
  omega

theorem Tracks.step (tracks : conn.Tracks lines fed)
    (shaped : ∀ line ∈ lines, line ≠ [] ∧ 10 ∉ line)
    (stream : (fed ++ data) ++ rest = requestOctets lines ++ tail)
    (stepped : conn.step digest data = some (next, ()))
    : next.Tracks lines (fed ++ data) := by
  rw [WSConnection.step] at stepped
  split at stepped
  · next closed =>
      cases stepped
      refine tracks.idle (fun requesting => ?_) data
      exact Bool.noConfusion ((tracks.requesting requesting).2.symm.trans closed)
  · obtain ⟨same, received, pair⟩ := Option.map_eq_some_iff.mp stepped
    obtain ⟨rfl, -⟩ := Prod.mk.inj pair
    by_cases requesting : conn.Requesting
    · rw [onData_requesting requesting] at received
      exact tracks.feed requesting shaped stream received
    by_cases decodes : conn.wsState.Decodes
    · rw [onData_decodes decodes] at received
      exact tracks.decode decodes received
    · rw [onData_dead requesting decodes] at received
      cases received
      exact tracks.idle requesting data

/-- A connection stands behind the segments that came in. -/
theorem Reached.tracks {segments : List Bytes} (reached : conn.Reached digest segments)
    (shaped : ∀ line ∈ lines, line ≠ [] ∧ 10 ∉ line)
    (stream : segments.flatten ++ rest = requestOctets lines ++ tail)
    : conn.Tracks lines segments.flatten := by
  induction segments using reverseRecOn generalizing conn rest with
  | nil =>
    cases reached
    exact tracks_init lines
  | append_singleton segments data ih =>
    obtain ⟨before, ⟨⟩, earlier, stepped⟩ := Machine.failing_run_concat_eq_some.mp reached
    have whole : (segments ++ [data]).flatten = segments.flatten ++ data := by
      rw [flatten_append, flatten_singleton]
    rw [whole] at stream ⊢
    have front : segments.flatten ++ (data ++ rest) = requestOctets lines ++ tail := by
      rw [← stream, append_assoc]
    exact (ih earlier front).step shaped stream stepped

/-- No octet of a request leads to a fault. -/
theorem Tracks.step_of_request (tracks : conn.Tracks lines fed) (noEnd : ∀ line ∈ lines, 10 ∉ line)
    (request : (fed ++ data) ++ rest = requestOctets lines)
    : ∃ next, conn.step digest data = some (next, ()) := by
  rw [WSConnection.step]
  split
  · exact ⟨conn, rfl⟩
  by_cases requesting : conn.Requesting
  · have rawLines := rawLine_ne_nil noEnd request
    rw [splitLines_kept, ← (tracks.requesting requesting).1] at rawLines
    rw [onData_requesting requesting, WSConnection.feed]
    obtain ⟨next, read⟩ := @onRawLines_isSome digest _ _
      fun line member => rawLines line (mem_append_right _ member)
    exact ⟨next, by rw [read]; rfl⟩
  by_cases decodes : conn.wsState.Decodes
  · -- The request is complete, and no octet has come in behind it.
    obtain ⟨complete, paid, -⟩ := tracks.decoding decodes
    have lengths := congrArg List.length request
    rw [length_append, length_append] at lengths
    have size := (conn.bl.size_add data).2
    rw [spent] at paid
    have atHeader := atHeader_of_begun decodes (by omega)
    have few : (conn.receive data).bl.size < 2 := by
      change (conn.bl.add data).size < 2
      omega
    rw [onData_decodes decodes, decodeFrames, if_pos ⟨atHeader, few⟩]
    exact ⟨_, rfl⟩
  · rw [onData_dead requesting decodes]
    exact ⟨conn, rfl⟩

theorem exists_reached {segments : List Bytes} {rest : Bytes}
    (shaped : ∀ line ∈ lines, line ≠ [] ∧ 10 ∉ line)
    (request : segments.flatten ++ rest = requestOctets lines)
    : ∃ conn : WSConnection, conn.Reached digest segments := by
  induction segments using reverseRecOn generalizing rest with
  | nil => exact ⟨.init, rfl⟩
  | append_singleton segments data ih =>
    rw [flatten_append, flatten_singleton] at request
    have front : segments.flatten ++ (data ++ rest) = requestOctets lines := by
      rw [← request, append_assoc]
    obtain ⟨conn, reached⟩ := ih front
    have whole : segments.flatten ++ (data ++ rest) = requestOctets lines ++ [] := by
      rw [front, append_nil]
    have tracks := reached.tracks shaped whole
    obtain ⟨next, stepped⟩ :=
      tracks.step_of_request (fun line member => (shaped line member).2) request
    exact ⟨next, Machine.failing_run_concat_eq_some.mpr ⟨conn, (), reached, stepped⟩⟩

end WSConnection

end Segments

-- The frames that are handed over

/-- Whatever way a request and the frames behind it are cut into segments, the frames are handed
over without a fault exactly if there are none: the segment that ends the request takes the octets
behind it along, and `advance` faults as soon as the buffer has no octet left.
-/
theorem frames_delivered_iff (digest : Bytes → Bytes) {lines : List Bytes}
    (shaped : ∀ line ∈ lines, line ≠ [] ∧ 10 ∉ line) {frames : List Frame} {segments : List Bytes}
    (stream : segments.flatten = requestOctets lines ++ frames.flatMap Frame.octets)
    : (∃ conn : WSConnection,
        conn.Reached digest segments ∧ conn.handed = frames.map Frame.toWSFrame)
      ↔ frames = [] := by
  have whole : segments.flatten ++ [] = requestOctets lines ++ frames.flatMap Frame.octets := by
    rw [List.append_nil, stream]
  have received : segments.flatten.length - (requestOctets lines).length
      = ((frames.map Frame.toWSFrame).map WSFrame.wireSize).sum := by
    rw [stream, List.length_append, length_flatMap_octets]
    omega
  constructor
  · rintro ⟨conn, reached, handed⟩
    have tracks := reached.tracks shaped whole
    by_cases decodes : conn.wsState.Decodes
    · -- The frames have as many octets as came in behind the request, and one of those is kept.
      obtain ⟨-, paid, left⟩ := tracks.decoding decodes
      rw [WSConnection.spent, handed] at paid left
      have nothing : ((frames.map Frame.toWSFrame).map WSFrame.wireSize).sum = 0 := by omega
      exact List.map_eq_nil_iff.mp (WSFrame.eq_nil_of_sum nothing)
    · exact List.map_eq_nil_iff.mp (handed.symm.trans (tracks.quiet decodes).1)
  · rintro rfl
    rw [List.flatMap_nil] at whole
    rw [List.map_nil, List.map_nil, List.sum_nil] at received
    obtain ⟨conn, reached⟩ := @WSConnection.exists_reached digest lines segments [] shaped
      (by rw [whole, List.append_nil])
    refine ⟨conn, reached, ?_⟩
    have tracks := reached.tracks shaped whole
    by_cases decodes : conn.wsState.Decodes
    · obtain ⟨-, paid, -⟩ := tracks.decoding decodes
      rw [WSConnection.spent] at paid
      exact WSFrame.eq_nil_of_sum (by omega)
    · exact (tracks.quiet decodes).1

def rpcRequest : List Bytes :=
  [utf8 "GET / HTTP/1.1", utf8 "Host: console", utf8 "Upgrade: websocket",
    utf8 "Connection: Upgrade", utf8 "Sec-WebSocket-Version: 13",
    utf8 "Sec-WebSocket-Protocol: switch-lan-play-rpc", utf8 "Sec-WebSocket-Key: c2VjcmV0"]

def tokenFrame : Frame := ⟨true, false, false, false, 1, none, utf8 "a"⟩

/-- A request without frames, cut within a line end. -/
theorem frames_delivered_iff_rpcRequest
    : [(requestOctets rpcRequest).take 15, (requestOctets rpcRequest).drop 15].flatten
        = requestOctets rpcRequest ++ [].flatMap Frame.octets
      ∧ ∃ conn : WSConnection,
          conn.Reached id [(requestOctets rpcRequest).take 15, (requestOctets rpcRequest).drop 15]
          ∧ conn.handed = [].map Frame.toWSFrame := by
  have stream : [(requestOctets rpcRequest).take 15, (requestOctets rpcRequest).drop 15].flatten
      = requestOctets rpcRequest ++ [].flatMap Frame.octets := by decide +kernel
  exact ⟨stream, (frames_delivered_iff id (by decide +kernel) stream).mpr rfl⟩

/-- A frame in a segment of its own drains the buffer; a header in two segments is read behind the
end of the first; a frame in one segment with the request is lost.
-/
theorem frame_not_delivered
    : (wsMachine id).run (some .init) [requestOctets rpcRequest, tokenFrame.octets] = none
      ∧ (wsMachine id).run (some .init)
          [requestOctets rpcRequest, tokenFrame.octets.take 1, tokenFrame.octets.drop 1]
        = none
      ∧ ((wsMachine id).run (some .init) [requestOctets rpcRequest ++ tokenFrame.octets]).map
          WSConnection.handed
        = some [] := by
  decide +kernel

end SwitchLanPlay.Rpc
