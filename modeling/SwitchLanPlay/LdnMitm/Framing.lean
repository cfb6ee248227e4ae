import SwitchLanPlay.Foundation.Backlog
import SwitchLanPlay.Foundation.Machine
import SwitchLanPlay.LdnMitm.Protocol

/-! LDN packets over a TCP stream: `recvPacket` restores the packets from any segmentation,
one packet for each read event.
-/

namespace SwitchLanPlay.LdnMitm

open List
open Foundation

variable {packets : List LANPacket}

structure LANPacket where
  type : LANPacketType
  data : Bytes
deriving DecidableEq, Repr

def LANPacket.encoded (packet : LANPacket) : Bytes := sendPacket packet.type packet.data

def LANPacket.outcome (packet : LANPacket) : Outcome := .callback packet.type.toByte packet.data

structure LANPacket.Fits (packet : LANPacket) : Prop where
  encoded : packet.encoded.length ≤ bufferSize
  data : packet.data.length ≤ bufferSize

def stream (packets : List LANPacket) : Bytes := packets.flatMap LANPacket.encoded

def tcpReceiver : Machine LanSocket Bytes Outcome :=
  ⟨fun socket segment => socket.recvPacket (.ok segment)⟩

def delivered (segments : List Bytes) : List Outcome :=
  (tcpReceiver.outputs .empty segments).filter (· ≠ .returned 0)

def completed : List LANPacket → Nat → Nat
  | [], _ => 0
  | packet :: rest, received =>
    if packet.encoded.length ≤ received then
      completed rest (received - packet.encoded.length) + 1
    else 0

/-- Non-empty segments of the front of a stream, each within the space that is offered to
`recvfrom` when it arrives.
-/
structure Segmentation (packets : List LANPacket) (segments : List Bytes) : Prop where
  front : segments.flatten <+: stream packets
  nonempty : ∀ segment ∈ segments, segment ≠ []
  offered
    : ∀ before segment after,
        segments = before ++ segment :: after
        → segment.length ≤ (tcpReceiver.run .empty before).space

/-- The front of a segmentation is one as well. -/
theorem Segmentation.of_append {before after : List Bytes}
    (segmentation : Segmentation packets (before ++ after))
    : Segmentation packets before where
  front := by
    refine List.IsPrefix.trans ?_ segmentation.front
    rw [flatten_append]
    exact prefix_append _ _
  nonempty := fun segment member => segmentation.nonempty segment (mem_append_left _ member)
  offered := by
    rintro front segment rest rfl
    exact segmentation.offered front segment (rest ++ after) (by simp)

-- Nothing is lost

/-- The first `count` packets are delivered, the octets behind them are buffered, and the
buffer is not full.
-/
structure Framed (packets : List LANPacket) (segments : List Bytes) (count : Nat) : Prop where
  count_le : count ≤ packets.length
  delivered : delivered segments = (packets.take count).map LANPacket.outcome
  received
    : stream (packets.take count) ++ (tcpReceiver.run .empty segments).buffer
      = segments.flatten
  space : 0 < (tcpReceiver.run .empty segments).space

theorem delivered_concat (segments : List Bytes) (segment : Bytes)
    : delivered (segments ++ [segment])
      = delivered segments
        ++ [(tcpReceiver.step (tcpReceiver.run .empty segments) segment).2].filter
            (· ≠ .returned 0) := by
  simp only [delivered, Machine.outputs_concat, filter_append]

theorem stream_take_append_drop (packets : List LANPacket) (count : Nat)
    : stream packets = stream (packets.take count) ++ stream (packets.drop count) := by
  rw [stream, stream, stream, ← flatMap_append, take_append_drop]

/-- Packets in front that are complete can be counted first. -/
theorem completed_take_add (packets : List LANPacket) {count : Nat}
    (known : count ≤ packets.length) (more : Nat)
    : completed packets ((stream (packets.take count)).length + more)
      = count + completed (packets.drop count) more := by
  induction count generalizing packets with
  | zero => simp [stream]
  | succ count ih =>
    cases packets with
    | nil => simp at known
    | cons packet rest =>
      have inner := ih rest (Nat.le_of_succ_le_succ known)
      have total : (stream ((packet :: rest).take (count + 1))).length + more
          = packet.encoded.length + ((stream (rest.take count)).length + more) := by
        simp [stream, Nat.add_assoc]
      rw [total, completed, if_pos (Nat.le_add_right _ _), Nat.add_sub_cancel_left, inner,
        drop_succ_cons]
      omega

/-- One read event while the buffer holds the front of a packet: the packet is delivered and
removed as soon as it is complete, and the buffer never stays full.
-/
theorem tcpReceiver_step {socket : LanSocket} {segment rest : Bytes} {packet : LANPacket}
    (fits : packet.Fits) (nonempty : segment ≠ []) (offered : segment.length ≤ socket.space)
    (front : socket.buffer ++ segment <+: packet.encoded ++ rest)
    : (packet.encoded.length ≤ (socket.buffer ++ segment).length
        → (tcpReceiver.step socket segment).2 = packet.outcome
          ∧ packet.encoded ++ (tcpReceiver.step socket segment).1.buffer
            = socket.buffer ++ segment)
      ∧ ((socket.buffer ++ segment).length < packet.encoded.length
        → (tcpReceiver.step socket segment).2 = .returned 0
          ∧ (tcpReceiver.step socket segment).1.buffer = socket.buffer ++ segment)
      ∧ 0 < (tcpReceiver.step socket segment).1.space := by
  obtain ⟨encodedFits, dataFits⟩ := fits
  obtain ⟨isPacket, _, decodes⟩ := sendPacket_spec packet.type dataFits
  have minimum : headerSize ≤ packet.encoded.length := isPacket.headerSize_le
  obtain ⟨complete, incomplete⟩ :=
    LanSocket.recvPartPacket_spec isPacket encodedFits nonempty offered front
  have filled : (socket.buffer ++ segment).length ≤ bufferSize := by
    have bounded := socket.bounded
    rw [LanSocket.space] at offered
    rw [length_append]
    omega
  refine ⟨?_, ?_, ?_⟩
  · intro there
    obtain ⟨left, removed⟩ := complete there
    constructor
    · simp only [tcpReceiver, LanSocket.recvPacket, removed]
      exact decodes
    · obtain ⟨tail, equal⟩ := front
      have head := congrArg (take packet.encoded.length) equal
      rw [take_append_of_le_length there, take_left] at head
      have parts := take_append_drop packet.encoded.length (socket.buffer ++ segment)
      rw [head] at parts
      exact (congrArg (packet.encoded ++ ·) left).trans parts
  · intro missing
    obtain ⟨left, removed⟩ := incomplete missing
    constructor
    · simp only [tcpReceiver, LanSocket.recvPacket, removed, Option.elim_none]
    · exact left
  · apply Nat.sub_pos_of_lt
    by_cases there : packet.encoded.length ≤ (socket.buffer ++ segment).length
    · have left : (tcpReceiver.step socket segment).1.buffer
          = (socket.buffer ++ segment).drop packet.encoded.length := (complete there).1
      rw [left, length_drop]
      simp only [headerSize] at minimum
      omega
    · have left : (tcpReceiver.step socket segment).1.buffer = socket.buffer ++ segment :=
        (incomplete (Nat.lt_of_not_le there)).1
      rw [left]
      omega

/-- One more segment keeps the framing, and delivers a packet if one is complete.
Witness: the buffered octets and the segment are the front of the packets not delivered.
-/
theorem Framed.concat (fits : ∀ packet ∈ packets, packet.Fits) {segments : List Bytes}
    {segment : Bytes} (segmentation : Segmentation packets (segments ++ [segment])) {count : Nat}
    (framed : Framed packets segments count)
    : Framed packets (segments ++ [segment])
        (min (count + 1) (completed packets (segments ++ [segment]).flatten.length)) := by
  obtain ⟨known, reports, received, _⟩ := framed
  have nonempty := segmentation.nonempty segment (by simp)
  have offered := segmentation.offered segments segment [] rfl
  have whole := segmentation.front
  have extended := delivered_concat segments segment
  have next := tcpReceiver.run_concat .empty segments segment
  generalize tcpReceiver.run .empty segments = socket at offered extended next received
  have arrived : (segments ++ [segment]).flatten
      = stream (packets.take count) ++ (socket.buffer ++ segment) := by
    rw [flatten_append, flatten_singleton, ← received, append_assoc]
  rw [arrived, stream_take_append_drop packets count, prefix_append_right_inj] at whole
  cases rest : packets.drop count with
  | nil =>
    rw [rest] at whole
    have empty := append_eq_nil_iff.mp (prefix_nil.mp whole)
    exact absurd empty.2 nonempty
  | cons packet others =>
    rw [rest] at whole
    have member : packet ∈ packets := mem_of_mem_drop (by rw [rest]; exact .head _)
    have more : count < packets.length := by
      have length := congrArg List.length rest
      simp only [length_drop, length_cons] at length
      omega
    have taken : packets.take (count + 1) = packets.take count ++ [packet] := by
      rw [take_add, rest]
      rfl
    have count_eq : completed packets (segments ++ [segment]).flatten.length
        = count + completed (packet :: others) (socket.buffer ++ segment).length := by
      rw [arrived, length_append, completed_take_add packets known, rest]
    obtain ⟨complete, incomplete, space⟩ :=
      tcpReceiver_step (fits packet member) nonempty offered whole
    rw [← next] at space
    by_cases there : packet.encoded.length ≤ (socket.buffer ++ segment).length
    · obtain ⟨step, kept⟩ := complete there
      have counted : min (count + 1)
          (completed packets (segments ++ [segment]).flatten.length) = count + 1 := by
        rw [count_eq, completed, if_pos there]
        omega
      rw [counted]
      refine ⟨more, ?_, ?_, space⟩
      · rw [extended, reports, step, taken, map_append]
        rfl
      · rw [arrived, next, ← kept, taken, stream, flatMap_append, append_assoc,
          flatMap_singleton]
        rfl
    · obtain ⟨step, kept⟩ := incomplete (Nat.lt_of_not_le there)
      have counted : min (count + 1)
          (completed packets (segments ++ [segment]).flatten.length) = count := by
        rw [count_eq, completed, if_neg there]
        omega
      rw [counted]
      refine ⟨known, ?_, ?_, space⟩
      · rw [extended, step, reports]
        simp
      · rw [arrived, next, kept]

def deliveredCount (packets : List LANPacket) (segments : List Bytes) : Nat → Nat
  | 0 => 0
  | rounds + 1 =>
    min (deliveredCount packets segments rounds + 1)
      (completed packets (segments.take (rounds + 1)).flatten.length)

/-- Every segmentation stays framed, by induction on the number of segments. -/
theorem Segmentation.framed {segments : List Bytes} (fits : ∀ packet ∈ packets, packet.Fits)
    (segmentation : Segmentation packets segments) {rounds : Nat}
    (within : rounds ≤ segments.length)
    : Framed packets (segments.take rounds) (deliveredCount packets segments rounds) := by
  induction rounds with
  | zero => exact ⟨Nat.zero_le _, rfl, rfl, by rw [take_zero]; decide⟩
  | succ rounds ih =>
    have framed := ih (Nat.le_of_succ_le within)
    have taken : segments.take (rounds + 1) = segments.take rounds ++ [segments[rounds]] :=
      take_succ_eq_append_getElem within
    have front : Segmentation packets (segments.take (rounds + 1)) := by
      rw [← take_append_drop (rounds + 1) segments] at segmentation
      exact segmentation.of_append
    rw [taken] at front
    simp only [deliveredCount, taken]
    exact framed.concat fits front

/-- Stream framing never loses or corrupts. At every moment of every segmentation, the
delivered packets are the first packets sent, their encodings and the buffer make up the
octets received, and the next `recvfrom` is offered space.
-/
theorem recvPacket_framed {packets : List LANPacket} (fits : ∀ packet ∈ packets, packet.Fits)
    {segments : List Bytes} (segmentation : Segmentation packets segments)
    {before after : List Bytes} (moment : segments = before ++ after)
    : ∃ count, Framed packets before count := by
  subst moment
  have framed := segmentation.of_append.framed fits (Nat.le_refl _)
  rw [List.take_length] at framed
  exact ⟨_, framed⟩

def twoScans : List LANPacket := [⟨.scan, []⟩, ⟨.scan, []⟩]

theorem twoScans_fits : ∀ packet ∈ twoScans, packet.Fits := by
  intro packet member
  have same : packet = ⟨.scan, []⟩ := by simpa [twoScans] using member
  subst same
  exact ⟨by decide, by decide⟩

/-- The first packet and eight octets of the second, then the rest. -/
theorem twoScans_segmentation
    : Segmentation twoScans [(stream twoScans).take 20, (stream twoScans).drop 20] where
  front := by decide
  nonempty := by decide
  offered := by
    intro before segment after split
    match before, split with
    | [], split =>
      cases split
      decide
    | [_], split =>
      cases split
      decide
    | _ :: _ :: before, split =>
      have length := congrArg List.length split
      simp at length

theorem recvPacket_framed_twoScans
    : ∃ count, Framed twoScans [(stream twoScans).take 20] count :=
  recvPacket_framed twoScans_fits twoScans_segmentation rfl

def oversized : LANPacket := ⟨.scan, replicate 2049 0⟩

/-- The packet of 2049 zeros encodes to 30 octets, but its data does not fit the receiver's
buffer: the receiver takes the packet and reports a failure.
-/
theorem recvPacket_oversized
    : oversized.encoded.length ≤ bufferSize
      ∧ Segmentation [oversized] [oversized.encoded]
      ∧ ¬ ∃ count, Framed [oversized] [oversized.encoded] count := by
  have length : oversized.encoded.length = 30 := by decide +kernel
  have lost : delivered [oversized.encoded] = [.returned (-1)] := by decide +kernel
  refine ⟨by rw [length]; decide, ⟨by simp [stream], ?_, ?_⟩, ?_⟩
  · intro segment member
    rw [List.mem_singleton.mp member, ← List.length_pos_iff, length]
    decide
  · intro before segment after split
    cases before with
    | nil =>
      rw [← (List.cons.inj split).1, length]
      decide
    | cons first before =>
      have total := congrArg List.length split
      simp at total
  · rintro ⟨count, framed⟩
    have reported := framed.delivered
    rw [lost] at reported
    match count, reported with
    | 0, reported => cases reported
    | _ + 1, reported => cases reported

-- One packet for each read event

theorem completed_le_length (packets : List LANPacket) (received : Nat)
    : completed packets received ≤ packets.length := by
  induction packets generalizing received with
  | nil => exact Nat.le_refl 0
  | cons packet rest ih =>
    rw [completed]
    split
    · exact Nat.succ_le_succ (ih _)
    · exact Nat.zero_le _

/-- Without octets no packet is complete. -/
theorem completed_zero (fits : ∀ packet ∈ packets, packet.Fits) : completed packets 0 = 0 := by
  cases packets with
  | nil => rfl
  | cons packet rest =>
    have data := (fits packet (.head _)).data
    have minimum := (sendPacket_spec packet.type data).1.headerSize_le
    rw [completed, if_neg]
    exact Nat.not_le_of_lt (Nat.lt_of_lt_of_le (by decide) minimum)

/-- The deliveries follow the completed packets by one packet for each segment. -/
theorem deliveredCount_follows (fits : ∀ packet ∈ packets, packet.Fits) (segments : List Bytes)
    : Follows (fun rounds => completed packets (segments.take rounds).flatten.length)
        (deliveredCount packets segments) where
  start := (completed_zero fits).symm
  round := fun _ => rfl

/-- From no segment on do more packets become complete than segments arrive. -/
def Paced (packets : List LANPacket) (segments : List Bytes) : Prop :=
  ∀ j ≤ segments.length,
    completed packets segments.flatten.length
    ≤ completed packets (segments.take j).flatten.length + (segments.length - j)

/-- All packets that are completely received have been delivered. -/
def NoneLeftBehind (packets : List LANPacket) (segments : List Bytes) : Prop :=
  delivered segments
  = (packets.take (completed packets segments.flatten.length)).map LANPacket.outcome

/-- After the read event of the last segment no complete packet is left in the buffer
exactly when the segmentation is paced.
-/
theorem noneLeftBehind_iff_paced {packets : List LANPacket}
    (fits : ∀ packet ∈ packets, packet.Fits) {segments : List Bytes}
    (segmentation : Segmentation packets segments)
    : NoneLeftBehind packets segments ↔ Paced packets segments := by
  have framed := segmentation.framed fits (Nat.le_refl _)
  have paced := (deliveredCount_follows fits segments).served_eq_iff segments.length
  rw [List.take_length] at framed paced
  unfold NoneLeftBehind Paced
  rw [← paced, framed.delivered]
  constructor
  · intro same
    have lengths := congrArg List.length same
    rwa [List.length_map, List.length_map, List.length_take, List.length_take,
      Nat.min_eq_left framed.count_le,
      Nat.min_eq_left (completed_le_length packets _)] at lengths
  · intro same
    rw [same]

theorem noneLeftBehind_iff_paced_twoScans
    : NoneLeftBehind twoScans [(stream twoScans).take 20, (stream twoScans).drop 20]
      ∧ Paced twoScans [(stream twoScans).take 20, (stream twoScans).drop 20] := by
  have iff := noneLeftBehind_iff_paced twoScans_fits twoScans_segmentation
  have held : NoneLeftBehind twoScans
      [(stream twoScans).take 20, (stream twoScans).drop 20] := by
    unfold NoneLeftBehind
    decide
  exact ⟨held, iff.mp held⟩

/-- Two packets in one segment: the second is complete and stays in the buffer. -/
theorem coalesced_left_behind : ¬ NoneLeftBehind twoScans [stream twoScans] := by
  unfold NoneLeftBehind
  decide

end SwitchLanPlay.LdnMitm
