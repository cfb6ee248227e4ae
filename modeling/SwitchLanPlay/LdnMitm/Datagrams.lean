import SwitchLanPlay.Foundation.Machine
import SwitchLanPlay.LdnMitm.Protocol

/-! LDN packets as UDP datagrams. The UDP socket collects octets in the same buffer as a TCP
socket, so what one datagram leaves behind stands in front of the next one.
-/

namespace SwitchLanPlay.LdnMitm

open Foundation

/-- The LDN UDP socket: `LDUdpSocket::onRead` calls `recvPacket` once for each datagram. -/
def udpReceiver : Machine LanSocket Bytes Outcome :=
  ⟨fun socket datagram => socket.recvPacket (.ok datagram)⟩

def socketAfter (before : List Bytes) : LanSocket := udpReceiver.run .empty before

/-- After every datagram the buffer is empty, and every valid one was delivered by the call
that received it.
-/
def Independent (datagrams : List Bytes) : Prop :=
  ∀ before datagram after,
    datagrams = before ++ datagram :: after
    → (socketAfter (before ++ [datagram])).buffer = []
      ∧ (IsPacket datagram
        → (udpReceiver.step (socketAfter before) datagram).2 = decodePacket datagram)

/-- A datagram that leaves nothing in an empty buffer: it has no octets, or it has a whole
header that is refused for its magic number or its size, or that gives its exact length.
-/
def LeavesNothing (datagram : Bytes) : Prop :=
  datagram = []
  ∨ (headerSize ≤ datagram.length
    ∧ ((readLANPacketHeader datagram).magic ≠ lanMagic
      ∨ bufferSize < headerSize + (readLANPacketHeader datagram).length
      ∨ datagram.length = headerSize + (readLANPacketHeader datagram).length))

instance (datagram : Bytes) : Decidable (LeavesNothing datagram) := by
  unfold LeavesNothing
  infer_instance

/-- An empty buffer stays empty exactly when the datagram leaves nothing.
Witness: the branches of `recvPartPacket`, of which the last drops the length the header
gives.
-/
theorem recvPacket_empty_buffer_iff {datagram : Bytes} (size : datagram.length ≤ bufferSize)
    : (LanSocket.empty.recvPacket (.ok datagram)).1.buffer = [] ↔ LeavesNothing datagram := by
  have space : LanSocket.empty.space = bufferSize := rfl
  have taken : datagram.take bufferSize = datagram := List.take_of_length_le size
  have filled : (LanSocket.empty.fill datagram).buffer = datagram := by
    simp only [LanSocket.fill, space, taken]
    rfl
  simp only [LanSocket.recvPacket, LanSocket.recvPartPacket, space, taken, filled,
    LeavesNothing]
  by_cases blank : datagram = []
  · simp [blank, LanSocket.empty]
  have some_ : 0 < datagram.length := List.length_pos_iff.mpr blank
  simp only [blank, if_false, false_or]
  split
  · rename_i short
    simp only [filled, blank, false_iff]
    omega
  rename_i long
  split
  · rename_i refused
    exact iff_of_true rfl ⟨Nat.le_of_not_lt long, Or.inl refused⟩
  rename_i magic
  split
  · rename_i oversized
    exact iff_of_true rfl ⟨Nat.le_of_not_lt long, Or.inr (Or.inl oversized)⟩
  rename_i fits
  split
  · rename_i incomplete
    simp only [filled, blank, false_iff]
    omega
  · rename_i complete
    simp only [LanSocket.discard, filled, List.drop_eq_nil_iff]
    omega

/-- Datagrams that leave nothing keep the buffer empty. -/
theorem socketAfter_eq_empty {before : List Bytes}
    (sizes : ∀ datagram ∈ before, datagram.length ≤ bufferSize)
    (nothing : ∀ datagram ∈ before, LeavesNothing datagram)
    : socketAfter before = .empty := by
  induction before using List.reverseRecOn with
  | nil => rfl
  | append_singleton earlier datagram ih =>
    have here : datagram ∈ earlier ++ [datagram] :=
      List.mem_append_right _ (List.mem_singleton_self _)
    have empty : socketAfter earlier = .empty :=
      ih (fun other member => sizes other (List.mem_append_left _ member))
        (fun other member => nothing other (List.mem_append_left _ member))
    unfold socketAfter at empty ⊢
    rw [Machine.run_concat, empty]
    exact LanSocket.ext
      ((recvPacket_empty_buffer_iff (sizes datagram here)).mpr (nothing datagram here))

/-- Datagrams are received independently of each other exactly when each of them leaves
nothing in an empty buffer.
Witness: up to the first that leaves something every call starts with an empty buffer.
-/
theorem independent_iff {datagrams : List Bytes}
    (sizes : ∀ datagram ∈ datagrams, datagram.length ≤ bufferSize)
    : Independent datagrams ↔ ∀ datagram ∈ datagrams, LeavesNothing datagram := by
  constructor
  · intro independent datagram member
    obtain ⟨before, after, split⟩ := List.append_of_mem member
    -- the buffer was empty before this datagram, as it is after every datagram
    have empty : socketAfter before = .empty := by
      cases before using List.reverseRecOn with
      | nil => rfl
      | append_singleton earlier last =>
        exact LanSocket.ext
          (independent earlier last (datagram :: after) (by simp [split])).1
    have emptied := (independent before datagram after split).1
    unfold socketAfter at emptied empty
    rw [Machine.run_concat, empty] at emptied
    exact (recvPacket_empty_buffer_iff (sizes datagram member)).mp emptied
  · rintro nothing before datagram after rfl
    have front : ∀ other ∈ before ++ [datagram], other ∈ before ++ datagram :: after := by
      intro other member
      rw [List.append_cons]
      exact List.mem_append_left _ member
    refine ⟨?_, ?_⟩
    · rw [socketAfter_eq_empty (fun other member => sizes other (front other member))
        (fun other member => nothing other (front other member))]
      rfl
    · intro valid
      have empty : socketAfter before = .empty :=
        socketAfter_eq_empty
          (fun other member => sizes other (List.mem_append_left _ member))
          (fun other member => nothing other (List.mem_append_left _ member))
      rw [empty]
      have fits := sizes datagram (List.mem_append_right _ (List.mem_cons_self ..))
      exact congrArg Prod.snd (recvPacket_whole valid fits)

/-- Two scans, an empty datagram and a datagram of zeros. -/
theorem independent_scans
    : Independent
        [sendPacket .scan [], [], List.replicate 20 0, sendPacket .scan []] :=
  (independent_iff (by decide)).mpr (by decide)

/-- Five octets stay in the buffer, and the valid scan behind them is not delivered. -/
theorem not_independent_short
    : IsPacket (sendPacket .scan [])
      ∧ (udpReceiver.step (socketAfter [[1, 2, 3, 4, 5]]) (sendPacket .scan [])).2
        ≠ decodePacket (sendPacket .scan [])
      ∧ ¬ Independent [[1, 2, 3, 4, 5], sendPacket .scan []] := by
  have lost : (udpReceiver.step (socketAfter [[1, 2, 3, 4, 5]]) (sendPacket .scan [])).2
      ≠ decodePacket (sendPacket .scan []) := by decide
  have valid : IsPacket (sendPacket .scan []) := ⟨by decide, by decide⟩
  refine ⟨valid, lost, ?_⟩
  intro independent
  exact lost ((independent [[1, 2, 3, 4, 5]] (sendPacket .scan []) [] rfl).2 valid)

end SwitchLanPlay.LdnMitm
