import SwitchLanPlay.Client.Fragment
import SwitchLanPlay.Server.Confidentiality

/-! A packet that the client cuts into fragments, at a relay without logins: where its
fragments go, compared with the packet in one piece.
-/

namespace SwitchLanPlay.Server

open List
open Foundation
open Packet
open Client

variable {packet : Bytes} {server : SLPServer} {rinfo : AddressInfo} {peer : PeerId}

def messagesFrom (rinfo : AddressInfo) (arrivals : List (Nat × Bytes)) : List Event :=
  arrivals.map (fun arrival => .message arrival.1 arrival.2 rinfo)

/-- The addresses to which the relay sends the packet when it arrives in one piece. -/
def SLPServer.wholeRecipients (server : SLPServer) (now : Nat) (rinfo : AddressInfo)
    (packet : Bytes)
    : List AddressInfo :=
  (server.onMessage false now (LanClientType.ipv4.toByte :: packet) rinfo).2.map Sent.rinfo

/-- Every datagram goes unchanged to the addresses that would get the packet in one piece,
and the source address ends up bound to the same peer.
-/
structure SLPServer.RelaysLike (server : SLPServer) (now : Nat) (rinfo : AddressInfo)
    (packet : Bytes) (arrivals : List (Nat × Bytes))
    : Prop where
  forwarded
    : (relay false).outputs server (messagesFrom rinfo arrivals)
      = arrivals.map
          (fun arrival =>
            (server.wholeRecipients now rinfo packet).map
              (fun recipient => ⟨recipient, arrival.2⟩))
  learned
    : (((relay false).run server (messagesFrom rinfo arrivals)).ipCache.get?
          (readInt32BE packet ipv4OffSrc)).map CacheItem.peer
      = ((server.onMessage false now (LanClientType.ipv4.toByte :: packet) rinfo).1.ipCache.get?
          (readInt32BE packet ipv4OffSrc)).map CacheItem.peer

/-- No part of the packet is as short as the relay's length check refuses: there is one
part, or the last part has more than four octets.
-/
def PartsPass (length pmtu : Nat) : Prop := length ≤ pmtu ∨ length % pmtu = 0 ∨ 4 < length % pmtu

/-- The relay has nobody to send the packet to: its destination is another address and not
cached, and no other peer is registered.
-/
def SLPServer.NobodyElse (server : SLPServer) (rinfo : AddressInfo) (packet : Bytes) : Prop :=
  readInt32BE packet ipv4OffDst ≠ readInt32BE packet ipv4OffSrc
  ∧ server.ipCache.get? (readInt32BE packet ipv4OffDst) = none
  ∧ server.all rinfo = []

-- The datagrams of a packet

/-- A datagram that carries the addresses of the packet where the relay looks for them, when
it is long enough.
-/
structure IsPart (packet datagram : Bytes) : Prop where
  head : datagram.head? = some 1 ∨ datagram.head? = some 3
  addresses
    : addresses? datagram
      = if datagram.tail.length ≤ 20 then none
        else some (readInt32BE packet ipv4OffSrc, readInt32BE packet ipv4OffDst)

theorem isPart_whole (packet : Bytes) : IsPart packet (LanClientType.ipv4.toByte :: packet) := by
  refine ⟨Or.inl rfl, ?_⟩
  have type : (parseHead LanClientType.ipv4.toByte).1 = some .ipv4 := by decide
  simp only [addresses?, type]
  rfl

theorem isPart_fragment (packet : Bytes) (pmtu id i pos : Nat)
    : IsPart packet (fragmentDatagram packet pmtu id i pos) := by
  refine ⟨Or.inr rfl, ?_⟩
  have type : (parseHead LanClientType.ipv4Frag.toByte).1 = some .ipv4Frag := by decide
  simp only [fragmentDatagram, addresses?, type]
  rfl

theorem length_tail_fragmentDatagram {pmtu id i pos : Nat}
    : (fragmentDatagram packet pmtu id i pos).tail.length
      = 16 + min pmtu (packet.length - pos) := by
  simp only [fragmentDatagram, tail_cons, length_append,
    LanClientFragmentHeader.toBytes_length, slice_length, lcFragHeaderLen]
  omega

/-- The parts start at the multiples of the path MTU, and all of them have more than four
octets exactly when the last one has.
-/
theorem parts_long_iff {length pmtu : Nat} (minimum : 4 < pmtu) (long : pmtu < length)
    : (∀ j, j * pmtu < length → 4 < min pmtu (length - j * pmtu)) ↔ PartsPass length pmtu := by
  have whole := Nat.div_add_mod length pmtu
  rw [Nat.mul_comm] at whole
  have rest := Nat.mod_lt length (Nat.lt_of_le_of_lt (Nat.zero_le 4) minimum)
  constructor
  · intro all
    rcases Nat.eq_zero_or_pos (length % pmtu) with even | odd
    · exact Or.inr (Or.inl even)
    · have last := all (length / pmtu) (by omega)
      exact Or.inr (Or.inr (by omega))
  · intro pass j inside
    have more : 4 < length - j * pmtu := by
      have bounded : j ≤ length / pmtu := by
        rw [Nat.le_div_iff_mul_le (by omega)]
        omega
      rcases Nat.lt_or_eq_of_le bounded with before | last
      · have next : (j + 1) * pmtu ≤ length / pmtu * pmtu := Nat.mul_le_mul_right pmtu before
        rw [Nat.succ_mul] at next
        omega
      · subst last
        rcases pass with single | even | odd <;> omega
    omega

/-- What `lan_client_send` emits for the packet are parts of it. The first is never short,
and none is exactly when the parts pass.
-/
theorem datagrams_parts {sender : LanClientSender} (minimum : 500 ≤ sender.pmtu)
    (length : 20 < packet.length)
    : (∀ datagram ∈ (lanClientSend (fun _ => 0) sender .ipv4 packet).datagrams,
        IsPart packet datagram)
      ∧ (∃ datagram ∈ (lanClientSend (fun _ => 0) sender .ipv4 packet).datagrams,
          20 < datagram.tail.length)
      ∧ ((∀ datagram ∈ (lanClientSend (fun _ => 0) sender .ipv4 packet).datagrams,
            20 < datagram.tail.length)
          ↔ PartsPass packet.length sender.pmtu) := by
  have positive : 0 < sender.pmtu := by omega
  by_cases long : sender.pmtu < packet.length
  · rw [lanClientSend_fragments positive long]
    simp only [mem_map, mem_range, lt_totalPart_iff positive, forall_exists_index,
      and_imp, forall_apply_eq_imp_iff₂, length_tail_fragmentDatagram]
    refine ⟨fun j _ => isPart_fragment .., ?_, ?_⟩
    · refine ⟨_, ⟨0, by omega, rfl⟩, ?_⟩
      rw [length_tail_fragmentDatagram]
      omega
    · rw [← parts_long_iff (by omega) long]
      refine forall_congr' (fun j => imp_congr_right (fun inside => ?_))
      omega
  · have single : ¬ 1 < totalPart packet.length sender.pmtu := by
      rw [lt_totalPart_iff positive]
      omega
    have whole : (lanClientSend (fun _ => 0) sender .ipv4 packet).datagrams
        = [LanClientType.ipv4.toByte :: packet] := by
      simp only [lanClientSend, single, and_false, if_false, if_true]
    rw [whole]
    simp only [mem_singleton, forall_eq, exists_eq_left, tail_cons]
    refine ⟨isPart_whole packet, length, iff_of_true length (Or.inl (by omega))⟩

-- Relaying them one after the other

/-- The sender is registered, and its messages with the packet's addresses go to these
recipients.
-/
structure SLPServer.Routes (server : SLPServer) (rinfo : AddressInfo) (peer : PeerId)
    (src dst : Int) (recipients : List AddressInfo)
    : Prop where
  registered : server.Registered rinfo peer
  own : (server.peers peer).rinfo = rinfo
  recipients : server.recipients peer src dst = recipients

/-- Finding the sender and learning its address again changes no route. -/
theorem SLPServer.Routes.kept {next : SLPServer} {src dst : Int} {recipients : List AddressInfo}
    (routes : server.Routes rinfo peer src dst recipients) {now : Nat}
    (manager : next.manager = (server.get now rinfo).1.manager) (peers : next.peers = server.peers)
    (cache : ∀ address, address ≠ src → next.ipCache.get? address = server.ipCache.get? address)
    : next.Routes rinfo peer src dst recipients := by
  obtain ⟨⟨item, found, rfl⟩, own, sent⟩ := routes
  simp only [get, found] at manager
  have again : next.manager.get? rinfo = some ⟨now + timeout, item.peer⟩ := by
    rw [manager, OrderedMap.get?_set, if_pos rfl]
  refine ⟨⟨_, again, rfl⟩, by rw [peers, own], ?_⟩
  rw [← sent]
  unfold SLPServer.recipients
  by_cases self : dst = src
  · simp only [if_pos self, peers]
  · simp only [if_neg self, cache dst self, peers, own, all, manager,
      OrderedMap.set_filter_ne]

/-- One part from the sender: it is forwarded and its source is learned when it is long
enough, and it is dropped when it is not. The routes stay.
-/
theorem SLPServer.Routes.step {recipients : List AddressInfo}
    (routes : server.Routes rinfo peer (readInt32BE packet ipv4OffSrc)
      (readInt32BE packet ipv4OffDst) recipients)
    {datagram : Bytes} (part : IsPart packet datagram) (now : Nat)
    : (server.onMessage false now datagram rinfo).1.Routes rinfo peer
          (readInt32BE packet ipv4OffSrc) (readInt32BE packet ipv4OffDst) recipients
      ∧ (server.onMessage false now datagram rinfo).2
        = (if datagram.tail.length ≤ 20 then []
          else recipients.map (fun recipient => ⟨recipient, datagram⟩))
      ∧ ((server.onMessage false now datagram rinfo).1.ipCache.get?
            (readInt32BE packet ipv4OffSrc)).map CacheItem.peer
        = (if datagram.tail.length ≤ 20 then
            (server.ipCache.get? (readInt32BE packet ipv4OffSrc)).map CacheItem.peer
          else some peer) := by
  obtain ⟨firstByte, payload, rfl, plain⟩ :
      ∃ firstByte payload, datagram = firstByte :: payload ∧ (firstByte = 1 ∨ firstByte = 3) := by
    cases datagram with
    | nil => simpa using part.head
    | cons firstByte payload => exact ⟨firstByte, payload, rfl, by simpa using part.head⟩
  obtain ⟨same, peers⟩ := get_of_registered routes.registered now
  have cache : (server.get now rinfo).1.ipCache = server.ipCache := by
    obtain ⟨item, found, _⟩ := routes.registered
    simp only [get, found]
  by_cases short : (firstByte :: payload).tail.length ≤ 20
  · have dropped : server.onMessage false now (firstByte :: payload) rinfo
        = ((server.get now rinfo).1, []) := by
      rw [tail_cons] at short
      rcases plain with rfl | rfl <;>
        simp [onMessage, parseHead, ForwarderType.ofNat?, onPacket,
          onIpv4, onIpv4Frag, short]
    simp only [dropped, if_pos short, cache, and_true]
    exact routes.kept rfl peers (fun _ _ => by rw [cache])
  · have relayable := part.addresses
    rw [if_neg short] at relayable
    obtain ⟨type, head, _, handled⟩ := onMessage_eq_forward routes.registered
      (fun impossible => absurd impossible Bool.false_ne_true) relayable now
    have octet : type.toByte = firstByte := by
      rcases plain with rfl | rfl <;> cases head <;> rfl
    rw [handled, forward_sent routes.registered routes.own, forward_learns,
      octet, routes.recipients, cache]
    simp only [if_neg short, OrderedMap.get?_set, if_true, Option.map_some, and_true]
    refine routes.kept rfl peers ?_
    intro address other
    simp only [OrderedMap.get?_set, if_neg other]

/-- Parts from the sender, one after the other: each goes to the recipients unless it is
short, and the source is bound once one was not short.
Witness: every part leaves the routes as they were.
-/
theorem SLPServer.Routes.run {recipients : List AddressInfo}
    (routes : server.Routes rinfo peer (readInt32BE packet ipv4OffSrc)
      (readInt32BE packet ipv4OffDst) recipients)
    {arrivals : List (Nat × Bytes)} (parts : ∀ arrival ∈ arrivals, IsPart packet arrival.2)
    : (relay false).outputs server (messagesFrom rinfo arrivals)
        = arrivals.map
            (fun arrival =>
              if arrival.2.tail.length ≤ 20 then []
              else recipients.map (fun recipient => ⟨recipient, arrival.2⟩))
      ∧ ((∃ arrival ∈ arrivals, 20 < arrival.2.tail.length)
          ∨ (server.ipCache.get? (readInt32BE packet ipv4OffSrc)).map CacheItem.peer = some peer
        → (((relay false).run server (messagesFrom rinfo arrivals)).ipCache.get?
            (readInt32BE packet ipv4OffSrc)).map CacheItem.peer = some peer) := by
  induction arrivals generalizing server with
  | nil => exact ⟨rfl, fun bound => bound.resolve_left (by simp)⟩
  | cons arrival rest ih =>
    obtain ⟨now, datagram⟩ := arrival
    obtain ⟨next, sent, learned⟩ := routes.step (parts _ (mem_cons_self ..)) now
    obtain ⟨outputs, bound⟩ := ih next (fun other member => parts other (mem_cons_of_mem _ member))
    refine ⟨?_, ?_⟩
    · change (server.onMessage false now datagram rinfo).2
        :: (relay false).outputs (server.onMessage false now datagram rinfo).1
          (messagesFrom rinfo rest) = _
      rw [outputs, sent]
      rfl
    · intro earlier
      refine bound ?_
      change _ ∨ ((server.onMessage false now datagram rinfo).1.ipCache.get?
        (readInt32BE packet ipv4OffSrc)).map CacheItem.peer = some peer
      rw [learned]
      rcases earlier with ⟨other, member, long⟩ | already
      · rcases mem_cons.mp member with rfl | later
        · exact Or.inr (if_neg (Nat.not_le_of_lt long))
        · exact Or.inl ⟨other, later, long⟩
      · right
        split
        · exact already
        · rfl

/-- The recipients are none exactly when there is nobody else. -/
theorem SLPServer.recipients_eq_nil_iff (own : (server.peers peer).rinfo = rinfo) (packet : Bytes)
    : server.recipients peer (readInt32BE packet ipv4OffSrc) (readInt32BE packet ipv4OffDst) = []
      ↔ server.NobodyElse rinfo packet := by
  unfold recipients SLPServer.NobodyElse
  by_cases self : readInt32BE packet ipv4OffDst = readInt32BE packet ipv4OffSrc
  · simp [self]
  · cases server.ipCache.get? (readInt32BE packet ipv4OffDst) with
    | some item => simp [self]
    | none => simp [self, own]

/-- Fragments are relayed like the packet they came from exactly when none of them is too
short for the relay's check, or there is nobody to send them to.
Witness: the check, which is meant for whole packets, drops a part of at most four octets.
-/
theorem relaysLike_iff (history : List Event) {rinfo : AddressInfo} {peer : PeerId}
    (registered : (serverAfter false history).Registered rinfo peer)
    {sender : LanClientSender} (minimum : 500 ≤ sender.pmtu) {packet : Bytes}
    (length : 20 < packet.length) (now : Nat) {arrivals : List (Nat × Bytes)}
    (sent
      : arrivals.map Prod.snd = (lanClientSend (fun _ => 0) sender .ipv4 packet).datagrams)
    : (serverAfter false history).RelaysLike now rinfo packet arrivals
      ↔ PartsPass packet.length sender.pmtu
        ∨ (serverAfter false history).NobodyElse rinfo packet := by
  obtain ⟨parts, ⟨_, present, long⟩, pass⟩ := datagrams_parts minimum length
  rw [← sent] at parts present pass
  have own := (serverAfter_registered false history registered).2
  generalize serverAfter false history = server at registered own ⊢
  have routes : server.Routes rinfo peer (readInt32BE packet ipv4OffSrc)
      (readInt32BE packet ipv4OffDst) _ := ⟨registered, own, rfl⟩
  obtain ⟨_, wholeSent, wholeLearned⟩ := routes.step (isPart_whole packet) now
  rw [if_neg (by simpa using length)] at wholeSent wholeLearned
  have recipients : server.wholeRecipients now rinfo packet
      = server.recipients peer (readInt32BE packet ipv4OffSrc)
          (readInt32BE packet ipv4OffDst) := by
    rw [SLPServer.wholeRecipients, wholeSent, List.map_map]
    exact List.map_id _
  have nobody := SLPServer.recipients_eq_nil_iff own packet
  generalize server.recipients peer (readInt32BE packet ipv4OffSrc)
    (readInt32BE packet ipv4OffDst) = chosen at *
  obtain ⟨outputs, bound⟩ := routes.run
    (fun arrival member => parts _ (List.mem_map_of_mem member))
  obtain ⟨first, member, rfl⟩ := List.mem_map.mp present
  rw [← pass, ← nobody]
  constructor
  · rintro ⟨forwarded, _⟩
    rw [outputs, recipients] at forwarded
    by_cases some_ : chosen = []
    · exact Or.inr some_
    · refine Or.inl ?_
      intro datagram listed
      obtain ⟨arrival, arrived, rfl⟩ := List.mem_map.mp listed
      by_contra short
      have here := List.map_inj_left.mp forwarded arrival arrived
      rw [if_pos (Nat.le_of_not_lt short)] at here
      exact some_ (List.map_eq_nil_iff.mp here.symm)
  · intro condition
    refine ⟨?_, (bound (Or.inl ⟨first, member, long⟩)).trans wholeLearned.symm⟩
    rw [outputs, recipients]
    refine List.map_congr_left (fun arrival arrived => ?_)
    rcases condition with all | none
    · exact if_neg (Nat.not_le_of_lt (all _ (List.mem_map_of_mem arrived)))
    · rw [none]
      simp

def twoHosts : List Event := [.message 0 [0] hostA, .message 0 [0] hostB]

def packetToUnknown (length : Nat) : Bytes :=
  replicate 16 0 ++ [1, 1, 1, 1] ++ replicate (length - 20) 0

def fragmentsToUnknown (length : Nat) : List (Nat × Bytes) :=
  (lanClientSend (fun _ => 0) ⟨500, 0⟩ .ipv4 (packetToUnknown length)).datagrams.map
    (fun datagram => (1, datagram))

/-- Two parts of 500 octets are relayed. -/
theorem relaysLike_thousand
    : (serverAfter false twoHosts).RelaysLike 1 hostA (packetToUnknown 1000)
        (fragmentsToUnknown 1000) := by
  have registered : (serverAfter false twoHosts).Registered hostA 0 :=
    ⟨⟨30000, 0⟩, by decide, rfl⟩
  have length : (packetToUnknown 1000).length = 1000 := by
    simp only [packetToUnknown, List.length_append, List.length_replicate, List.length_cons,
      List.length_nil]
  have sent : (fragmentsToUnknown 1000).map Prod.snd
      = (lanClientSend (fun _ => 0) ⟨500, 0⟩ .ipv4 (packetToUnknown 1000)).datagrams := by
    rw [fragmentsToUnknown, List.map_map]
    exact List.map_id _
  refine (relaysLike_iff twoHosts registered (Nat.le_refl 500) (by rw [length]; decide) 1
    sent).mpr (Or.inl ?_)
  rw [length]
  exact Or.inr (Or.inl rfl)

/-- Host B gets the packet of 501 octets in one piece, but not the last octet of it when it
is cut.
-/
theorem last_octet_dropped
    : (serverAfter false twoHosts).wholeRecipients 1 hostA (packetToUnknown 501) = [hostB]
      ∧ ((relay false).outputs (serverAfter false twoHosts)
          (messagesFrom hostA (fragmentsToUnknown 501))).map List.length = [1, 0]
      ∧ ¬ (serverAfter false twoHosts).RelaysLike 1 hostA (packetToUnknown 501)
          (fragmentsToUnknown 501) := by
  have whole : (serverAfter false twoHosts).wholeRecipients 1 hostA (packetToUnknown 501)
      = [hostB] := by decide +kernel
  have counts : ((relay false).outputs (serverAfter false twoHosts)
      (messagesFrom hostA (fragmentsToUnknown 501))).map List.length = [1, 0] := by
    decide +kernel
  have two : (fragmentsToUnknown 501).length = 2 := by decide +kernel
  refine ⟨whole, counts, ?_⟩
  rintro ⟨forwarded, _⟩
  rw [forwarded, whole, List.map_map] at counts
  have ones : (fragmentsToUnknown 501).map (fun _ => 1) = [1, 0] := counts
  rw [List.map_const', two] at ones
  exact absurd ones (by decide)

end SwitchLanPlay.Server
