import SwitchLanPlay.Packet.Accesses
import SwitchLanPlay.Sysmodule.Delivery
import SwitchLanPlay.Sysmodule.Pipeline

/-! Which octets the sysmodule passes on for a captured datagram, by the place in the frame they
are taken from. The length is the one in the IP header, and nothing compares it with what
`recvfrom` returned, so it may reach into older octets and behind `frame_buf`.
-/

namespace SwitchLanPlay.Sysmodule

open List
open Foundation
open Packet
open Client (HandedPacket LanClientSender LanClientType SendOutcome echoReply)

variable {left right : Memory}

/-- Where octets that are passed on come from. -/
inductive Piece where
  /-- Written by the sysmodule. -/
  | made (octets : Bytes)
  /-- Octets of the frame as they are. -/
  | taken (offset len : Nat)
  /-- What `process_icmp` makes of octets of the frame. -/
  | replied (offset len : Nat)
  deriving DecidableEq, Repr

def Piece.octets (frame : Memory) : Piece → Bytes
  | .made octets => octets
  | .taken offset len => (frame.shift offset).read len
  | .replied offset len => echoReply ((frame.shift offset).read len)

/-- No octet of the frame is used but the `received` ones behind its header. -/
def Piece.IsCaptured (received : Nat) : Piece → Prop
  | .made _ => True
  | .taken offset len | .replied offset len =>
    len = 0 ∨ (etherHeaderLen ≤ offset ∧ offset + len ≤ etherHeaderLen + received)

/-- A call that passes data on: of `lan_client_send_ipv4` with a place in the frame, or of
`send_ether`.
-/
inductive Handover where
  | relay (dst : Ipv4Addr) (offset len : Nat)
  | frame (dst : MacAddr) (type : Nat) (payload : List Piece)
  deriving DecidableEq, Repr

/-- What a call passes on. The header of the parts of a packet repeats its addresses. -/
def Handover.pieces (pmtu : Nat) : Handover → List Piece
  | .relay _ offset len =>
    .taken offset len
      :: if 0 < pmtu ∧ pmtu % 65536 < len then
        [.taken (offset + ipv4OffSrc) 4, .taken (offset + ipv4OffDst) 4]
      else []
  | .frame _ _ payload => payload

def Handover.handed (frame : Memory) : Handover → List HandedPacket
  | .relay dst offset len => [⟨dst, frame.shift offset, len⟩]
  | .frame _ _ _ => []

def Handover.sent (ctx : PacketCtx) (frame : Memory) : Handover → List Bytes
  | .relay _ _ _ => []
  | .frame dst type payload => (sendEther ctx dst type (payload.map (Piece.octets frame))).toList

def icmpHandovers (ctx : PacketCtx) (now : Nat) (ipv4 : Ipv4) : List Handover :=
  let icmpLen := ipv4.totalLen - ipv4.headerLen
  if ipv4.totalLen ≤ ipv4.headerLen ∨ bufferSize < icmpLen then []
  else
    match findLease ctx.arpList now ipv4.src with
    | none =>
      [.frame broadcastMac etherTypeArp
        [.made (arpBytes arpOpcodeRequest ctx.mac ctx.ip noneMac ipv4.src)]]
    | some item =>
      let totalLen := ipv4HeaderLen + icmpLen % 65536
      let cleared := ipv4Header totalLen ctx.identification ipv4ProtocolIcmp 0 ctx.ip ipv4.src
      [.frame item.value etherTypeIpv4
        [.made (ipv4Header totalLen ctx.identification ipv4ProtocolIcmp (calcChecksum cleared)
            ctx.ip ipv4.src),
          .replied (etherOffEnd + ipv4.headerLen) icmpLen]]

def routeHandovers (ctx : PacketCtx) (now : Nat) (src : MacAddr) (ipv4 : Ipv4) : List Handover :=
  let payload : List Piece := [.taken etherOffEnd ipv4.totalLen]
  if ipv4.dst = ctx.ip then
    if ipv4.protocol = ipv4ProtocolIcmp then icmpHandovers ctx now ipv4 else []
  else if isSubnet ipv4.dst ctx.subnetNet ctx.subnetMask then
    if isBroadcast ipv4.dst ctx.subnetNet ctx.subnetMask then
      [.relay ipv4.dst etherOffEnd ipv4.totalLen, .frame src etherTypeIpv4 payload]
    else if arpHasIp ctx now ipv4.dst then
      [.frame ((arpGetMacByIp ctx now ipv4.dst).1.getD noneMac) etherTypeIpv4 payload]
    else [.relay ipv4.dst etherOffEnd ipv4.totalLen]
  else []

def LanPlay.tapFrame (lp : LanPlay) (src : Ipv4Addr) (datagram : Bytes) (beyond : Memory)
    : Memory :=
  ((lp.frameBuf.write etherHeaderLen (datagram.take tapBufSize)).write 0
    (etherHeader broadcastMac (syntheticMac src) etherTypeIpv4)).followedBy
      (etherHeaderLen + tapBufSize) beyond

def LanPlay.Sees (lp : LanPlay) (src : Ipv4Addr) (datagram : Bytes) : Prop :=
  (datagram.take tapBufSize).length ≠ 0
  ∧ ¬ (lp.wifiIp ≠ noneIp ∧ src = lp.wifiIp)
  ∧ src.a ≠ 127
  ∧ syntheticMac src ≠ lp.myMac

instance (lp : LanPlay) (src : Ipv4Addr) (datagram : Bytes) : Decidable (lp.Sees src datagram) :=
  inferInstanceAs (Decidable (_ ∧ _))

def LanPlay.captureCtx (lp : LanPlay) (now : Nat) (src : Ipv4Addr) (frame : Memory) : PacketCtx :=
  arpSet (lp.packetCtx.packetSetMac lp.myMac) now (syntheticMac src)
    (parseIpv4 (parseEther frame)).src

def LanPlay.tapHandovers (lp : LanPlay) (now : Nat) (src : Ipv4Addr) (datagram : Bytes)
    (beyond : Memory)
    : List Handover :=
  let frame := lp.tapFrame src datagram beyond
  if lp.Sees src datagram then
    routeHandovers (lp.captureCtx now src frame) now (syntheticMac src)
      (parseIpv4 (parseEther frame))
  else []

-- The calls are those of the sysmodule

theorem icmpHandovers_sent (ctx : PacketCtx) (now : Nat) (frame : Memory) {ipv4 : Ipv4}
    (pointer : ipv4.payload = frame.shift (etherOffEnd + ipv4.headerLen))
    : (processIcmp ctx now ipv4).2
        = (icmpHandovers ctx now ipv4).flatMap (Handover.sent ctx frame)
      ∧ (icmpHandovers ctx now ipv4).flatMap (Handover.handed frame) = [] := by
  rw [processIcmp_eq]
  unfold icmpHandovers
  dsimp only
  split
  · exact ⟨rfl, rfl⟩
  · have len : payloadTotalLen [echoReply (ipv4.payload.read (ipv4.totalLen - ipv4.headerLen))]
        = (ipv4.totalLen - ipv4.headerLen) % 65536 := by
      rw [payloadTotalLen, map_singleton, sum_singleton, echoReply_length,
        Memory.read_length]
    unfold sendIpv4 sendIpv4Ex arpGetMacByIp
    dsimp only
    rw [len, pointer]
    cases findLease ctx.arpList now ipv4.src with
    | none =>
      refine ⟨?_, rfl⟩
      rw [flatMap_singleton]
      rfl
    | some item =>
      refine ⟨?_, rfl⟩
      rw [flatMap_singleton]
      rfl

/-- The calls for a packet are those that `process_ipv4` makes. -/
theorem routeHandovers_sent (ctx : PacketCtx) (now : Nat) (frame : Memory)
    : (ctxRouteIpv4 ctx now (parseEther frame) (parseIpv4 (parseEther frame))).2.frames
        = (routeHandovers ctx now (parseEther frame).src (parseIpv4 (parseEther frame))).flatMap
            (Handover.sent ctx frame)
      ∧ (ctxRouteIpv4 ctx now (parseEther frame) (parseIpv4 (parseEther frame))).2.packets
        = (routeHandovers ctx now (parseEther frame).src (parseIpv4 (parseEther frame))).flatMap
            (Handover.handed frame) := by
  unfold ctxRouteIpv4 routeHandovers
  dsimp only
  split
  · split
    · have icmp := @icmpHandovers_sent ctx now frame (parseIpv4 (parseEther frame))
        (frame.shift_shift _ _)
      exact ⟨icmp.1, icmp.2.symm⟩
    · exact ⟨rfl, rfl⟩
  · split
    · split
      · exact ⟨by simp [Handover.sent]; rfl, rfl⟩
      · split
        · exact ⟨by simp [Handover.sent]; rfl, rfl⟩
        · exact ⟨rfl, rfl⟩
    · exact ⟨rfl, rfl⟩

/-- The header that the capture thread writes is the header of the frame. -/
theorem LanPlay.parseEther_tapFrame (lp : LanPlay) (src : Ipv4Addr) (datagram : Bytes)
    (beyond : Memory)
    : (parseEther (lp.tapFrame src datagram beyond)).src = syntheticMac src
      ∧ (parseEther (lp.tapFrame src datagram beyond)).type = etherTypeIpv4 := by
  have header : (lp.tapFrame src datagram beyond).read etherHeaderLen
      = etherHeader broadcastMac (syntheticMac src) etherTypeIpv4 := by
    have front := Memory.read_followedBy
      ((lp.frameBuf.write etherHeaderLen (datagram.take tapBufSize)).write 0
        (etherHeader broadcastMac (syntheticMac src) etherTypeIpv4)) beyond
      (show 0 + etherHeaderLen ≤ etherHeaderLen + tapBufSize by decide)
    have written := (lp.frameBuf.write etherHeaderLen (datagram.take tapBufSize)).read_write
      (etherHeader_length broadcastMac (syntheticMac src) etherTypeIpv4).ge
    rw [Memory.shift_zero, Memory.shift_zero, written, take_of_length_le
      (etherHeader_length broadcastMac (syntheticMac src) etherTypeIpv4).le] at front
    exact front
  have type := readBe16_etherHeader_append broadcastMac (syntheticMac src) etherTypeIpv4 []
  rw [append_nil] at type
  unfold parseEther
  dsimp only
  rw [header, type]
  exact ⟨rfl, rfl⟩

theorem LanPlay.tapHandovers_unseen {lp : LanPlay} {src : Ipv4Addr} {datagram : Bytes}
    (unseen : ¬ lp.Sees src datagram) (now : Nat) (beyond : Memory)
    : lp.tapHandovers now src datagram beyond = [] := if_neg unseen

/-- `process_ether` on the frame of a captured datagram is `process_ipv4` on it, but for datagrams
with the console's own address.
-/
theorem LanPlay.ctxProcessEther_tapFrame (lp : LanPlay) (now : Nat) (src : Ipv4Addr)
    (datagram : Bytes) (beyond : Memory)
    : ctxProcessEther (lp.packetCtx.packetSetMac lp.myMac) now (lp.tapFrame src datagram beyond)
      = if syntheticMac src = lp.myMac then (lp.packetCtx.packetSetMac lp.myMac, .none)
        else
          ctxRouteIpv4 (lp.captureCtx now src (lp.tapFrame src datagram beyond)) now
            (parseEther (lp.tapFrame src datagram beyond))
            (parseIpv4 (parseEther (lp.tapFrame src datagram beyond))) := by
  obtain ⟨source, type⟩ := lp.parseEther_tapFrame src datagram beyond
  have notArp : (parseEther (lp.tapFrame src datagram beyond)).type ≠ etherTypeArp := by
    rw [type]
    decide
  unfold ctxProcessEther ctxProcessIpv4 captureCtx
  dsimp only
  rw [if_neg notArp, if_pos type, source]
  rfl

/-- What a turn of the capture thread sends is what the calls pass on. -/
theorem LanPlay.tapRecv_handovers (lp : LanPlay) (sends : Bytes → Bool) (now : Nat)
    (src : Ipv4Addr) (datagram : Bytes) (beyond : Memory)
    : ∃ next : LanPlay,
        next.sender = lp.sender
        ∧ (lp.tapRecv sends now src datagram beyond).2
          = ⟨(lp.tapHandovers now src datagram beyond).flatMap
                (Handover.sent (lp.captureCtx now src (lp.tapFrame src datagram beyond))
                  (lp.tapFrame src datagram beyond)),
              (next.sendHanded sends
                ((lp.tapHandovers now src datagram beyond).flatMap
                  (Handover.handed (lp.tapFrame src datagram beyond)))).2⟩ := by
  have unseen (dropped : ¬ lp.Sees src datagram) := lp.tapHandovers_unseen dropped now beyond
  unfold tapRecv
  dsimp only
  by_cases empty : (datagram.take tapBufSize).length = 0
  · rw [if_pos empty, unseen (fun seen => seen.1 empty)]
    exact ⟨lp, rfl, rfl⟩
  rw [if_neg empty]
  by_cases own : lp.wifiIp ≠ noneIp ∧ src = lp.wifiIp
  · rw [if_pos own, unseen (fun seen => seen.2.1 own)]
    exact ⟨lp, rfl, rfl⟩
  rw [if_neg own]
  by_cases loopback : src.a = 127
  · rw [if_pos loopback, unseen (fun seen => seen.2.2.1 loopback)]
    exact ⟨lp, rfl, rfl⟩
  have passed
      : (ctxProcessEther (lp.packetCtx.packetSetMac lp.myMac) now
            (lp.tapFrame src datagram beyond)).2.frames
          = (lp.tapHandovers now src datagram beyond).flatMap
              (Handover.sent (lp.captureCtx now src (lp.tapFrame src datagram beyond))
                (lp.tapFrame src datagram beyond))
        ∧ (ctxProcessEther (lp.packetCtx.packetSetMac lp.myMac) now
            (lp.tapFrame src datagram beyond)).2.packets
          = (lp.tapHandovers now src datagram beyond).flatMap
              (Handover.handed (lp.tapFrame src datagram beyond)) := by
    rw [lp.ctxProcessEther_tapFrame]
    by_cases self : syntheticMac src = lp.myMac
    · rw [if_pos self, unseen (fun seen => seen.2.2.2 self)]
      exact ⟨rfl, rfl⟩
    · have calls := routeHandovers_sent
        (lp.captureCtx now src (lp.tapFrame src datagram beyond)) now
        (lp.tapFrame src datagram beyond)
      rw [(lp.parseEther_tapFrame src datagram beyond).1] at calls
      rw [if_neg self, tapHandovers, if_pos ⟨empty, own, loopback, self⟩]
      exact calls
  rw [if_neg loopback, processEther_eq]
  rw [← passed.1, ← passed.2]
  refine ⟨_, ?_, rfl⟩
  rfl

-- Captured octets

/-- Data is passed on for the packet: it is for the gateway and `process_icmp` replies to it, or it
is for another address of the subnet.
-/
def PassesOn (ctx : PacketCtx) (now : Nat) (ipv4 : Ipv4) : Prop :=
  if ipv4.dst = ctx.ip then
    ipv4.protocol = ipv4ProtocolIcmp
    ∧ ipv4.headerLen < ipv4.totalLen
    ∧ ipv4.totalLen - ipv4.headerLen ≤ bufferSize
    ∧ arpHasIp ctx now ipv4.src = true
  else isSubnet ipv4.dst ctx.subnetNet ctx.subnetMask = true

def GoesToRelay (ctx : PacketCtx) (now : Nat) (ipv4 : Ipv4) : Prop :=
  ipv4.dst ≠ ctx.ip
  ∧ isSubnet ipv4.dst ctx.subnetNet ctx.subnetMask = true
  ∧ (isBroadcast ipv4.dst ctx.subnetNet ctx.subnetMask = true
    ∨ arpHasIp ctx now ipv4.dst = false)

theorem icmpHandovers_captured_iff (ctx : PacketCtx) (now : Nat) (ipv4 : Ipv4) (pmtu received : Nat)
    : (∀ handover ∈ icmpHandovers ctx now ipv4,
        ∀ piece ∈ handover.pieces pmtu, piece.IsCaptured received)
      ↔ (ipv4.headerLen < ipv4.totalLen
        → ipv4.totalLen - ipv4.headerLen ≤ bufferSize
        → arpHasIp ctx now ipv4.src = true
        → ipv4.totalLen ≤ received) := by
  unfold icmpHandovers arpHasIp
  dsimp only
  split
  · rename_i dropped
    refine iff_of_true (fun _ member => by cases member) (fun longer fits => ?_)
    omega
  · rename_i answered
    obtain ⟨longer, fits⟩ := not_or.mp answered
    cases findLease ctx.arpList now ipv4.src with
    | none => simp [Handover.pieces, Piece.IsCaptured]
    | some item =>
      simp only [forall_eq, Handover.pieces, mem_cons, not_mem_nil,
        or_false, forall_eq_or_imp, Piece.IsCaptured, true_and, Option.isSome_some, forall_const,
        etherHeaderLen, etherOffEnd]
      omega

theorem taken_captured_iff (len received : Nat)
    : (Piece.taken etherOffEnd len).IsCaptured received ↔ len ≤ received := by
  simp only [Piece.IsCaptured, etherHeaderLen, etherOffEnd]
  omega

theorem relay_captured_iff (dst : Ipv4Addr) (pmtu len received : Nat)
    : (∀ piece ∈ (Handover.relay dst etherOffEnd len).pieces pmtu, piece.IsCaptured received)
      ↔ len ≤ received
        ∧ (0 < pmtu → pmtu % 65536 < len → ipv4HeaderLen ≤ received) := by
  rw [Handover.pieces, forall_mem_cons, taken_captured_iff]
  refine and_congr_right fun _ => ?_
  split
  · rename_i cut
    simp only [forall_mem_cons, Piece.IsCaptured, etherHeaderLen, etherOffEnd, ipv4OffSrc,
      ipv4OffDst, ipv4HeaderLen, not_mem_nil, false_implies, implies_true, and_true]
    omega
  · rename_i whole
    exact iff_of_true (fun _ member => by cases member)
      (fun positive longer => absurd ⟨positive, longer⟩ whole)

theorem routeHandovers_captured_iff (ctx : PacketCtx) (now : Nat) (src : MacAddr) (ipv4 : Ipv4)
    (pmtu received : Nat)
    : (∀ handover ∈ routeHandovers ctx now src ipv4,
        ∀ piece ∈ handover.pieces pmtu, piece.IsCaptured received)
      ↔ (PassesOn ctx now ipv4 → ipv4.totalLen ≤ received)
        ∧ (GoesToRelay ctx now ipv4
          → 0 < pmtu
          → pmtu % 65536 < ipv4.totalLen
          → ipv4HeaderLen ≤ received) := by
  have relay := relay_captured_iff ipv4.dst pmtu ipv4.totalLen received
  have frame (dst : MacAddr)
      : (∀ piece
          ∈ (Handover.frame dst etherTypeIpv4 [.taken etherOffEnd ipv4.totalLen]).pieces pmtu,
          piece.IsCaptured received)
        ↔ ipv4.totalLen ≤ received := by
    rw [Handover.pieces, forall_mem_singleton, taken_captured_iff]
  unfold routeHandovers PassesOn GoesToRelay
  dsimp only
  by_cases gateway : ipv4.dst = ctx.ip
  · rw [if_pos gateway, if_pos gateway]
    have elsewhere : ¬ (ipv4.dst ≠ ctx.ip
        ∧ isSubnet ipv4.dst ctx.subnetNet ctx.subnetMask = true
        ∧ (isBroadcast ipv4.dst ctx.subnetNet ctx.subnetMask = true
          ∨ arpHasIp ctx now ipv4.dst = false)) := fun relayed => relayed.1 gateway
    rw [and_iff_left (fun relayed => absurd relayed elsewhere)]
    by_cases icmp : ipv4.protocol = ipv4ProtocolIcmp
    · rw [if_pos icmp, icmpHandovers_captured_iff]
      tauto
    · rw [if_neg icmp]
      exact iff_of_true (fun _ member => by cases member) (fun passed => absurd passed.1 icmp)
  rw [if_neg gateway, if_neg gateway]
  by_cases subnet : isSubnet ipv4.dst ctx.subnetNet ctx.subnetMask = true
  · rw [if_pos subnet]
    by_cases broadcast : isBroadcast ipv4.dst ctx.subnetNet ctx.subnetMask = true
    · rw [if_pos broadcast, forall_mem_cons, forall_mem_singleton, relay, frame]
      tauto
    · rw [if_neg broadcast]
      by_cases known : arpHasIp ctx now ipv4.dst = true
      · rw [if_pos known, forall_mem_singleton, frame]
        have attached : ¬ (isBroadcast ipv4.dst ctx.subnetNet ctx.subnetMask = true
            ∨ arpHasIp ctx now ipv4.dst = false) := by
          simp [broadcast, known]
        exact ⟨fun fits => ⟨fun _ => fits, fun relayed => absurd relayed.2.2 attached⟩,
          fun both => both.1 subnet⟩
      · rw [if_neg known, forall_mem_singleton, relay]
        have absent := Bool.eq_false_iff.mpr known
        tauto
  · rw [if_neg subnet]
    exact iff_of_true (fun _ member => by cases member)
      ⟨fun passed => absurd passed subnet, fun relayed => absurd relayed.2.1 subnet⟩

/-- The octets passed on for a datagram are octets of it exactly if the header that is found at the
front of it, when a packet is passed on, does not claim more than was received. Where packets are
cut into parts the two addresses have to be received as well.
-/
theorem forwards_captured_iff (lp : LanPlay) (now : Nat) (src : Ipv4Addr) (datagram : Bytes)
    (beyond : Memory)
    : (∀ handover ∈ lp.tapHandovers now src datagram beyond,
        ∀ piece ∈ handover.pieces lp.sender.pmtu,
          piece.IsCaptured (datagram.take tapBufSize).length)
      ↔ (lp.Sees src datagram
        → let frame := lp.tapFrame src datagram beyond
          let ctx := lp.captureCtx now src frame
          let ipv4 := parseIpv4 (parseEther frame)
          (PassesOn ctx now ipv4 → ipv4.totalLen ≤ (datagram.take tapBufSize).length)
          ∧ (GoesToRelay ctx now ipv4
            → 0 < lp.sender.pmtu
            → lp.sender.pmtu % 65536 < ipv4.totalLen
            → ipv4HeaderLen ≤ (datagram.take tapBufSize).length)) := by
  by_cases seen : lp.Sees src datagram
  · rw [LanPlay.tapHandovers, if_pos seen, routeHandovers_captured_iff]
    exact ⟨fun fits _ => fits, fun fits => fits seen⟩
  · rw [lp.tapHandovers_unseen seen]
    exact iff_of_true (fun _ member => by cases member) (fun sees => absurd sees seen)

/-- The header of a packet of 40 octets is received without the rest of it. The relay gets 20 octets
that were in the buffer before.
-/
theorem stale_octets_forwarded
    : ∃ (lp : LanPlay) (datagram : Bytes),
        lp = { sampleConfig with frameBuf := fun _ => 0xAA }.start
        ∧ datagram.length = 20
        ∧ (lp.tapRecv (fun _ => true) 0 ⟨192, 168, 1, 9⟩ datagram (fun _ => 0)).2.datagrams
          = [0x01 :: (datagram ++ List.replicate 20 0xAA)]
        ∧ ∃ handover ∈ lp.tapHandovers 0 ⟨192, 168, 1, 9⟩ datagram (fun _ => 0),
            ∃ piece ∈ handover.pieces lp.sender.pmtu,
              ¬ piece.IsCaptured (datagram.take tapBufSize).length := by
  refine ⟨_, ipv4Header 40 0 17 0 ⟨10, 13, 0, 8⟩ ⟨10, 13, 0, 9⟩, rfl, rfl, by decide +kernel,
    .relay ⟨10, 13, 0, 9⟩ 14 40, by decide +kernel, .taken 14 40, List.mem_cons_self .., ?_⟩
  show ¬ (40 = 0 ∨ (14 ≤ 14 ∧ 14 + 40 ≤ 14 + 20))
  decide

end SwitchLanPlay.Sysmodule
