import SwitchLanPlay.Client.Pipeline
import SwitchLanPlay.Sysmodule.Capture

/-! The packet pipelines of the sysmodule and of the PC client side by side. The sysmodule's has
no checks of lengths, so they part on frames that the checks refuse, and on empty and overlong
ICMP messages, which only the sysmodule drops.
-/

namespace SwitchLanPlay.Sysmodule

open Foundation
open Packet
open Client (HandedPacket Passed WellFormed echoReply)

def ctxRouteIpv4 (ctx : PacketCtx) (now : Nat) (ether : EtherFrame) (ipv4 : Ipv4)
    : PacketCtx × Passed :=
  let payload := ether.payload.read ipv4.totalLen
  let handed : HandedPacket := ⟨ipv4.dst, ether.payload, ipv4.totalLen⟩
  if ipv4.dst = ctx.ip then
    if ipv4.protocol = ipv4ProtocolIcmp then
      let outcome := processIcmp ctx now ipv4
      (outcome.1, ⟨outcome.2, [], []⟩)
    else (ctx, .none)
  else if isSubnet ipv4.dst ctx.subnetNet ctx.subnetMask then
    if isBroadcast ipv4.dst ctx.subnetNet ctx.subnetMask then
      (ctx, ⟨(sendEther ctx ether.src etherTypeIpv4 [payload]).toList, [handed], []⟩)
    else if arpHasIp ctx now ipv4.dst then
      let dstMac := (arpGetMacByIp ctx now ipv4.dst).1.getD noneMac
      (ctx, ⟨(sendEther ctx dstMac etherTypeIpv4 [payload]).toList, [], []⟩)
    else (ctx, ⟨[], [handed], []⟩)
  else (ctx, .none)

def ctxProcessIpv4 (ctx : PacketCtx) (now : Nat) (ether : EtherFrame) : PacketCtx × Passed :=
  ctxRouteIpv4 (arpSet ctx now ether.src (parseIpv4 ether).src) now ether (parseIpv4 ether)

/-- `process_ether` on the packet context. The length of the frame is not looked at. -/
def ctxProcessEther (ctx : PacketCtx) (now : Nat) (packet : Memory) : PacketCtx × Passed :=
  let ether := parseEther packet
  if ether.src = ctx.mac then (ctx, .none)
  else if ether.type = etherTypeArp then
    let outcome := processArp ctx now ether
    (outcome.1, ⟨outcome.2, [], []⟩)
  else if ether.type = etherTypeIpv4 then ctxProcessIpv4 ctx now ether
  else (ctx, .none)

def LanPlay.sendHanded (lp : LanPlay) (sends : Bytes → Bool)
    : List HandedPacket → LanPlay × List Bytes
  | [] => (lp, [])
  | handed :: rest =>
    let sent := lp.lanClientSendIpv4 sends handed.packet handed.len
    let later := sent.1.sendHanded sends rest
    (later.1, sent.2 ++ later.2)

/-- `process_ether` of the running sysmodule is the one on its packet context, with the packets
that are listed sent to the relay.
-/
theorem LanPlay.processEther_eq (lp : LanPlay) (sends : Bytes → Bool) (now : Nat)
    (packet : Memory)
    : lp.processEther sends now packet
      = (({ lp with packetCtx := (ctxProcessEther lp.packetCtx now packet).1 }.sendHanded sends
            (ctxProcessEther lp.packetCtx now packet).2.packets).1,
          ⟨(ctxProcessEther lp.packetCtx now packet).2.frames,
            ({ lp with packetCtx := (ctxProcessEther lp.packetCtx now packet).1 }.sendHanded sends
              (ctxProcessEther lp.packetCtx now packet).2.packets).2⟩) := by
  unfold processEther ctxProcessEther
  dsimp only
  by_cases own : (parseEther packet).src = lp.packetCtx.mac
  · rw [if_pos own, if_pos own]
    rfl
  · rw [if_neg own, if_neg own]
    by_cases arp : (parseEther packet).type = etherTypeArp
    · rw [if_pos arp, if_pos arp]
      rfl
    · rw [if_neg arp, if_neg arp]
      by_cases ipv4 : (parseEther packet).type = etherTypeIpv4
      · rw [if_pos ipv4, if_pos ipv4]
        unfold processIpv4 routeIpv4 ctxProcessIpv4 ctxRouteIpv4
        dsimp only
        split
        · split <;> rfl
        · split
          · split
            · simp [sendHanded]
            · split
              · rfl
              · simp [sendHanded]
          · rfl
      · rw [if_neg ipv4, if_neg ipv4]
        rfl

-- When nothing is sent

variable (ctx : PacketCtx)

/-- A frame leaves the buffer's last octet free or is not sent. -/
theorem sendEther_eq_none_iff (dst : MacAddr) (type : Nat) (payload : List Bytes)
    : sendEther ctx dst type payload = none
      ↔ ctx.bufferLen ≤ etherHeaderLen + payload.flatten.length := by
  rw [sendEther_eq_ite]
  split
  · rename_i fits
    exact iff_of_false (Option.some_ne_none _) (Nat.not_le.mpr fits)
  · rename_i full
    exact iff_of_true rfl (Nat.not_lt.mp full)

theorem ipv4Header_length (totalLen identification protocol checksum : Nat) (src dst : Ipv4Addr)
    : (ipv4Header totalLen identification protocol checksum src dst).length = ipv4HeaderLen := rfl

theorem arpBytes_length (opcode : Nat) (senderMac targetMac : MacAddr)
    (senderIp targetIp : Ipv4Addr)
    : (arpBytes opcode senderMac senderIp targetMac targetIp).length = arpLen := rfl

/-- Neither a packet for `dst` with `len` octets behind its header nor the question for the address
fits the buffer, whichever is to be sent.
-/
def Mute (ctx : PacketCtx) (now : Nat) (dst : Ipv4Addr) (len : Nat) : Prop :=
  ctx.bufferLen
  ≤ if arpHasIp ctx now dst then etherHeaderLen + (ipv4HeaderLen + len)
    else etherHeaderLen + arpLen

instance (ctx : PacketCtx) (now : Nat) (dst : Ipv4Addr) (len : Nat)
    : Decidable (Mute ctx now dst len) := by
  unfold Mute
  infer_instance

theorem sendIpv4_eq_nil_iff (now : Nat) (dst : Ipv4Addr) (protocol : Nat) (payload : Bytes)
    : (sendIpv4 ctx now dst protocol [payload]).2 = [] ↔ Mute ctx now dst payload.length := by
  unfold sendIpv4 sendIpv4Ex Mute arpGetMacByIp arpHasIp
  dsimp only
  cases findLease ctx.arpList now dst with
  | none => simp [sendArpRequest, sendArpEx, sendEther_eq_none_iff, arpBytes_length]
  | some lease => simp [sendEther_eq_none_iff, ipv4Header_length]

/-- The ARP cache has no place for the address, or has the entry already. -/
def ArpKnown (ctx : PacketCtx) (now : Nat) (mac : MacAddr) (ip : Ipv4Addr) : Prop :=
  ∀ index,
    leaseSlot? noneIp ctx.arpList now ip = some index
    → ctx.arpList index = ⟨ip, mac, now + ctx.arpTtl⟩

theorem arpSet_eq_self_iff (now : Nat) (mac : MacAddr) (ip : Ipv4Addr)
    : (arpSet ctx now mac ip).arpList = ctx.arpList ↔ ArpKnown ctx now mac ip := by
  unfold ArpKnown
  rw [arpSet_arpList, grantLease]
  cases leaseSlot? noneIp ctx.arpList now ip with
  | none => simp
  | some slot => simp [eq_comm]

-- Agreement

def Agree (pc : Option (PacketCtx × Passed)) (console : PacketCtx × Passed) : Prop :=
  ∃ outcome,
    pc = some outcome
    ∧ outcome.2.frames = console.2.frames
    ∧ outcome.2.packets = console.2.packets
    ∧ outcome.1.arpList = console.1.arpList

def IsIcmp (ctx : PacketCtx) (ipv4 : Ipv4) : Prop :=
  ipv4.dst = ctx.ip ∧ ipv4.protocol = ipv4ProtocolIcmp

/-- The sysmodule passes nothing on for the packet: it is for the gateway address and gets no
reply, or for a known address and too long for a frame.
-/
def Unanswered (ctx : PacketCtx) (now : Nat) (ipv4 : Ipv4) : Prop :=
  if ipv4.dst = ctx.ip then
    ipv4.protocol = ipv4ProtocolIcmp
    → ipv4.totalLen ≤ ipv4.headerLen
      ∨ bufferSize < ipv4.totalLen - ipv4.headerLen
      ∨ Mute ctx now ipv4.src (ipv4.totalLen - ipv4.headerLen)
  else
    ¬ isBroadcast ipv4.dst ctx.subnetNet ctx.subnetMask
    ∧ arpHasIp ctx now ipv4.dst
    ∧ ctx.bufferLen ≤ etherHeaderLen + ipv4.totalLen

theorem echoReply_length (request : Bytes) : (echoReply request).length = request.length := by
  simp only [echoReply, List.length_take, List.length_append, List.length_cons, List.length_drop,
    List.length_nil, be16_length]
  omega

/-- `process_icmp` of the sysmodule answers like the one of the PC client. -/
theorem processIcmp_eq (now : Nat) (ipv4 : Ipv4)
    : processIcmp ctx now ipv4
      = if ipv4.totalLen ≤ ipv4.headerLen ∨ bufferSize < ipv4.totalLen - ipv4.headerLen then
          (ctx, [])
        else
          sendIpv4 ctx now ipv4.src ipv4ProtocolIcmp
            [echoReply (ipv4.payload.read (ipv4.totalLen - ipv4.headerLen))] := rfl

theorem processIcmp_arpList (now : Nat) (ipv4 : Ipv4)
    : (processIcmp ctx now ipv4).1.arpList = ctx.arpList := by
  rw [processIcmp_eq]
  split
  · rfl
  · rw [sendIpv4_ctx]

theorem ctxRouteIpv4_arpList (now : Nat) (ether : EtherFrame) (ipv4 : Ipv4)
    : (ctxRouteIpv4 ctx now ether ipv4).1.arpList = ctx.arpList := by
  unfold ctxRouteIpv4
  dsimp only
  split
  · split
    · exact processIcmp_arpList ctx now ipv4
    · rfl
  · split
    · split
      · rfl
      · split <;> rfl
    · rfl

/-- A packet for the gateway or the subnet has no effect but on the ARP cache exactly when it stays
unanswered.
-/
theorem ctxRouteIpv4_silent_iff {ctx : PacketCtx} {ipv4 : Ipv4}
    (addressed
      : ipv4.dst = ctx.ip ∨ isSubnet ipv4.dst ctx.subnetNet ctx.subnetMask = true)
    (now : Nat) (ether : EtherFrame)
    : ((ctxRouteIpv4 ctx now ether ipv4).2.frames = []
        ∧ (ctxRouteIpv4 ctx now ether ipv4).2.packets = [])
      ↔ Unanswered ctx now ipv4 := by
  unfold ctxRouteIpv4 Unanswered
  dsimp only
  by_cases gateway : ipv4.dst = ctx.ip
  · rw [if_pos gateway, if_pos gateway]
    by_cases icmp : ipv4.protocol = ipv4ProtocolIcmp
    · rw [if_pos icmp, processIcmp_eq]
      by_cases dropped
          : ipv4.totalLen ≤ ipv4.headerLen ∨ bufferSize < ipv4.totalLen - ipv4.headerLen
      · rw [if_pos dropped]
        exact iff_of_true ⟨rfl, rfl⟩ (fun _ => by tauto)
      · rw [if_neg dropped, sendIpv4_eq_nil_iff, echoReply_length, Memory.read_length]
        tauto
    · rw [if_neg icmp]
      exact iff_of_true ⟨rfl, rfl⟩ (fun same => absurd same icmp)
  · rw [if_neg gateway, if_neg gateway, if_pos (addressed.resolve_left gateway)]
    by_cases broadcast : isBroadcast ipv4.dst ctx.subnetNet ctx.subnetMask = true
    · rw [if_pos broadcast]
      simp [broadcast]
    · rw [if_neg broadcast]
      by_cases known : arpHasIp ctx now ipv4.dst = true
      · rw [if_pos known]
        simp [broadcast, known, sendEther_eq_none_iff]
      · rw [if_neg known]
        simp [known]

/-- On an accepted packet the pipelines differ in empty and overlong ICMP messages only. -/
theorem agree_route_iff {ctx : PacketCtx} {ipv4 : Ipv4}
    (addressed
      : ipv4.dst = ctx.ip ∨ isSubnet ipv4.dst ctx.subnetNet ctx.subnetMask = true)
    (now : Nat) (raw : Bytes) (ether : EtherFrame)
    : Agree (Client.routeIpv4 ctx now raw ether ipv4) (ctxRouteIpv4 ctx now ether ipv4)
      ↔ (IsIcmp ctx ipv4
        → ipv4.totalLen - ipv4.headerLen ≤ bufferSize
          ∧ (ipv4.headerLen < ipv4.totalLen ∨ Mute ctx now ipv4.src 0)) := by
  unfold Client.routeIpv4 ctxRouteIpv4 IsIcmp
  dsimp only
  by_cases gateway : ipv4.dst = ctx.ip
  · rw [if_pos gateway, if_pos gateway]
    by_cases icmp : ipv4.protocol = ipv4ProtocolIcmp
    · rw [if_pos icmp, if_pos icmp, Client.processIcmp, processIcmp_eq]
      simp only [gateway, icmp, and_self, true_imp_iff]
      by_cases overlong : Client.bufferSize < ipv4.totalLen - ipv4.headerLen
      · rw [if_pos overlong]
        refine iff_of_false ?_ (fun fits => absurd fits.1 (Nat.not_le.mpr overlong))
        rintro ⟨_, impossible, _⟩
        cases impossible
      · have fits : ipv4.totalLen - ipv4.headerLen ≤ bufferSize := Nat.not_lt.mp overlong
        rw [if_neg overlong]
        by_cases empty : ipv4.totalLen ≤ ipv4.headerLen
        · have same : ipv4.totalLen - ipv4.headerLen = 0 := Nat.sub_eq_zero_of_le empty
          have silent := sendIpv4_eq_nil_iff ctx now ipv4.src ipv4ProtocolIcmp
            (echoReply (ipv4.payload.read (ipv4.totalLen - ipv4.headerLen)))
          rw [echoReply_length, Memory.read_length, same] at silent
          rw [if_pos (Or.inl empty), same, or_iff_right (Nat.not_lt.mpr empty), ← silent]
          simp [Agree, sendIpv4_ctx]
        · have dropped
              : ¬ (ipv4.totalLen ≤ ipv4.headerLen
                ∨ bufferSize < ipv4.totalLen - ipv4.headerLen) :=
            not_or.mpr ⟨empty, Nat.not_lt.mpr fits⟩
          rw [if_neg dropped]
          exact iff_of_true ⟨_, rfl, rfl, rfl, rfl⟩ ⟨fits, Or.inl (Nat.not_le.mp empty)⟩
    · rw [if_neg icmp, if_neg icmp]
      exact iff_of_true ⟨_, rfl, rfl, rfl, rfl⟩ (fun both => absurd both.2 icmp)
  · rw [if_neg gateway, if_neg gateway, if_pos (addressed.resolve_left gateway),
      if_pos (addressed.resolve_left gateway)]
    refine iff_of_true ?_ (fun both => absurd both.1 gateway)
    split
    · exact ⟨_, rfl, rfl, rfl, rfl⟩
    · split <;> exact ⟨_, rfl, rfl, rfl, rfl⟩

/-- A frame that the PC client refuses leaves no trace there. -/
theorem agree_refused_iff (console : PacketCtx × Passed)
    : Agree (some (ctx, .none)) console
      ↔ console.1.arpList = ctx.arpList
        ∧ console.2.frames = []
        ∧ console.2.packets = [] := by
  simp only [Agree, Option.some.injEq, exists_eq_left', Passed.none]
  constructor
  · rintro ⟨frames, packets, arpList⟩
    exact ⟨arpList.symm, frames.symm, packets.symm⟩
  · rintro ⟨arpList, frames, packets⟩
    exact ⟨frames.symm, packets.symm, arpList.symm⟩

/-- When the two pipelines do the same with an IPv4 packet in a frame of `len` octets: it is the
client's own; or it is well formed and, if it is an ICMP message for the gateway, neither longer
than the buffer of the reply nor empty; or it is refused by the PC client and the sysmodule neither
learns from it nor answers it.
-/
def PipelinesAgree (ctx : PacketCtx) (now len : Nat) (src : MacAddr) (ipv4 : Ipv4) : Prop :=
  src = ctx.mac
  ∨ (WellFormed len ipv4
    ∧ (IsIcmp ctx ipv4
      → ipv4.totalLen - ipv4.headerLen ≤ bufferSize
        ∧ (ipv4.headerLen < ipv4.totalLen ∨ Mute (arpSet ctx now src ipv4.src) now ipv4.src 0)))
  ∨ (¬ WellFormed len ipv4 ∧ ArpKnown ctx now src ipv4.src ∧ Unanswered ctx now ipv4)

/-- The two pipelines agree on a captured IPv4 frame for the subnet or the gateway exactly under
this condition, in every state, at every time and for every length of the frame.
-/
theorem pipelines_agree_iff {ctx : PacketCtx} {packet : Memory}
    (isIpv4 : (parseEther packet).type = etherTypeIpv4)
    (addressed
      : (parseIpv4 (parseEther packet)).dst = ctx.ip
        ∨ isSubnet (parseIpv4 (parseEther packet)).dst ctx.subnetNet ctx.subnetMask = true)
    (now len : Nat)
    : Agree (Client.processEther ctx now packet len) (ctxProcessEther ctx now packet)
      ↔ PipelinesAgree ctx now len (parseEther packet).src (parseIpv4 (parseEther packet)) := by
  unfold PipelinesAgree
  by_cases own : (parseEther packet).src = ctx.mac
  · have console : ctxProcessEther ctx now packet = (ctx, .none) := by
      simp only [ctxProcessEther, if_pos own]
    rw [Client.processEther_own own, console]
    exact iff_of_true ⟨_, rfl, rfl, rfl, rfl⟩ (Or.inl own)
  · have notArp : (parseEther packet).type ≠ etherTypeArp := by
      rw [isIpv4]
      decide
    have console
        : ctxProcessEther ctx now packet
          = ctxRouteIpv4
              (arpSet ctx now (parseEther packet).src (parseIpv4 (parseEther packet)).src) now
              (parseEther packet) (parseIpv4 (parseEther packet)) := by
      simp only [ctxProcessEther, if_neg own, if_neg notArp, if_pos isIpv4, ctxProcessIpv4]
    rw [Client.processEther_ipv4 own isIpv4, console, or_iff_right own]
    by_cases accepted : WellFormed len (parseIpv4 (parseEther packet))
    · rw [if_pos accepted, agree_route_iff (by exact addressed)]
      simp only [accepted, true_and, not_true_eq_false, false_and, or_false]
      exact Iff.rfl
    · rw [if_neg accepted, agree_refused_iff, ctxRouteIpv4_arpList, arpSet_eq_self_iff,
        ctxRouteIpv4_silent_iff (by exact addressed)]
      simp only [accepted, false_and, false_or, not_false_eq_true, true_and]
      refine and_congr_right (fun known => ?_)
      have same
          : arpSet ctx now (parseEther packet).src (parseIpv4 (parseEther packet)).src = ctx := by
        have list := (arpSet_eq_self_iff ctx now _ _).mpr known
        rw [arpSet_arpList] at list
        rw [arpSet, list]
      rw [same]

def usualCtx : PacketCtx :=
  (packetInit bufferSize ⟨10, 13, 37, 1⟩ ⟨10, 13, 0, 0⟩ ⟨255, 255, 0, 0⟩ 30).packetSetMac
    ⟨2, 0, 0, 0, 0, 1⟩

def headerFrame (totalLen : Nat) : Memory :=
  Memory.write (fun _ => 0) 0
    (etherHeader ⟨2, 0, 0, 0, 0, 1⟩ ⟨2, 0, 0, 0, 0, 2⟩ etherTypeIpv4
      ++ ipv4Header totalLen 0 ipv4ProtocolUdp 0 ⟨10, 13, 0, 8⟩ ⟨10, 13, 0, 9⟩)

theorem pipelines_agree_iff_header
    : Agree (Client.processEther usualCtx 0 (headerFrame 20) 34)
        (ctxProcessEther usualCtx 0 (headerFrame 20)) := by
  refine (pipelines_agree_iff (by decide) (by decide) 0 34).mpr (Or.inr (Or.inl ⟨by decide, ?_⟩))
  intro icmp
  exact absurd icmp.1 (by decide)

/-- A frame of 34 octets that claims a packet of 40: the PC client drops it, the sysmodule hands 40
octets to the relay client.
-/
theorem truncated_frame_handed_on
    : (Client.processEther usualCtx 0 (headerFrame 40) 34).map (fun outcome =>
          outcome.2.packets.map HandedPacket.len)
        = some []
      ∧ (ctxProcessEther usualCtx 0 (headerFrame 40)).2.packets.map HandedPacket.len = [40]
      ∧ ¬ Agree (Client.processEther usualCtx 0 (headerFrame 40) 34)
          (ctxProcessEther usualCtx 0 (headerFrame 40)) := by
  have pc : Client.processEther usualCtx 0 (headerFrame 40) 34 = some (usualCtx, .none) := by
    rw [Client.processEther_ipv4 (by decide) (by decide), if_neg (by decide)]
  have console
      : (ctxProcessEther usualCtx 0 (headerFrame 40)).2.packets.map HandedPacket.len = [40] := by
    decide +kernel
  refine ⟨by rw [pc]; rfl, console, ?_⟩
  rw [pc, agree_refused_iff]
  rintro ⟨_, _, packets⟩
  rw [packets] at console
  cases console

end SwitchLanPlay.Sysmodule
