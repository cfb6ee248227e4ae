import SwitchLanPlay.Client.Pcap

/-! Frames that the PC client sent for a packet of the relay and captures again, on another
interface of the same LAN. Neither the filter nor `process_ether` recognises them: the frame
carries the address of the sending interface.
-/

namespace SwitchLanPlay.Client

open List Option
open Foundation
open Packet

variable {len offset : Nat} {packet : Memory}

variable {count : Nat}

variable {interf : Fin count} {history : List (PcapEvent count)}

section Echo

variable (interfaces : Interfaces count) (ip subnetNet subnetMask : Ipv4Addr)

def runFrom (history : List (PcapEvent count)) : Option (PcapClient count) :=
  (pcapMachine interfaces).run (some (.init ip subnetNet subnetMask)) history

def EmittedFor (history : List (PcapEvent count)) (interf : Fin count) (frame : Bytes) : Prop :=
  ∃ first now packet len rest client next output,
    history = first ++ .relayed now packet len :: rest
    ∧ runFrom interfaces ip subnetNet subnetMask first = some client
    ∧ client.step interfaces (.relayed now packet len) = some (next, output)
    ∧ (interf, frame) ∈ output.emitted

/-- The frame was sent for a packet of the relay on another interface of the same LAN. -/
def IsEcho (history : List (PcapEvent count)) (interf : Fin count) (frame : Bytes) : Prop :=
  ∃ other,
    other ≠ interf
    ∧ interfaces.segment other = interfaces.segment interf
    ∧ EmittedFor interfaces ip subnetNet subnetMask history other frame

end Echo

/-- The frame carries a well-formed packet between addresses the filter listens to, for an address
of the subnet that is the broadcast address or not known from the ARP cache.
-/
structure GoesToRelay (ctx : PacketCtx) (now : Nat) (packet : Memory) (len : Nat) : Prop where
  isIpv4 : (parseEther packet).type = etherTypeIpv4
  wellFormed : WellFormed len (parseIpv4 (parseEther packet))
  heard
    : inFilterNet (parseIpv4 (parseEther packet)).src = true
      ∨ inFilterNet (parseIpv4 (parseEther packet)).dst = true
  foreign : (parseIpv4 (parseEther packet)).dst ≠ ctx.ip
  subnet : isSubnet (parseIpv4 (parseEther packet)).dst ctx.subnetNet ctx.subnetMask = true
  unknown
    : isBroadcast (parseIpv4 (parseEther packet)).dst ctx.subnetNet ctx.subnetMask = true
      ∨ arpHasIp (arpSet ctx now (parseEther packet).src (parseIpv4 (parseEther packet)).src) now
          (parseIpv4 (parseEther packet)).dst
        = false

-- What is handed to the relay

theorem routeIpv4_handed_iff {ctx : PacketCtx} {now : Nat} {raw : Bytes} {ether : EtherFrame}
    {ipv4 : Ipv4}
    : (∃ outcome, routeIpv4 ctx now raw ether ipv4 = some outcome ∧ outcome.2.packets ≠ [])
      ↔ ipv4.dst ≠ ctx.ip
        ∧ isSubnet ipv4.dst ctx.subnetNet ctx.subnetMask = true
        ∧ (isBroadcast ipv4.dst ctx.subnetNet ctx.subnetMask = true
          ∨ arpHasIp ctx now ipv4.dst = false) := by
  unfold routeIpv4
  dsimp only
  by_cases gateway : ipv4.dst = ctx.ip
  · rw [if_pos gateway]
    refine iff_of_false ?_ (fun both => both.1 gateway)
    rintro ⟨outcome, routed, handed⟩
    split at routed
    · obtain ⟨_, _, rfl⟩ := map_eq_some_iff.mp routed
      exact handed rfl
    · cases routed
      exact handed rfl
  · rw [if_neg gateway]
    by_cases inside : isSubnet ipv4.dst ctx.subnetNet ctx.subnetMask = true
    · rw [if_pos inside]
      by_cases broadcast : isBroadcast ipv4.dst ctx.subnetNet ctx.subnetMask = true
      · rw [if_pos broadcast]
        simp [gateway, inside, broadcast]
      · rw [if_neg broadcast]
        by_cases known : arpHasIp ctx now ipv4.dst = true
        · rw [if_pos known]
          simp [broadcast, known]
        · rw [if_neg known]
          simp [gateway, inside, known]
    · rw [if_neg inside]
      refine iff_of_false ?_ (fun both => inside both.2.1)
      rintro ⟨outcome, routed, handed⟩
      split at routed <;> cases routed <;> exact handed rfl

/-- What `process_ether` hands to the relay from a frame of another sender. -/
theorem processEther_handed_iff {ctx : PacketCtx} (foreign : (parseEther packet).src ≠ ctx.mac)
    (now len : Nat)
    : (∃ outcome, processEther ctx now packet len = some outcome ∧ outcome.2.packets ≠ [])
      ↔ (parseEther packet).type = etherTypeIpv4
        ∧ WellFormed len (parseIpv4 (parseEther packet))
        ∧ (parseIpv4 (parseEther packet)).dst ≠ ctx.ip
        ∧ isSubnet (parseIpv4 (parseEther packet)).dst ctx.subnetNet ctx.subnetMask = true
        ∧ (isBroadcast (parseIpv4 (parseEther packet)).dst ctx.subnetNet ctx.subnetMask = true
          ∨ arpHasIp (arpSet ctx now (parseEther packet).src (parseIpv4 (parseEther packet)).src)
              now (parseIpv4 (parseEther packet)).dst
            = false) := by
  by_cases isIpv4 : (parseEther packet).type = etherTypeIpv4
  · rw [processEther_ipv4 foreign isIpv4]
    by_cases accepted : WellFormed len (parseIpv4 (parseEther packet))
    · rw [if_pos accepted, routeIpv4_handed_iff]
      simp only [isIpv4, accepted, true_and]
      exact Iff.rfl
    · rw [if_neg accepted]
      simp [accepted, Passed.none]
  · refine iff_of_false ?_ (fun both => isIpv4 both.1)
    rintro ⟨outcome, processed, handed⟩
    unfold processEther at processed
    dsimp only at processed
    rw [if_neg foreign, if_neg isIpv4] at processed
    split at processed
    · cases processed
      exact handed rfl
    · split at processed <;> cases processed <;> exact handed rfl

-- The filter

theorem readMac_read (packet : Memory) (inside : offset + 6 ≤ len)
    : readMac (packet.read len) offset
      = ⟨packet offset, packet (offset + 1), packet (offset + 2), packet (offset + 3),
          packet (offset + 4), packet (offset + 5)⟩ := by
  unfold readMac
  iterate 6 rw [packet.getD_read (by omega)]

theorem readIpv4_read_eq (packet : Memory) (inside : offset + 4 ≤ len)
    : readIpv4 (packet.read len) offset
      = ⟨packet offset, packet (offset + 1), packet (offset + 2), packet (offset + 3)⟩ := by
  unfold readIpv4
  iterate 4 rw [packet.getD_read (by omega)]

theorem readBe16_read (packet : Memory) (inside : offset + 2 ≤ len)
    : readBe16 (packet.read len) offset
      = (packet offset).toNat * 256 + (packet (offset + 1)).toNat := by
  unfold readBe16 readU8
  iterate 2 rw [packet.getD_read (by omega)]

/-- The filter reads the fields of a frame where the parser reads them. -/
theorem parseEther_read (packet : Memory) (whole : etherOffEnd + ipv4HeaderLen ≤ len)
    : readMac (packet.read len) etherOffSrc = (parseEther packet).src
      ∧ readBe16 (packet.read len) etherOffType = (parseEther packet).type
      ∧ readIpv4 (packet.read len) 26 = (parseIpv4 (parseEther packet)).src
      ∧ readIpv4 (packet.read len) 30 = (parseIpv4 (parseEther packet)).dst := by
  have room : 34 ≤ len := whole
  refine ⟨?_, ?_, ?_, ?_⟩
  · have source : etherOffSrc + 6 ≤ len := Nat.le_trans (by decide) room
    exact (readMac_read packet source).trans (readMac_read packet (by decide)).symm
  · have type : etherOffType + 2 ≤ len := Nat.le_trans (by decide) room
    exact (readBe16_read packet type).trans (readBe16_read packet (by decide)).symm
  · have inside : ipv4OffSrc + 4 ≤ ipv4HeaderLen := by decide
    exact (readIpv4_read_eq packet (by omega)).trans
      (readIpv4_read_eq (packet.shift etherOffEnd) inside).symm
  · have inside : ipv4OffDst + 4 ≤ ipv4HeaderLen := by decide
    exact (readIpv4_read_eq packet (by omega)).trans
      (readIpv4_read_eq (packet.shift etherOffEnd) inside).symm

theorem passesFilter_iff (whole : etherOffEnd + ipv4HeaderLen ≤ len)
    (isIpv4 : (parseEther packet).type = etherTypeIpv4) (mac : MacAddr)
    : passesFilter mac (packet.read len) = true
      ↔ (inFilterNet (parseIpv4 (parseEther packet)).src = true
          ∨ inFilterNet (parseIpv4 (parseEther packet)).dst = true)
        ∧ (parseEther packet).src ≠ mac := by
  obtain ⟨source, type, src, dst⟩ := parseEther_read packet whole
  have room : 34 ≤ len := whole
  have first : 26 + 4 ≤ (packet.read len).length := by rw [Memory.read_length]; omega
  have second : 30 + 4 ≤ (packet.read len).length := by rw [Memory.read_length]; omega
  unfold passesFilter
  dsimp only
  rw [type, source, if_pos isIpv4, filterLoads, if_pos first, filterLoads, if_pos second, src, dst,
    filterLoads]
  simp

/-- A frame of another sender reaches the relay exactly when it goes there by its contents. -/
theorem PcapClient.step_handed_iff {interfaces : Interfaces count} (client : PcapClient count)
    (now : Nat) (short : len < 65536) (foreign : (parseEther packet).src ≠ interfaces.mac interf)
    : (∃ next output,
        client.step interfaces (.captured now interf packet len) = some (next, output)
        ∧ output.handed ≠ [])
      ↔ GoesToRelay client.packetCtx now packet len := by
  have other
      : (parseEther packet).src
        ≠ (client.packetCtx.packetSetMac (interfaces.mac interf)).mac := foreign
  have processed := processEther_handed_iff other now len
  simp only [PcapClient.step, callback, if_neg (Nat.not_le.mpr short)]
  constructor
  · rintro ⟨next, output, stepped, handed⟩
    split at stepped
    · rename_i passes
      obtain ⟨outcome, ran, same⟩ := map_eq_some_iff.mp stepped
      cases same
      obtain ⟨isIpv4, wellFormed, gateway, subnet, unknown⟩ := processed.mp ⟨outcome, ran, handed⟩
      have heard := ((passesFilter_iff wellFormed.header isIpv4 _).mp passes).1
      exact ⟨isIpv4, wellFormed, heard, gateway, subnet, unknown⟩
    · cases stepped
      exact absurd rfl handed
  · rintro ⟨isIpv4, wellFormed, heard, gateway, subnet, unknown⟩
    obtain ⟨outcome, ran, handed⟩ := processed.mpr ⟨isIpv4, wellFormed, gateway, subnet, unknown⟩
    rw [if_pos ((passesFilter_iff wellFormed.header isIpv4 _).mpr ⟨heard, foreign⟩), ran]
    exact ⟨_, _, rfl, handed⟩

-- Frames for packets of the relay

/-- Everything `lan_client_process` sends goes through `send_ether`. -/
theorem PcapClient.lanClientProcess_sends (client : PcapClient count) (now : Nat)
    (packet : Memory) (len : Nat)
    : ∀ frame ∈ (client.lanClientProcess now packet len).2,
        ∃ dst type payload, sendEther client.packetCtx dst type payload = some frame := by
  have single (dst : MacAddr) (type : Nat) (payload : List Bytes) (frame : Bytes)
      (member : frame ∈ (sendEther client.packetCtx dst type payload).toList)
      : ∃ dst type payload, sendEther client.packetCtx dst type payload = some frame :=
    ⟨dst, type, payload, mem_toList.mp member⟩
  intro frame member
  unfold lanClientProcess lanClientOnBroadcast at member
  dsimp only at member
  split at member
  · cases member
  · split at member
    · split at member
      · exact single _ _ _ frame member
      · have all := arpForEach_eq client.packetCtx now (fun item =>
          (sendEther client.packetCtx item.value etherTypeIpv4 [packet.read len]).toList)
        rw [show arpForEach client.packetCtx now
            (lanClientArpForEachCb client.packetCtx (packet.read len)) = _ from all] at member
        obtain ⟨item, _, sent⟩ := mem_flatMap.mp member
        exact single _ _ _ frame sent
    · unfold arpGetMacByIp at member
      cases found
          : findLease client.packetCtx.arpList now
              (readIpv4 (packet.read ipv4HeaderLen) ipv4OffDst) with
      | none =>
        rw [found] at member
        exact single _ _ _ frame member
      | some lease =>
        rw [found] at member
        exact single _ _ _ frame member

theorem readMac_behind {front : Bytes} (six : front.length = 6) (mac : MacAddr) (rest : Bytes)
    : readMac (front ++ mac.toBytes ++ rest) etherOffSrc = mac := by
  match front, six with
  | [_, _, _, _, _, _], _ => rfl

/-- A frame goes out with the address of its interface as source, and keeps its length. -/
theorem Interfaces.sendpacket_source {interfaces : Interfaces count}
    {map : OrderedMap MacAddr (Fin count)} {data frame : Bytes}
    (header : etherHeaderLen ≤ data.length)
    (sent : (interf, frame) ∈ interfaces.sendpacket map data)
    : readMac frame etherOffSrc = interfaces.mac interf ∧ frame.length = data.length := by
  have shape : frame = data.take 6 ++ (interfaces.mac interf).toBytes ++ data.drop 12 := by
    unfold sendpacket interfSendpacket at sent
    cases found : map.get? (readMac data etherOffSrc) with
    | none =>
      rw [found] at sent
      obtain ⟨other, _, same⟩ := mem_map.mp sent
      cases same
      rfl
    | some known =>
      rw [found] at sent
      cases mem_singleton.mp sent
      rfl
  have room : 14 ≤ data.length := header
  have front : (data.take 6).length = 6 := by
    rw [length_take]
    omega
  rw [shape]
  refine ⟨readMac_behind front _ _, ?_⟩
  rw [length_append, length_append, front, MacAddr.toBytes_length, length_drop]
  omega

/-- The buffer for frames keeps the size it was set up with. -/
theorem runFrom_bufferLen {interfaces : Interfaces count} {ip subnetNet subnetMask : Ipv4Addr}
    {client : PcapClient count}
    (reached : runFrom interfaces ip subnetNet subnetMask history = some client)
    : client.packetCtx.bufferLen = bufferSize := by
  refine Machine.failing_run_invariant
    (fun client : PcapClient count => client.packetCtx.bufferLen = bufferSize) ?_ rfl reached
  intro client event next output size stepped
  cases event with
  | captured now interf packet len =>
    simp only [PcapClient.step] at stepped
    split at stepped
    · exact (PcapClient.callback_some stepped).2.bufferLen.trans size
    · cases stepped
      exact size
  | relayed now packet len =>
    cases stepped
    rw [(client.lanClientProcess_client now packet len).2]
    exact size
  | realBroadcast =>
    cases stepped
    exact size

/-- What is sent for the relay carries the address of the sending interface and is short. -/
theorem EmittedFor.source {interfaces : Interfaces count} {ip subnetNet subnetMask : Ipv4Addr}
    {frame : Bytes} (emitted : EmittedFor interfaces ip subnetNet subnetMask history interf frame)
    : readMac frame etherOffSrc = interfaces.mac interf
      ∧ etherHeaderLen ≤ frame.length
      ∧ frame.length < bufferSize := by
  obtain ⟨first, now, packet, len, rest, client, next, output, _, reached, stepped, member⟩ :=
    emitted
  cases stepped
  obtain ⟨data, sent, member⟩ := mem_flatMap.mp member
  obtain ⟨dst, type, payload, sent⟩ := client.lanClientProcess_sends now packet len data sent
  rw [sendEther_eq_ite, runFrom_bufferLen reached] at sent
  split at sent
  · rename_i fits
    cases sent
    rw [← etherHeader_length dst client.packetCtx.mac type, ← length_append] at fits
    have header
        : etherHeaderLen
          ≤ (etherHeader dst client.packetCtx.mac type ++ payload.flatten).length := by
      rw [length_append, etherHeader_length]
      exact Nat.le_add_right _ _
    obtain ⟨source, length⟩ := Interfaces.sendpacket_source header member
    exact ⟨source, length ▸ header, length ▸ fits⟩
  · cases sent

/-- An echo is a short frame of another sender. -/
theorem IsEcho.foreign {interfaces : Interfaces count}
    (distinct : Function.Injective interfaces.mac) {ip subnetNet subnetMask : Ipv4Addr}
    (echo : IsEcho interfaces ip subnetNet subnetMask history interf (packet.read len))
    : (parseEther packet).src ≠ interfaces.mac interf ∧ len < 65536 := by
  obtain ⟨other, differs, _, emitted⟩ := echo
  obtain ⟨source, header, short⟩ := emitted.source
  rw [Memory.read_length] at header short
  constructor
  · have same : (parseEther packet).src = readMac (packet.read len) etherOffSrc := by
      have inside : etherOffSrc + 6 ≤ len := Nat.le_trans (by decide) header
      exact (readMac_read packet (by decide)).trans (readMac_read packet inside).symm
    rw [same, source]
    exact fun equal => differs (distinct equal)
  · exact short.trans (by decide)

/-- No frame that was sent for the relay comes back to it during a history exactly when, whenever
one is captured again on its LAN, it does not go to the relay by its contents.
-/
theorem no_echo_handed_iff {interfaces : Interfaces count}
    (distinct : Function.Injective interfaces.mac) (ip subnetNet subnetMask : Ipv4Addr)
    (history : List (PcapEvent count))
    : (∀ before now interf packet len after client next output,
        history = before ++ .captured now interf packet len :: after
        → runFrom interfaces ip subnetNet subnetMask before = some client
        → IsEcho interfaces ip subnetNet subnetMask before interf (packet.read len)
        → client.step interfaces (.captured now interf packet len) = some (next, output)
        → output.handed = [])
      ↔ ∀ before now interf packet len after client,
          history = before ++ .captured now interf packet len :: after
          → runFrom interfaces ip subnetNet subnetMask before = some client
          → IsEcho interfaces ip subnetNet subnetMask before interf (packet.read len)
          → ¬ GoesToRelay client.packetCtx now packet len := by
  constructor
  · intro holds before now interf packet len after client split reached echo goes
    obtain ⟨foreign, short⟩ := echo.foreign distinct
    obtain ⟨next, output, stepped, handed⟩ :=
      (client.step_handed_iff now short foreign).mpr goes
    exact handed
      (holds before now interf packet len after client next output split reached echo stepped)
  · intro kept before now interf packet len after client next output split reached echo stepped
    obtain ⟨foreign, short⟩ := echo.foreign distinct
    by_contra handed
    exact kept before now interf packet len after client split reached echo
      ((client.step_handed_iff now short foreign).mp ⟨next, output, stepped, handed⟩)

/-- Interfaces on LANs of their own hear no echo. -/
theorem not_isEcho {interfaces : Interfaces count}
    (separate : Function.Injective interfaces.segment) (ip subnetNet subnetMask : Ipv4Addr)
    (history : List (PcapEvent count)) (interf : Fin count) (frame : Bytes)
    : ¬ IsEcho interfaces ip subnetNet subnetMask history interf frame := by
  rintro ⟨other, differs, together, _⟩
  exact differs (separate together)

def relayBroadcast : PcapEvent 2 :=
  .relayed 0 (Memory.write (fun _ => 0) 0 (emptyPacket (consoleIp 7) ⟨10, 13, 255, 255⟩)) 20

def broadcastReturns (interfaces : Interfaces 2) : PcapEvent 2 :=
  frameArrives secondLan broadcastMac (interfaces.mac firstLan) (consoleIp 7) ⟨10, 13, 255, 255⟩

theorem no_echo_handed_iff_twoLans
    : Function.Injective twoLans.mac
      ∧ ∀ before now interf packet len after client next output,
          [relayBroadcast, broadcastReturns twoLans]
            = before ++ .captured now interf packet len :: after
          → runFrom twoLans ⟨10, 13, 37, 1⟩ ⟨10, 13, 0, 0⟩ ⟨255, 255, 0, 0⟩ before = some client
          → IsEcho twoLans ⟨10, 13, 37, 1⟩ ⟨10, 13, 0, 0⟩ ⟨255, 255, 0, 0⟩ before interf
              (packet.read len)
          → client.step twoLans (.captured now interf packet len) = some (next, output)
          → output.handed = [] := by
  have distinct : Function.Injective twoLans.mac := by decide
  have separate : Function.Injective twoLans.segment := by decide
  refine ⟨distinct, (no_echo_handed_iff distinct _ _ _ _).mpr ?_⟩
  intro before _ interf packet len _ _ _ _ echo
  exact absurd echo (not_isEcho separate _ _ _ before interf (packet.read len))

def oneLan : Interfaces 2 := { twoLans with segment := fun _ => 0 }

/-- A broadcast of the relay is sent on both interfaces, and what the second one hears of the first
one is handed to the relay again.
-/
theorem broadcast_returns_to_relay
    : Function.Injective oneLan.mac
      ∧ IsEcho oneLan ⟨10, 13, 37, 1⟩ ⟨10, 13, 0, 0⟩ ⟨255, 255, 0, 0⟩ [relayBroadcast] 1
          (etherHeader broadcastMac (oneLan.mac 0) etherTypeIpv4
            ++ emptyPacket (consoleIp 7) ⟨10, 13, 255, 255⟩)
      ∧ ((clientAfter oneLan [relayBroadcast]).bind (fun client =>
            client.step oneLan (broadcastReturns oneLan))).map
          (fun outcome =>
            outcome.2.handed.map (fun handed => (handed.dstIp, handed.packet.read handed.len)))
        = some [(⟨10, 13, 255, 255⟩, emptyPacket (consoleIp 7) ⟨10, 13, 255, 255⟩)] := by
  refine ⟨by decide, ⟨0, by decide, rfl, [], 0, _, 20, [], _, _, _, rfl, rfl, rfl, ?_⟩, ?_⟩
  · decide +kernel
  · decide +kernel

end SwitchLanPlay.Client
