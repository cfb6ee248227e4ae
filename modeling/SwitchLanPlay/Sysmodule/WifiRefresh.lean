import SwitchLanPlay.Packet.Address
import SwitchLanPlay.Sysmodule.Segments

/-! The two copies of the console's WiFi address. The capture thread refreshes `lp->wifi_ip` every
ten turns; the bridge, whose `g_wifi_ip` the rewriter uses, asks when it starts and later only
while it is zero.
-/

namespace SwitchLanPlay.Sysmodule

open Foundation
open Packet

def hostOrder (ip : Ipv4Addr) : UInt32 := UInt32.ofNat (readBe32 ip.toBytes 0)

/-- `report` is what `nifmGetCurrentIpAddress` answers, nothing while it fails, and
`capturing` tells whether `ldn_bridge_udp_thread_fn` has started.
-/
structure WifiCopies where
  report : Option Ipv4Addr
  wifiRefreshTicks : Nat
  wifiIp : Ipv4Addr
  capturing : Bool
  bridge : Addresses
deriving DecidableEq, Repr

inductive WifiEvent where
  /-- From now on `nifmGetCurrentIpAddress` answers `current`. -/
  | report (current : Option Ipv4Addr)
  /-- A turn of `tap_recv_thread_fn`. -/
  | tapTurn
  | udpThreadStart
  /-- The bridge captures a datagram of `ldn_mitm`. -/
  | captured (datagram : Bytes)
  /-- A session thread receives a chunk of a proxied connection. -/
  | tcpChunk (targetIp : UInt32) (chunk : Bytes)
deriving DecidableEq, Repr

/-- What a step shows: the address `nifmGetCurrentIpAddress` answered to `refresh_wifi_ip`,
and the packet passed to `lan_client_send_ipv4`.
-/
structure WifiOutput where
  answer : Option Ipv4Addr
  packet : Option Bytes
deriving DecidableEq, Repr

def WifiCopies.tapTurn (copies : WifiCopies) : WifiCopies :=
  if copies.wifiRefreshTicks + 1 < 10 then
    { copies with wifiRefreshTicks := copies.wifiRefreshTicks + 1 }
  else
    let wifiIp :=
      match copies.report with
      | none => copies.wifiIp
      | some current => if current = noneIp then copies.wifiIp else current
    { copies with wifiRefreshTicks := 0, wifiIp := wifiIp }

/-- Whether a captured datagram makes the bridge call `refresh_wifi_ip`. -/
def Addresses.asks (addresses : Addresses) (datagram : Bytes) : Bool :=
  ldnHeaderSize ≤ (datagram.take 2048).length
    ∧ (LdnMitm.readLANPacketHeader (datagram.take 2048)).magic = ldnMagic
    ∧ addresses.wifiIp = 0

def WifiCopies.step (copies : WifiCopies) : WifiEvent → WifiCopies × WifiOutput
  | .report current => ({ copies with report := current }, ⟨none, none⟩)
  | .tapTurn => (copies.tapTurn, ⟨none, none⟩)
  | .udpThreadStart =>
    if copies.capturing then (copies, ⟨none, none⟩)
    else
      ({
          copies with
          capturing := true
          bridge := copies.bridge.refreshWifiIp (copies.report.map hostOrder)
        },
        ⟨copies.report, none⟩)
  | .captured datagram =>
    if copies.capturing then
      let outcome := captureLdn copies.bridge (copies.report.map hostOrder) datagram
      ({ copies with bridge := outcome.1 },
        ⟨if copies.bridge.asks datagram then copies.report else none, outcome.2⟩)
    else (copies, ⟨none, none⟩)
  | .tcpChunk targetIp chunk => (copies, ⟨none, sessionPacket copies.bridge targetIp chunk⟩)

def wifiMachine : Machine WifiCopies WifiEvent WifiOutput := ⟨WifiCopies.step⟩

/-- What `main` finds: the address it waited for, the answer to `ldn_bridge_init`, the virtual
address of the configuration, and `g_wifi_ip` as an earlier runtime left it.
-/
structure WifiSetup where
  wifiIp : Ipv4Addr
  report : Option Ipv4Addr
  virtualIp : UInt32
  left : UInt32
deriving DecidableEq, Repr

def WifiSetup.start (setup : WifiSetup) : WifiCopies where
  report := setup.report
  wifiRefreshTicks := 0
  wifiIp := setup.wifiIp
  capturing := false
  bridge := (⟨setup.left, setup.virtualIp⟩ : Addresses).refreshWifiIp (setup.report.map hostOrder)

def WifiSetup.stateAfter (setup : WifiSetup) (history : List WifiEvent) : WifiCopies :=
  wifiMachine.run setup.start history

def WifiSetup.answers (setup : WifiSetup) (history : List WifiEvent) : List Ipv4Addr :=
  setup.report.toList ++ (wifiMachine.outputs setup.start history).filterMap WifiOutput.answer

def WifiSetup.heard (setup : WifiSetup) (history : List WifiEvent) : UInt32 :=
  ((setup.answers history).getLast?.map hostOrder).getD setup.left

-- The copy of the bridge

theorem captureLdn_addresses (addresses : Addresses) (current : Option UInt32)
    (datagram : Bytes)
    : (captureLdn addresses current datagram).1
      = if addresses.asks datagram then addresses.refreshWifiIp current else addresses := by
  unfold captureLdn Addresses.asks
  dsimp only
  generalize datagram.take 2048 = data
  by_cases short : data.length < ldnHeaderSize
  · simp [short, Nat.not_le_of_lt short]
  · by_cases magic : (LdnMitm.readLANPacketHeader data).magic = ldnMagic
    · simp only [short, if_false, magic, ne_eq, not_true_eq_false, Nat.le_of_not_lt short, true_and,
        decide_eq_true_eq]
    · simp [short, magic]

/-- A step changes the bridge's copy exactly by an answer it gets. -/
theorem WifiCopies.step_bridge (copies : WifiCopies) (event : WifiEvent)
    : (copies.step event).1.bridge
      = copies.bridge.refreshWifiIp ((copies.step event).2.answer.map hostOrder) := by
  cases event with
  | report current => rfl
  | tapTurn =>
    simp only [WifiCopies.step, WifiCopies.tapTurn]
    split <;> rfl
  | udpThreadStart =>
    simp only [WifiCopies.step]
    split <;> rfl
  | captured datagram =>
    simp only [WifiCopies.step]
    split
    · rw [captureLdn_addresses]
      split <;> rfl
    · rfl
  | tcpChunk targetIp chunk => rfl

theorem WifiSetup.stateAfter_concat (setup : WifiSetup) (history : List WifiEvent)
    (event : WifiEvent)
    : setup.stateAfter (history ++ [event]) = ((setup.stateAfter history).step event).1 :=
  wifiMachine.run_concat setup.start history event

theorem WifiSetup.heard_concat (setup : WifiSetup) (history : List WifiEvent)
    (event : WifiEvent)
    : setup.heard (history ++ [event])
      = (((setup.stateAfter history).step event).2.answer.map hostOrder).getD
          (setup.heard history) := by
  have outputs := wifiMachine.outputs_concat setup.start history event
  unfold heard answers
  rw [outputs, List.filterMap_append, ← List.append_assoc]
  change _ = (Option.map hostOrder (wifiMachine.step (wifiMachine.run setup.start history)
    event).2.answer).getD _
  cases answered : (wifiMachine.step (wifiMachine.run setup.start history) event).2.answer with
  | none => simp [answered]
  | some address => simp [answered]

/-- The bridge's copy is the last answer it got, in every reachable state. -/
theorem WifiSetup.stateAfter_bridge (setup : WifiSetup) (history : List WifiEvent)
    : (setup.stateAfter history).bridge = ⟨setup.heard history, setup.virtualIp⟩ := by
  induction history using List.reverseRecOn with
  | nil =>
    unfold stateAfter start heard answers
    cases setup.report <;> rfl
  | append_singleton history event ih =>
    rw [setup.stateAfter_concat, WifiCopies.step_bridge, ih, setup.heard_concat]
    rfl

-- What is forwarded

/-- A packet is forwarded with `virtualIp` in every counted node that had the address
`wifiIp`.
-/
def ForwardedWith (wifiIp virtualIp : UInt32) (data : Bytes) (packet : Option Bytes) : Prop :=
  ∃ sent,
    packet = some sent
    ∧ ∀ offset ∈ addressOffsets data,
        readLe32 data offset = wifiIp.toNat
        → readLe32 (sent.drop 28) offset = virtualIp.toNat

/-- The rewriter replaces an address if it is the one it knows. -/
theorem Carries.virtualized_iff {addresses : Addresses} {wifiIp : UInt32} {data sent : Bytes}
    (carries : Carries wifiIp data)
    (payload : sent.drop 28 = rewriteIps addresses true (data.take 2048))
    : ForwardedWith wifiIp addresses.virtualIp data (some sent)
      ↔ wifiIp = addresses.virtualIp ∨ addresses.wifiIp = wifiIp ∧ wifiIp ≠ 0 := by
  have replaced {offset : Nat} (member : offset ∈ addressOffsets data)
      (read : readLe32 data offset = wifiIp.toNat)
      : readLe32 (sent.drop 28) offset = addresses.replaced wifiIp.toNat := by
    have inTake := member
    rw [← addressOffsets_take] at inTake
    rw [payload, readLe32_rewriteIps addresses inTake, readLe32_take member, read]
  have exact_iff : addresses.replaced wifiIp.toNat = addresses.virtualIp.toNat
      ↔ wifiIp = addresses.virtualIp ∨ addresses.wifiIp = wifiIp ∧ wifiIp ≠ 0 := by
    unfold Addresses.replaced
    simp only [UInt32.toNat_inj]
    split
    · rename_i hit
      exact iff_of_true rfl (.inr ⟨hit.1.symm, hit.1 ▸ hit.2⟩)
    · rename_i missed
      rw [UInt32.toNat_inj]
      refine ⟨.inl, fun known => known.resolve_right fun same => missed ?_⟩
      exact ⟨same.1.symm, same.1 ▸ same.2⟩
  rw [← exact_iff]
  constructor
  · rintro ⟨_, forwarded, virtual⟩
    cases forwarded
    obtain ⟨offset, member, read⟩ := carries
    exact (replaced member read).symm.trans (virtual offset member read)
  · intro same
    exact ⟨sent, rfl, fun offset member read => (replaced member read).trans same⟩

/-- In every reachable state, a packet whose counted nodes carry the address in `lp->wifi_ip`
is forwarded with the virtual address exactly when that address is the last one the bridge
was told itself, at the latest for this packet. A chunk of a proxied connection does not make
the bridge ask.
-/
theorem WifiSetup.forwardedWith_iff (setup : WifiSetup) (history : List WifiEvent)
    {data : Bytes}
    (carries : Carries (hostOrder (setup.stateAfter history).wifiIp) data)
    : ((setup.stateAfter history).capturing = true
        → (ForwardedWith (hostOrder (setup.stateAfter history).wifiIp) setup.virtualIp data
              ((setup.stateAfter history).step (.captured data)).2.packet
            ↔ hostOrder (setup.stateAfter history).wifiIp = setup.virtualIp
              ∨ setup.heard (history ++ [.captured data])
                  = hostOrder (setup.stateAfter history).wifiIp
                ∧ hostOrder (setup.stateAfter history).wifiIp ≠ 0))
      ∧ (data.length ≤ 2048
        → ∀ targetIp,
            ForwardedWith (hostOrder (setup.stateAfter history).wifiIp) setup.virtualIp data
              ((setup.stateAfter history).step (.tcpChunk targetIp data)).2.packet
            ↔ hostOrder (setup.stateAfter history).wifiIp = setup.virtualIp
              ∨ setup.heard history = hostOrder (setup.stateAfter history).wifiIp
                ∧ hostOrder (setup.stateAfter history).wifiIp ≠ 0) := by
  constructor
  · intro capturing
    obtain ⟨long, magic⟩ := carries.take.isLdn
    obtain ⟨sent, captured, _, payload⟩ := captureLdn_eq (setup.stateAfter history).bridge
      ((setup.stateAfter history).report.map hostOrder) long magic
    have after := setup.stateAfter_bridge (history ++ [.captured data])
    rw [setup.stateAfter_concat] at after
    simp only [WifiCopies.step, capturing, if_true, captured] at after ⊢
    rw [after] at payload
    exact carries.virtualized_iff payload
  · intro fits targetIp
    have bridge := setup.stateAfter_bridge history
    obtain ⟨sent, packet, payload⟩ :=
      sessionPacket_payload (setup.stateAfter history).bridge targetIp fits
    simp only [WifiCopies.step, packet]
    have whole : data.take 2048 = data := List.take_of_length_le fits
    rw [bridge, ← whole] at payload
    exact carries.virtualized_iff payload

def sampleSetup : WifiSetup := ⟨⟨192, 168, 1, 2⟩, some ⟨192, 168, 1, 2⟩, 0x0A0D0002, 0⟩

theorem forwardedWith_sampleSetup
    : ForwardedWith 0xC0A80102 0x0A0D0002 (LdnMitm.sendPacket .connect wifiNode.toBytes)
        ((sampleSetup.stateAfter [.udpThreadStart]).step
          (.captured (LdnMitm.sendPacket .connect wifiNode.toBytes))).2.packet := by
  have carries : Carries (hostOrder (sampleSetup.stateAfter [.udpThreadStart]).wifiIp)
      (LdnMitm.sendPacket .connect wifiNode.toBytes) := by
    decide +kernel
  have followed := (sampleSetup.forwardedWith_iff [.udpThreadStart] carries).1 rfl
  exact followed.mpr (.inr (by decide +kernel))

def addressChange : List WifiEvent :=
  [.udpThreadStart, .report (some ⟨192, 168, 1, 3⟩)] ++ List.replicate 10 .tapTurn

/-- The bridge keeps to the old address, so `Connect` leaves with the new WiFi address. -/
theorem addressChange_not_followed
    : (sampleSetup.stateAfter addressChange).wifiIp = ⟨192, 168, 1, 3⟩
      ∧ (sampleSetup.stateAfter addressChange).bridge.wifiIp = hostOrder ⟨192, 168, 1, 2⟩
      ∧ ∃ sent,
          ((sampleSetup.stateAfter addressChange).step
              (.captured (LdnMitm.sendPacket .connect
                { wifiNode with ipv4Address := hostOrder ⟨192, 168, 1, 3⟩ }.toBytes))).2.packet
            = some sent
          ∧ sent.drop 28
            = LdnMitm.sendPacket .connect
                { wifiNode with ipv4Address := hostOrder ⟨192, 168, 1, 3⟩ }.toBytes
          ∧ 12 ∈ addressOffsets (sent.drop 28)
          ∧ readLe32 (sent.drop 28) 12 = (hostOrder ⟨192, 168, 1, 3⟩).toNat := by
  refine ⟨by decide +kernel, by decide +kernel, _, rfl, ?_, ?_, ?_⟩
  all_goals decide +kernel

end SwitchLanPlay.Sysmodule
