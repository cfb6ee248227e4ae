import SwitchLanPlay.Sysmodule.Delivery
import SwitchLanPlay.Sysmodule.Segments
import SwitchLanPlay.Sysmodule.Tap

/-! The TCP tunnel: each chunk of a proxied connection travels in a UDP packet of its own and
is written to the session of its sender on the other console.
-/

namespace SwitchLanPlay.Sysmodule

open List
open Foundation
open Packet

def writtenTo (clientFd : Nat) (deliveries : List Delivery) : Bytes :=
  (deliveries.filterMap Delivery.tcp?).flatMap
    (fun sent => if sent.1 = clientFd then sent.2 else [])

def tunnelDeliveries (ctx : PacketCtx) (dst : MacAddr) (tap : Tap) (calls : TapCalls)
    (packets : List Bytes)
    : List Delivery :=
  (tap.tapSendPackets calls
    (packets.flatMap (fun packet => (sendEther ctx dst etherTypeIpv4 [packet]).toList))).2

def Unrewritten (addresses : Addresses) (data : Bytes) : Prop :=
  addresses.wifiIp = 0 ∨ addresses.wifiIp = addresses.virtualIp ∨ ¬ Carries addresses.wifiIp data

/-- Tunnelled data leaves the state behind `tap_send_packet` as it is. Four octets and more
are written to the session of the sender, and fewer to none.
-/
theorem Tap.tapSendPacket_tunnel (tap : Tap) {calls : TapCalls}
    (succeed : SendsSucceed calls.send) {srcIp dstIp : UInt32} {payload packet : Bytes}
    (nonempty : 0 < payload.length) (bounded : payload.length ≤ 2048)
    (built
      : buildIpUdp (2048 + 28) srcIp dstIp ldnBridgePort ldnGamePort payload = some packet)
    (dst src : MacAddr)
    : (tap.tapSendPacket calls (etherHeader dst src etherTypeIpv4 ++ packet)).1 = tap
      ∧ (tap.tapSendPacket calls
            (etherHeader dst src etherTypeIpv4 ++ packet)).2.1.filterMap Delivery.tcp?
          = if 4 ≤ payload.length then
              ((tap.sessions.socketFor srcIp).map (·, payload)).toList
            else [] := by
  have handled := tap.tapSendPacket_buildIpUdp calls (by decide) (by decide) nonempty (by omega)
    built dst src
  rw [handled]
  by_cases long : 4 ≤ payload.length
  · rw [tap.sendUdp_tunnel succeed srcIp dstIp long, if_pos long]
    refine ⟨rfl, ?_⟩
    cases tap.sessions.socketFor srcIp <;> rfl
  · rw [tap.sendUdp_short calls srcIp dstIp (Nat.lt_of_not_le long), if_neg long]
    refine ⟨rfl, ?_⟩
    unfold rawInject
    dsimp only
    split
    · rfl
    · split <;> rfl

def chunkWritten (addresses : Addresses) (sessions : Sessions) (clientFd : Nat) (chunk : Bytes)
    : Bytes :=
  if 4 ≤ chunk.length ∧ chunk.length ≤ 2005
      ∧ sessions.socketFor addresses.virtualIp = some clientFd then
    rewriteIps addresses true chunk
  else []

/-- The chunks are handled one by one, since none changes the session table. -/
theorem writtenTo_tunnelDeliveries {ctx : PacketCtx} (bufferLen : ctx.bufferLen = 2048)
    (dst : MacAddr) (addresses : Addresses) (targetIp : UInt32) (tap : Tap) {calls : TapCalls}
    (succeed : SendsSucceed calls.send) (clientFd : Nat) {chunks : List Bytes}
    (positive : ∀ chunk ∈ chunks, 0 < chunk.length)
    (bounded : ∀ chunk ∈ chunks, chunk.length ≤ 2048)
    : writtenTo clientFd
        (tunnelDeliveries ctx dst tap calls (chunks.filterMap (sessionPacket addresses targetIp)))
      = chunks.flatMap (chunkWritten addresses tap.sessions clientFd) := by
  induction chunks with
  | nil => rfl
  | cons chunk chunks ih =>
    rw [forall_mem_cons] at positive bounded
    have size := rewriteIps_length addresses chunk
    obtain ⟨packet, built, _⟩ := sessionPacket_payload addresses targetIp bounded.1
    have length := (buildIpUdp_fields built).1
    have later := ih positive.2 bounded.2
    unfold tunnelDeliveries at later ⊢
    rw [filterMap_cons_some built, flatMap_cons, flatMap_cons,
      sendEther_eq (by rw [bufferLen]; decide), bufferLen, ← later]
    by_cases fits : chunk.length ≤ 2005
    · obtain ⟨same, written⟩ := tap.tapSendPacket_tunnel succeed (by omega) (by omega) built dst
        ctx.mac
      rw [if_pos (by rw [length, size]; simp only [etherHeaderLen]; omega), Option.toList_some,
        singleton_append, Tap.tapSendPackets]
      simp only [same]
      rw [writtenTo, filterMap_append, flatMap_append, written, size]
      refine congrArg (· ++ _) ?_
      unfold chunkWritten
      by_cases long : 4 ≤ chunk.length
      · cases tap.sessions.socketFor addresses.virtualIp <;> simp [long, fits]
      · simp [long]
    · rw [if_neg (by rw [length, size]; simp only [etherHeaderLen]; omega), Option.toList_none,
        nil_append, chunkWritten, if_neg fun all => fits all.2.1, nil_append]

/-- A chunk arrives as it was exactly when it has 4 to 2005 octets, is not rewritten, and the
first session of its sender is the one looked at.
-/
theorem chunkWritten_eq_iff {addresses : Addresses} {sessions : Sessions} {clientFd : Nat}
    {chunk : Bytes} (positive : 0 < chunk.length)
    : chunkWritten addresses sessions clientFd chunk = chunk
      ↔ sessions.socketFor addresses.virtualIp = some clientFd
        ∧ 4 ≤ chunk.length ∧ chunk.length ≤ 2005 ∧ Unrewritten addresses chunk := by
  unfold chunkWritten Unrewritten
  rw [← rewriteIps_eq_self_iff]
  split
  · rename_i taken
    exact ⟨fun same => ⟨taken.2.2, taken.1, taken.2.1, same⟩, fun all => all.2.2.2⟩
  · rename_i dropped
    refine iff_of_false (fun same => ?_) fun all => dropped ⟨all.2.1, all.2.2.1, all.1⟩
    rw [← same] at positive
    exact absurd positive (Nat.lt_irrefl 0)

/-- The tunnel is transparent for a stream exactly when every chunk has 4 to 2005 octets and
nothing to rewrite, and the session is the first active one for its sender. The receiver is in
any reachable state.
-/
theorem tunnel_transparent_iff (sha1 : Bytes → Bytes) (config : Config) (history : List Event)
    (dst : MacAddr) (addresses : Addresses) (targetIp : UInt32) {stream : Bytes}
    {chunks : List Bytes} (cut : Chunks stream chunks) (tap : Tap) {calls : TapCalls}
    (succeed : SendsSucceed calls.send) (clientFd : Nat)
    : writtenTo clientFd
          (tunnelDeliveries (config.stateAfter sha1 history).packetCtx dst tap calls
            (chunks.filterMap (sessionPacket addresses targetIp)))
        = stream
      ↔ ∀ chunk ∈ chunks,
          tap.sessions.socketFor addresses.virtualIp = some clientFd
          ∧ 4 ≤ chunk.length ∧ chunk.length ≤ 2005 ∧ Unrewritten addresses chunk := by
  have bufferLen : (config.stateAfter sha1 history).packetCtx.bufferLen = 2048 :=
    (config.stateAfter_settings sha1 history).bufferLen
  have shrinks (chunk : Bytes) (_ : chunk ∈ chunks)
      : (chunkWritten addresses tap.sessions clientFd chunk).length ≤ (id chunk).length := by
    unfold chunkWritten
    split
    · exact (rewriteIps_length addresses chunk).le
    · exact Nat.zero_le _
  rw [writtenTo_tunnelDeliveries bufferLen dst addresses targetIp tap succeed clientFd cut.positive
    cut.bounded, ← cut.joined, ← List.flatMap_id, flatMap_eq_flatMap_iff shrinks]
  exact forall₂_congr fun chunk member => chunkWritten_eq_iff (cut.positive chunk member)

def tunnelTap : Tap :=
  {
    injectOpen := true
    bridgeInjectOpen := true
    lobbyCache := .init
    sessions := Sessions.zero.tcpThreadStart.accept 7 [10, 13, 0, 2] true
  }

def slowCalls : TapCalls := ⟨fun _ => 1, true, true, true, 1⟩

theorem tunnel_transparent_slow
    : writtenTo 7
        (tunnelDeliveries (sampleConfig.stateAfter id []).packetCtx broadcastMac tunnelTap slowCalls
          ([[1, 2, 3, 4], [5, 6, 7, 8, 9]].filterMap (sessionPacket sampleAddresses 0x0A0D0005)))
      = [1, 2, 3, 4, 5, 6, 7, 8, 9] := by
  have cut : Chunks [1, 2, 3, 4, 5, 6, 7, 8, 9] [[1, 2, 3, 4], [5, 6, 7, 8, 9]] :=
    ⟨rfl, by decide, by decide⟩
  have socket : tunnelTap.sessions.socketFor sampleAddresses.virtualIp = some 7 := by
    decide +kernel
  refine (tunnel_transparent_iff id sampleConfig [] broadcastMac sampleAddresses 0x0A0D0005 cut
    tunnelTap (fun _ _ => Nat.one_pos) 7).mpr fun chunk member => ⟨socket, ?_⟩
  have sizes : ∀ chunk ∈ [[1, 2, 3, 4], [5, 6, 7, 8, 9]],
      4 ≤ chunk.length ∧ chunk.length ≤ 2005 ∧ ¬ Carries sampleAddresses.wifiIp chunk := by
    decide +kernel
  obtain ⟨low, high, absent⟩ := sizes chunk member
  exact ⟨low, high, .inr (.inr absent)⟩

/-- A chunk of three octets is lost between two that arrive. -/
theorem tunnel_loses_short_chunk
    : Chunks [1, 2, 3, 4, 5, 6, 7, 8, 9, 10, 11] [[1, 2, 3, 4], [5, 6, 7], [8, 9, 10, 11]]
      ∧ tunnelTap.sessions.socketFor sampleAddresses.virtualIp = some 7
      ∧ (∀ start, ¬ Carries sampleAddresses.wifiIp
          (([1, 2, 3, 4, 5, 6, 7, 8, 9, 10, 11] : Bytes).drop start))
      ∧ writtenTo 7
          (tunnelDeliveries (sampleConfig.stateAfter id []).packetCtx broadcastMac tunnelTap
            slowCalls
            ([[1, 2, 3, 4], [5, 6, 7], [8, 9, 10, 11]].filterMap
              (sessionPacket sampleAddresses 0x0A0D0005)))
        = [1, 2, 3, 4, 8, 9, 10, 11] := by
  refine ⟨⟨rfl, by decide, by decide⟩, by decide +kernel, fun start carries => ?_,
    by decide +kernel⟩
  have long := carries.isLdn.1
  simp only [List.length_drop, List.length_cons, List.length_nil, ldnHeaderSize] at long
  omega

end SwitchLanPlay.Sysmodule
