import SwitchLanPlay.Foundation.Access
import SwitchLanPlay.Sysmodule.Tunnel

/-! What `tap_send_packet` reads and delivers, with every read checked against the octets of the
frame, or behind the payload pointer against the length passed with it. The lengths of the IP
header and of the UDP packet are arbitrary.
-/

namespace SwitchLanPlay.Sysmodule

open List Option
open Foundation
open Packet
open LdnMitm (LANPacketType readLANPacketHeader)

-- Checked reads

def sendAll? (send : Bytes → Nat) (data : Bytes) : Nat → Nat → Option Bytes
  | 0, _ => some []
  | fuel + 1, sent => do
      let left ← readSlice? (data.length - sent) data sent
      let n := min (send left) left.length
      if n = 0 then return []
      else
        let rest ← sendAll? send data fuel (sent + n)
        return left.take n ++ rest

def tcpInjectFromRelay? (sessions : Sessions) (calls : TapCalls) (srcIp : UInt32) (data : Bytes)
    : Option (List Delivery) :=
  if data.length = 0 then some []
  else
    match sessions.socketFor srcIp with
    | none => some []
    | some clientFd => do
        let sent ← sendAll? calls.send data data.length 0
        return [.tcp clientFd sent]

def sameLobby? (cached payload : Bytes) : Option Bool :=
  if ldnHeaderSize + 32 ≤ payload.length ∧ ldnHeaderSize + 32 ≤ cached.length then do
    let networkId ← readSlice? 32 payload ldnHeaderSize
    return slice cached ldnHeaderSize 32 = networkId
  else some false

def lobbyScan? (lobbies : Fin lobbyCacheSize → CachedLobby) (payload : Bytes)
    : List (Fin lobbyCacheSize) → Option (Fin lobbyCacheSize) → Fin lobbyCacheSize → UInt64
      → Option (Fin lobbyCacheSize)
  | [], slot, oldestSlot, _ => some (slot.getD oldestSlot)
  | i :: rest, slot, oldestSlot, oldestTick =>
    if !(lobbies i).valid then
      lobbyScan? lobbies payload rest (slot <|> some i) oldestSlot oldestTick
    else do
      let same ← sameLobby? (lobbies i).data payload
      if same then return i
      else if oldestTick = 0 ∨ (lobbies i).timestamp < oldestTick then
        lobbyScan? lobbies payload rest slot i (lobbies i).timestamp
      else lobbyScan? lobbies payload rest slot oldestSlot oldestTick

def readLdnHeader? (payload : Bytes) : Option (Nat × UInt8) := do
  let magic ← readAt? readLe32 4 payload 0
  let type ← readAt? (fun region offset => region.getD offset 0) 1 payload 4
  return (magic, type)

theorem lobbyCacheSize_pos : 0 < lobbyCacheSize := by decide

def LobbyCache.storeIfScanresp? (cache : LobbyCache) (enabled : Bool) (now : UInt64)
    (payload : Bytes)
    : Option LobbyCache :=
  if !cache.ready || !enabled then some cache
  else if payload.length < ldnHeaderSize then some cache
  else do
    let (magic, type) ← readLdnHeader? payload
    if magic ≠ ldnMagic ∨ type ≠ LANPacketType.scanResp.toByte then return cache
    else if 2048 < payload.length then return cache
    else
      let slot ←
        lobbyScan? cache.lobbies payload (finRange lobbyCacheSize) none ⟨0, lobbyCacheSize_pos⟩
          0
      let data ← readSlice? payload.length payload 0
      return { cache with lobbies := Function.update cache.lobbies slot ⟨true, data, now⟩ }

def Tap.ldnBridgeInject? (tap : Tap) (calls : TapCalls) (payload : Bytes)
    : Option (Tap × List Delivery × Int) :=
  if !tap.bridgeInjectOpen || payload.length = 0 then some (tap, [], -1)
  else if payload.length < ldnHeaderSize then some (tap, [], 0)
  else do
    let (magic, _) ← readLdnHeader? payload
    if magic ≠ ldnMagic then return (tap, [], 0)
    else
      let lobbyCache ← tap.lobbyCache.storeIfScanresp? calls.cacheEnabled calls.tick payload
      let data ← readSlice? payload.length payload 0
      let tap := { tap with lobbyCache := lobbyCache }
      if calls.sendLdn then return (tap, [.ldn data], 0) else return (tap, [], -1)

def Tap.rawInject? (tap : Tap) (calls : TapCalls) (udp : UdpPacket)
    : Option (List Delivery × Int) := do
  let data ← readSlice? udp.payload.length udp.payload 0
  return tap.rawInject calls { udp with payload := data }

/-- What `tap_send_packet` does with a UDP packet. Its log looks at the header of an LDN packet. -/
def Tap.sendUdp? (tap : Tap) (calls : TapCalls) (udp : UdpPacket)
    : Option (Tap × List Delivery × Int) :=
  if udp.dstPort = ldnGamePort ∧ 4 ≤ udp.payload.length ∧ udp.srcPort = ldnBridgePort then do
    let delivered ← tcpInjectFromRelay? tap.sessions calls udp.srcIp udp.payload
    return (tap, delivered, 0)
  else if udp.dstPort = ldnGamePort ∧ 12 ≤ udp.payload.length then do
    let _logged ← readLdnHeader? udp.payload
    let injected ← tap.ldnBridgeInject? calls udp.payload
    if injected.2.2 = 0 then return injected
    else
      let raw ← injected.1.rawInject? calls udp
      return (injected.1, injected.2.1 ++ raw.1, raw.2)
  else do
    let raw ← tap.rawInject? calls udp
    return (tap, raw)

def tapParse? (frame : Bytes) : Option (Option UdpPacket) := do
  let packet := frame.drop etherHeaderLen
  let type ← readAt? readBe16 2 frame etherOffType
  if type ≠ 0x0800 then return none
  else if packet.length < 20 then return none
  else
    let verLen ← readAt? readU8 1 packet 0
    if verLen / 16 ≠ 4 then return none
    else
      let headerLen := verLen % 16 * 4
      let protocol ← readAt? readU8 1 packet 9
      let dstIp ← readAt? readBe32 4 packet 16
      if protocol = 17 ∧ headerLen + 8 ≤ packet.length then
        let srcPort ← readAt? readBe16 2 packet headerLen
        let dstPort ← readAt? readBe16 2 packet (headerLen + 2)
        let udpLen ← readAt? readBe16 2 packet (headerLen + 4)
        if udpLen ≤ 8 ∨ packet.length < headerLen + 8 + (udpLen - 8) then return none
        else
          let srcIp ← readAt? readBe32 4 packet 12
          let payload ← readSlice? (udpLen - 8) packet (headerLen + 8)
          return some ⟨UInt32.ofNat srcIp, UInt32.ofNat dstIp, srcPort, dstPort, payload⟩
      else return none

def Tap.tapSendPacket? (tap : Tap) (calls : TapCalls) (frame : Bytes)
    : Option (Tap × List Delivery × Int) :=
  if frame.length ≤ etherHeaderLen then some (tap, [], -1)
  else do
    match ← tapParse? frame with
    | none => return (tap, [], 0)
    | some udp => tap.sendUdp? calls udp

-- Every read is inside

theorem sendAll?_eq (send : Bytes → Nat) (data : Bytes) (fuel : Nat) {sent : Nat}
    (within : sent ≤ data.length)
    : sendAll? send data fuel sent = some (sendAll send fuel (data.drop sent)) := by
  induction fuel generalizing sent with
  | zero => rfl
  | succ fuel ih =>
    have left : slice data sent (data.length - sent) = data.drop sent := by
      rw [slice, ← length_drop, take_length]
    rw [sendAll?, readSlice?_of_le (by omega), left, sendAll, bind_eq_bind,
      bind_some]
    dsimp only
    split
    · rfl
    · rw [ih (by rw [length_drop]; omega), drop_drop]
      rfl

theorem tcpInjectFromRelay?_eq (sessions : Sessions) (calls : TapCalls) (srcIp : UInt32)
    (data : Bytes)
    : tcpInjectFromRelay? sessions calls srcIp data
      = some (tcpInjectFromRelay sessions calls srcIp data) := by
  unfold tcpInjectFromRelay? tcpInjectFromRelay
  split
  · rfl
  · cases sessions.socketFor srcIp with
    | none => rfl
    | some clientFd =>
      dsimp only
      rw [sendAll?_eq calls.send data data.length (Nat.zero_le _), drop_zero]
      rfl

theorem sameLobby?_eq (cached payload : Bytes)
    : sameLobby? cached payload = some (sameLobby cached payload) := by
  unfold sameLobby? sameLobby
  split
  · rename_i long
    rw [readSlice?_of_le long.1]
    simp [long]
  · rename_i short
    simp only [← and_assoc]
    simp [short]

theorem lobbyScan?_eq (lobbies : Fin lobbyCacheSize → CachedLobby) (payload : Bytes)
    (order : List (Fin lobbyCacheSize)) (slot : Option (Fin lobbyCacheSize))
    (oldestSlot : Fin lobbyCacheSize) (oldestTick : UInt64)
    : lobbyScan? lobbies payload order slot oldestSlot oldestTick
      = some (lobbyScan lobbies payload order slot oldestSlot oldestTick) := by
  induction order generalizing slot oldestSlot oldestTick with
  | nil => rfl
  | cons i rest ih =>
    rw [lobbyScan?, lobbyScan]
    split
    · exact ih ..
    · rw [sameLobby?_eq, bind_eq_bind, bind_some]
      split
      · rfl
      · split
        · exact ih ..
        · exact ih ..

theorem readLdnHeader?_eq {payload : Bytes} (long : ldnHeaderSize ≤ payload.length)
    : readLdnHeader? payload
      = some ((readLANPacketHeader payload).magic, (readLANPacketHeader payload).type) := by
  have size : 12 ≤ payload.length := long
  rw [readLdnHeader?, readAt?_of_le (by omega), bind_eq_bind, bind_some,
    readAt?_of_le (by omega)]
  rfl

theorem LobbyCache.storeIfScanresp?_eq (cache : LobbyCache) (enabled : Bool) (now : UInt64)
    (payload : Bytes)
    : cache.storeIfScanresp? enabled now payload
      = some (cache.storeIfScanresp enabled now payload) := by
  unfold storeIfScanresp? storeIfScanresp
  dsimp only
  split
  · rfl
  · split
    · rfl
    · rename_i long
      rw [readLdnHeader?_eq (Nat.le_of_not_lt long), bind_eq_bind, bind_some]
      dsimp only
      split
      · rfl
      · split
        · rfl
        · rw [lobbyScan?_eq, readSlice?_whole]
          rfl

variable (tap : Tap)

theorem Tap.ldnBridgeInject?_eq (calls : TapCalls) (payload : Bytes)
    : tap.ldnBridgeInject? calls payload = some (tap.ldnBridgeInject calls payload) := by
  unfold ldnBridgeInject? ldnBridgeInject
  dsimp only
  split
  · rfl
  · split
    · rfl
    · rename_i long
      rw [readLdnHeader?_eq (Nat.le_of_not_lt long), bind_eq_bind, bind_some]
      dsimp only
      split
      · rfl
      · rw [LobbyCache.storeIfScanresp?_eq, readSlice?_whole]
        dsimp only [bind_eq_bind, bind_some]
        split <;> rfl

theorem Tap.rawInject?_eq (calls : TapCalls) (udp : UdpPacket)
    : tap.rawInject? calls udp = some (tap.rawInject calls udp) := by
  rw [rawInject?, readSlice?_whole]
  rfl

theorem Tap.sendUdp?_eq (calls : TapCalls) (udp : UdpPacket)
    : tap.sendUdp? calls udp = some (tap.sendUdp calls udp) := by
  unfold sendUdp? sendUdp
  split
  · rw [tcpInjectFromRelay?_eq]
    rfl
  · split
    · rename_i ldn
      rw [readLdnHeader?_eq ldn.2, ldnBridgeInject?_eq]
      dsimp only [bind_eq_bind, bind_some]
      split
      · rfl
      · rw [rawInject?_eq]
        rfl
    · rw [rawInject?_eq]
      rfl

theorem tapParse?_eq {frame : Bytes} (long : etherHeaderLen < frame.length)
    : tapParse? frame = some (tapParse frame) := by
  have type : etherOffType + 2 ≤ frame.length := Nat.le_of_lt long
  unfold tapParse? tapParse
  generalize frame.drop etherHeaderLen = packet
  dsimp only
  rw [readAt?_of_le type, bind_eq_bind, bind_some]
  by_cases other : readBe16 frame etherOffType ≠ 0x0800
  · rw [if_pos other, if_pos other]
    rfl
  rw [if_neg other, if_neg other]
  by_cases short : packet.length < 20
  · rw [if_pos short, if_pos (.inl short)]
    rfl
  rw [if_neg short, readAt?_of_le (by omega), bind_some]
  by_cases version : readU8 packet 0 / 16 ≠ 4
  · rw [if_pos version, if_pos (.inr version)]
    rfl
  rw [if_neg version, if_neg (not_or.mpr ⟨short, version⟩), readAt?_of_le (by omega),
    bind_some, readAt?_of_le (by omega), bind_some]
  by_cases udp : readU8 packet 9 = 17 ∧ readU8 packet 0 % 16 * 4 + 8 ≤ packet.length
  · rw [if_pos udp, if_pos udp, readAt?_of_le (by omega), bind_some,
      readAt?_of_le (by omega), bind_some, readAt?_of_le (by omega), bind_some]
    generalize readBe16 packet (readU8 packet 0 % 16 * 4 + 4) = udpLen
    by_cases malformed : udpLen ≤ 8 ∨ packet.length < readU8 packet 0 % 16 * 4 + 8 + (udpLen - 8)
    · rw [if_pos malformed, if_pos malformed]
      rfl
    · rw [if_neg malformed, if_neg malformed, readAt?_of_le (by omega), bind_some,
        readSlice?_of_le (by omega)]
      rfl
  · rw [if_neg udp, if_neg udp]
    rfl

/-- `tap_send_packet` reads nothing behind the end of the frame, nor behind the payload it passes
on.
-/
theorem Tap.tapSendPacket?_eq (calls : TapCalls) (frame : Bytes)
    : tap.tapSendPacket? calls frame = some (tap.tapSendPacket calls frame) := by
  unfold tapSendPacket? tapSendPacket
  split
  · rfl
  · rename_i long
    rw [tapParse?_eq (Nat.lt_of_not_le long), bind_eq_bind, bind_some]
    cases tapParse frame with
    | none => rfl
    | some udp => exact tap.sendUdp?_eq calls udp

-- What is delivered

def frameIpHeaderLen (frame : Bytes) : Nat := readU8 frame etherHeaderLen % 16 * 4

def frameUdpLen (frame : Bytes) : Nat :=
  readBe16 frame (etherHeaderLen + frameIpHeaderLen frame + 4)

/-- The frame has an IPv4 header with protocol UDP, and its lengths place the UDP packet inside of
it.
-/
structure CarriesUdp (frame : Bytes) : Prop where
  type : readBe16 frame etherOffType = 0x0800
  ipHeader : etherHeaderLen + 20 ≤ frame.length
  version : readU8 frame etherHeaderLen / 16 = 4
  protocol : readU8 frame (etherHeaderLen + 9) = 17
  nonempty : 8 < frameUdpLen frame
  inside : etherHeaderLen + frameIpHeaderLen frame + frameUdpLen frame ≤ frame.length

def frameUdpPayload (frame : Bytes) : Bytes :=
  slice frame (etherHeaderLen + frameIpHeaderLen frame + 8) (frameUdpLen frame - 8)

/-- A delivery is of the whole payload. In a proxied connection it may be of the front of it, if a
call of `send` with the rest fails.
-/
def Delivery.IsOf (send : Bytes → Nat) (payload : Bytes) : Delivery → Prop
  | .tcp _ data => data = payload ∨ (data <+: payload ∧ send (payload.drop data.length) = 0)
  | .ldn data => data = payload
  | .raw _ _ data => data = payload

theorem tapParse_some {frame : Bytes} {udp : UdpPacket} (parsed : tapParse frame = some udp)
    : CarriesUdp frame ∧ udp.payload = frameUdpPayload frame := by
  have headerLen : frameIpHeaderLen frame = readU8 (frame.drop etherHeaderLen) 0 % 16 * 4 := by
    rw [readU8_drop]
    rfl
  have udpLen : frameUdpLen frame
      = readBe16 (frame.drop etherHeaderLen) (frameIpHeaderLen frame + 4) := by
    rw [readBe16_drop]
    rfl
  unfold tapParse at parsed
  dsimp only at parsed
  rw [← headerLen, ← udpLen, readU8_drop, readU8_drop, length_drop] at parsed
  split at parsed
  · cases parsed
  rename_i type
  split at parsed
  · cases parsed
  rename_i header
  split at parsed
  · rename_i udpHeader
    split at parsed
    · cases parsed
    · cases parsed
      obtain ⟨whole, version⟩ := not_or.mp header
      rename_i sound
      refine ⟨⟨not_not.mp type, by omega, not_not.mp version, udpHeader.1, by omega, by omega⟩, ?_⟩
      rw [frameUdpPayload, slice, slice, drop_drop, Nat.add_assoc]
  · cases parsed

/-- The loop sends a front of the data, and all of it unless a call fails. -/
theorem sendAll_spec (send : Bytes → Nat) {fuel : Nat} {data : Bytes} (enough : data.length ≤ fuel)
    : sendAll send fuel data = data
      ∨ (sendAll send fuel data <+: data
        ∧ send (data.drop (sendAll send fuel data).length) = 0) := by
  induction fuel generalizing data with
  | zero => exact .inl (eq_nil_of_length_eq_zero (Nat.le_zero.mp enough)).symm
  | succ fuel ih =>
    unfold sendAll
    dsimp only
    generalize taken : min (send data) data.length = n
    by_cases stopped : n = 0
    · rw [if_pos stopped]
      rcases Nat.eq_zero_or_pos data.length with empty | rest
      · exact .inl (eq_nil_of_length_eq_zero empty).symm
      · exact .inr ⟨List.nil_prefix, by rw [length_nil, drop_zero]; omega⟩
    · rw [if_neg stopped]
      have front : (data.take n).length = n := length_take_of_le (by omega)
      rcases ih (show (data.drop n).length ≤ fuel by rw [length_drop]; omega)
        with whole | ⟨part, failed⟩
      · exact .inl (by rw [whole, take_append_drop])
      · refine .inr ⟨?_, ?_⟩
        · conv_rhs => rw [← take_append_drop n data]
          exact (prefix_append_right_inj _).mpr part
        · rwa [length_append, front, ← drop_drop]

/-- At most one delivery, of the payload. -/
def DeliversOnce (send : Bytes → Nat) (payload : Bytes) (deliveries : List Delivery) : Prop :=
  deliveries.length ≤ 1 ∧ ∀ delivery ∈ deliveries, delivery.IsOf send payload

theorem DeliversOnce.nil (send : Bytes → Nat) (payload : Bytes) : DeliversOnce send payload [] :=
  ⟨Nat.zero_le _, fun _ member => by cases member⟩

theorem DeliversOnce.singleton {send : Bytes → Nat} {payload : Bytes} {delivery : Delivery}
    (exact : delivery.IsOf send payload)
    : DeliversOnce send payload [delivery] := ⟨le_rfl, forall_mem_singleton.mpr exact⟩

theorem tcpInjectFromRelay_once (sessions : Sessions) (calls : TapCalls) (srcIp : UInt32)
    (data : Bytes)
    : DeliversOnce calls.send data (tcpInjectFromRelay sessions calls srcIp data) := by
  unfold tcpInjectFromRelay
  split
  · exact .nil _ _
  · cases sessions.socketFor srcIp with
    | none => exact .nil _ _
    | some clientFd => exact .singleton (sendAll_spec calls.send le_rfl)

/-- The bridge delivers the payload, and nothing when it reports a failure. -/
theorem Tap.ldnBridgeInject_once (calls : TapCalls) (payload : Bytes)
    : DeliversOnce calls.send payload (tap.ldnBridgeInject calls payload).2.1
      ∧ ((tap.ldnBridgeInject calls payload).2.2 ≠ 0
        → (tap.ldnBridgeInject calls payload).2.1 = []) := by
  unfold ldnBridgeInject
  split
  · exact ⟨.nil _ _, fun _ => rfl⟩
  · split
    · exact ⟨.nil _ _, fun _ => rfl⟩
    · split
      · exact ⟨.nil _ _, fun _ => rfl⟩
      · dsimp only
        split
        · exact ⟨.singleton rfl, fun failed => absurd rfl failed⟩
        · exact ⟨.nil _ _, fun _ => rfl⟩

theorem Tap.rawInject_once (calls : TapCalls) (udp : UdpPacket)
    : DeliversOnce calls.send udp.payload (tap.rawInject calls udp).1 := by
  unfold rawInject
  split
  · exact .nil _ _
  · dsimp only
    split
    · exact .singleton rfl
    · exact .nil _ _

/-- The three ways exclude each other: the raw socket is used if the bridge has not delivered. -/
theorem Tap.sendUdp_once (calls : TapCalls) (udp : UdpPacket)
    : DeliversOnce calls.send udp.payload (tap.sendUdp calls udp).2.1 := by
  unfold sendUdp
  split
  · exact tcpInjectFromRelay_once ..
  · split
    · obtain ⟨once, failed⟩ := tap.ldnBridgeInject_once calls udp.payload
      dsimp only
      split
      · exact once
      · rename_i code
        rw [failed code, nil_append]
        exact rawInject_once ..
    · exact rawInject_once ..

/-- `tap_send_packet` stays inside of every frame and delivers at most once. What is delivered is
the payload that the lengths in the frame designate, or the front of it where `send` fails, and the
frame is a UDP packet whose length fits it.
-/
theorem tapSendPacket_exact (tap : Tap) (calls : TapCalls) (frame : Bytes)
    : tap.tapSendPacket? calls frame = some (tap.tapSendPacket calls frame)
      ∧ (tap.tapSendPacket calls frame).2.1.length ≤ 1
      ∧ ∀ delivery ∈ (tap.tapSendPacket calls frame).2.1,
          CarriesUdp frame ∧ delivery.IsOf calls.send (frameUdpPayload frame) := by
  refine ⟨tap.tapSendPacket?_eq calls frame, ?_⟩
  unfold Tap.tapSendPacket
  split
  · exact ⟨Nat.zero_le _, fun _ member => by cases member⟩
  · cases parsed : tapParse frame with
    | none => exact ⟨Nat.zero_le _, fun _ member => by cases member⟩
    | some udp =>
      obtain ⟨carries, payload⟩ := tapParse_some parsed
      obtain ⟨once, whole⟩ := tap.sendUdp_once calls udp
      rw [payload] at whole
      exact ⟨once, fun delivery member => ⟨carries, whole delivery member⟩⟩

/-- The first call of `send` takes four octets of eight and the second one fails. -/
theorem payload_half_delivered
    : ∃ (calls : TapCalls) (frame : Bytes),
        calls.send [1, 2, 3, 4, 5, 6, 7, 8] = 4
        ∧ calls.send [5, 6, 7, 8] = 0
        ∧ CarriesUdp frame
        ∧ frameUdpPayload frame = [1, 2, 3, 4, 5, 6, 7, 8]
        ∧ (tunnelTap.tapSendPacket calls frame).2.1 = [.tcp 7 [1, 2, 3, 4]] := by
  refine ⟨⟨fun left => left.length - 4, true, true, true, 1⟩,
    etherHeader broadcastMac noneMac etherTypeIpv4
      ++ [0x45, 0, 0, 36, 0, 0, 0, 0, 64, 17, 0, 0, 10, 13, 0, 2, 10, 13, 0, 5]
      ++ [0x2C, 0xBD, 0x2C, 0xBC, 0, 16, 0, 0] ++ [1, 2, 3, 4, 5, 6, 7, 8],
    rfl, rfl, ?_, by decide +kernel, by decide +kernel⟩
  exact ⟨by decide +kernel, by decide +kernel, by decide +kernel, by decide +kernel,
    by decide +kernel, by decide +kernel⟩

end SwitchLanPlay.Sysmodule
