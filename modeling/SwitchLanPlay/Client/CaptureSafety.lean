import SwitchLanPlay.Client.Pipeline
import SwitchLanPlay.Packet.Accesses

/-! The capture path of the PC client with its accesses checked: nothing behind the last octet of
a frame may be read. The message that `process_arp` reads and the buffer that `process_icmp`
copies to have fixed sizes, and neither is compared with the frame.
-/

namespace SwitchLanPlay.Client

open Option
open Foundation
open Packet

variable {packet : Memory} {len : Nat}

/-- What `process_ether` passes on, with the octets it passes a pointer to. -/
structure PassedOctets where
  frames : List Bytes
  packets : List (Ipv4Addr × Bytes)
  gateway : List Bytes

def PassedOctets.none : PassedOctets := ⟨[], [], []⟩

def Passed.octets (passed : Passed) : PassedOctets where
  frames := passed.frames
  packets := passed.packets.map (fun handed => (handed.dstIp, handed.packet.read handed.len))
  gateway := passed.gateway

variable (stale : Memory)

def echoReply? (message : Bytes) : Option Bytes := do
  let payload ← writeAt? (stale.toArray bufferSize) 0 message
  let payload ← writeAt? payload 0 [0]
  let payload ← writeAt? payload 2 (be16 0)
  let sum := calcChecksum ((List.ofFn payload).take message.length)
  let payload ← writeAt? payload 2 (be16 sum)
  return (List.ofFn payload).take message.length

def processIcmp? (ctx : PacketCtx) (now : Nat) (frame : Bytes) (ipv4 : Ipv4Header)
    : Option (PacketCtx × List Bytes) := do
  let icmpLen := ipv4.totalLen - ipv4.headerLen
  let message ← readSlice? icmpLen frame (etherOffEnd + ipv4.headerLen)
  let reply ← echoReply? stale message
  sendIpv4? stale ctx now ipv4.src ipv4ProtocolIcmp [reply]

def routeIpv4? (ctx : PacketCtx) (now : Nat) (frame : Bytes) (ether : EtherHeader)
    (ipv4 : Ipv4Header)
    : Option (PacketCtx × PassedOctets) :=
  if ipv4.dst = ctx.ip then
    if ipv4.protocol = ipv4ProtocolIcmp then
      (processIcmp? stale ctx now frame ipv4).map (fun outcome => (outcome.1, ⟨outcome.2, [], []⟩))
    else some (ctx, .none)
  else if isSubnet ipv4.dst ctx.subnetNet ctx.subnetMask then
    if isBroadcast ipv4.dst ctx.subnetNet ctx.subnetMask then do
      let payload ← readSlice? ipv4.totalLen frame etherOffEnd
      let sent ← sendEther? stale ctx ether.src etherTypeIpv4 [payload]
      return (ctx, ⟨sent.toList, [(ipv4.dst, payload)], []⟩)
    else if arpHasIp ctx now ipv4.dst then do
      let (dstMac, _) ← arpGetMacByIp? stale ctx now ipv4.dst
      let payload ← readSlice? ipv4.totalLen frame etherOffEnd
      let sent ← sendEther? stale ctx (dstMac.getD noneMac) etherTypeIpv4 [payload]
      return (ctx, ⟨sent.toList, [], []⟩)
    else do
      let payload ← readSlice? ipv4.totalLen frame etherOffEnd
      return (ctx, ⟨[], [(ipv4.dst, payload)], []⟩)
  else if ctx.mac = ether.dst then some (ctx, ⟨[], [], [frame]⟩)
  else some (ctx, .none)

def processIpv4? (ctx : PacketCtx) (now : Nat) (frame : Bytes) (ether : EtherHeader)
    : Option (PacketCtx × PassedOctets) :=
  if frame.length < etherOffEnd + ipv4HeaderLen then some (ctx, .none)
  else do
    let ipv4 ← parseIpv4? frame
    if ipv4.version ≠ 4 ∨ ipv4.headerLen < ipv4HeaderLen then return (ctx, .none)
    else if frame.length < etherOffEnd + ipv4.headerLen then return (ctx, .none)
    else if ipv4.totalLen < ipv4.headerLen then return (ctx, .none)
    else if frame.length < etherOffEnd + ipv4.totalLen then return (ctx, .none)
    else routeIpv4? stale (arpSet ctx now ether.src ipv4.src) now frame ether ipv4

def processEther? (ctx : PacketCtx) (now : Nat) (frame : Bytes)
    : Option (PacketCtx × PassedOctets) :=
  if frame.length < etherOffEnd then some (ctx, .none)
  else do
    let ether ← parseEther? frame
    if ether.src = ctx.mac then return (ctx, .none)
    else if ether.type = etherTypeArp then
      (processArp? stale ctx now frame).map (fun outcome => (outcome.1, ⟨outcome.2, [], []⟩))
    else if ether.type = etherTypeIpv4 then processIpv4? stale ctx now frame ether
    else return (ctx, .none)

-- The message in the local buffer

/-- Two octets entered behind the first two, seen in the front of a buffer. The front may end before
them.
-/
theorem take_patch_two {buffer two : Bytes} (room : 4 ≤ buffer.length) (pair : two.length = 2)
    (count : Nat)
    : (patch buffer 2 two).take count
      = ((buffer.take count).take 2 ++ two ++ (buffer.take count).drop 4).take count := by
  match buffer, two, room, pair with
  | a :: b :: c :: d :: rest, [high, low], _, _ =>
    match count with
    | 0 => rfl
    | 1 => rfl
    | 2 => rfl
    | 3 => rfl
    | count + 4 => simp [patch]

/-- The message with its type and checksum cleared, in the front of the buffer. -/
theorem take_cleared {message buffer : Bytes} (room : 4 ≤ buffer.length)
    (fits : message.length ≤ buffer.length)
    : (patch (patch (patch buffer 0 message) 0 [0]) 2 (be16 0)).take message.length
      = (0 :: (message.drop 1).take 1 ++ [0, 0] ++ message.drop 4).take message.length := by
  have copied : (patch buffer 0 message).length = buffer.length := patch_length (by omega)
  have typed : (patch (patch buffer 0 message) 0 [0]).length = buffer.length := by
    rw [patch_length (by rw [copied, List.length_singleton]; omega), copied]
  rw [take_patch_two (typed.symm ▸ room) (be16_length 0)]
  cases message with
  | nil => rfl
  | cons first message =>
    have front : (patch (patch buffer 0 (first :: message)) 0 [0]).take (first :: message).length
        = 0 :: message := by
      simp [patch]
    rw [front]
    rfl

/-- What the writes of `process_icmp` make of a message is the reply. -/
theorem take_replied {message buffer : Bytes} (room : 4 ≤ buffer.length)
    (fits : message.length ≤ buffer.length) {cleared : Bytes}
    (written : cleared = patch (patch (patch buffer 0 message) 0 [0]) 2 (be16 0))
    : (patch cleared 2 (be16 (calcChecksum (cleared.take message.length)))).take message.length
      = echoReply message := by
  have copied : (patch buffer 0 message).length = buffer.length := patch_length (by omega)
  have typed : (patch (patch buffer 0 message) 0 [0]).length = buffer.length := by
    rw [patch_length (by rw [copied, List.length_singleton]; omega), copied]
  have length : cleared.length = buffer.length := by
    rw [written, patch_length (by rw [typed, be16_length]; omega), typed]
  have front : cleared.take message.length
      = (0 :: (message.drop 1).take 1 ++ [0, 0] ++ message.drop 4).take message.length := by
    rw [written, take_cleared room fits]
  have whole : (cleared.take message.length).length = message.length := by
    rw [List.length_take, length, Nat.min_eq_left fits]
  unfold echoReply
  dsimp only
  rw [take_patch_two (length.symm ▸ room) (be16_length _), ← front, whole]

/-- The buffer has room for a message of up to its size, and the reply is then in it. -/
theorem echoReply?_eq (message : Bytes)
    : echoReply? stale message
      = if bufferSize < message.length then none else some (echoReply message) := by
  unfold echoReply?
  split
  · rename_i long
    rw [writeAt?_eq_none (by omega) (by omega)]
    rfl
  · rename_i short
    have fits : 0 + message.length ≤ bufferSize := by omega
    have typeFits : 0 + ([0] : Bytes).length ≤ bufferSize := by decide
    have sumFits (sum : Nat) : 2 + (be16 sum).length ≤ bufferSize := by
      rw [be16_length]
      decide
    have replied := @take_replied message (List.ofFn (stale.toArray bufferSize))
      (by rw [List.length_ofFn]; decide) (by rw [List.length_ofFn]; omega) _ rfl
    simp only [bind_eq_bind, bind_some, writeAt?_of_le fits,
      writeAt?_of_le typeFits, writeAt?_of_le (sumFits _), ofFn_memcpy _ (sumFits _),
      ofFn_memcpy _ typeFits, ofFn_memcpy _ fits, replied, pure_def]

/-- `process_icmp` is safe exactly for the messages that its buffer has room for. -/
theorem processIcmp?_eq (ctx : PacketCtx) (now : Nat)
    (accepted : WellFormed len (parseIpv4 (parseEther packet)))
    : processIcmp? stale ctx now (packet.read len) (parseIpv4 (parseEther packet)).header
      = processIcmp ctx now (parseIpv4 (parseEther packet)) := by
  have totalLen := accepted.totalLen
  have totalFits := accepted.totalFits
  have read := @readSlice?_eq packet (etherOffEnd + (parseIpv4 (parseEther packet)).headerLen)
    ((parseIpv4 (parseEther packet)).totalLen - (parseIpv4 (parseEther packet)).headerLen) len
    (by omega)
  have pointer : packet.shift (etherOffEnd + (parseIpv4 (parseEther packet)).headerLen)
      = (parseIpv4 (parseEther packet)).payload := (packet.shift_shift _ _).symm
  rw [pointer] at read
  unfold processIcmp? processIcmp
  dsimp only
  rw [read, bind_eq_bind, bind_some, echoReply?_eq, Memory.read_length]
  split
  · rfl
  · rw [bind_some, sendIpv4?_eq]

/-- A packet inside of the frame is routed without an access outside. -/
theorem routeIpv4?_eq (ctx : PacketCtx) (now : Nat)
    (accepted : WellFormed len (parseIpv4 (parseEther packet)))
    : routeIpv4? stale ctx now (packet.read len) (parseEther packet).header
          (parseIpv4 (parseEther packet)).header
      = (routeIpv4 ctx now (packet.read len) (parseEther packet)
          (parseIpv4 (parseEther packet))).map (fun outcome => (outcome.1, outcome.2.octets)) := by
  have payload := @readSlice?_eq packet etherOffEnd (parseIpv4 (parseEther packet)).totalLen len
    accepted.totalFits
  unfold routeIpv4? routeIpv4
  rw [processIcmp?_eq stale ctx now accepted]
  simp only [payload, arpGetMacByIp?_eq, sendEther?_eq, bind_eq_bind, bind_some]
  split_ifs
  · rw [map_map]
    rfl
  all_goals rfl

/-- `process_ipv4` reads nothing behind the frame. -/
theorem processIpv4?_eq (ctx : PacketCtx) (now : Nat) (packet : Memory) (len : Nat)
    : processIpv4? stale ctx now (packet.read len) (parseEther packet).header
      = (processIpv4 ctx now (packet.read len) (parseEther packet)).map
          (fun outcome => (outcome.1, outcome.2.octets)) := by
  unfold processIpv4? processIpv4
  rw [packet.read_length]
  split
  · rfl
  · rename_i long
    rw [parseIpv4?_eq packet (Nat.not_lt.mp long), bind_eq_bind, bind_some]
    dsimp only
    split
    · rfl
    · rename_i checked
      split
      · rfl
      · split
        · rfl
        · split
          · rfl
          · rename_i total fits
            obtain ⟨version, headerLen⟩ := not_or.mp checked
            exact routeIpv4?_eq stale _ now (wellFormed_iff.mpr
              ⟨not_not.mp version, Nat.not_lt.mp headerLen, Nat.not_lt.mp total,
                Nat.not_lt.mp fits⟩)

/-- `process_ether` makes no access outside, but for ARP frames that end before the message does and
for ICMP messages that `process_icmp` has no room for.
-/
theorem processEther?_eq (ctx : PacketCtx) (now : Nat) (packet : Memory) (len : Nat)
    : processEther? stale ctx now (packet.read len)
      = if etherOffEnd ≤ len ∧ (parseEther packet).src ≠ ctx.mac
            ∧ (parseEther packet).type = etherTypeArp ∧ len < etherOffEnd + arpLen then none
        else
          (processEther ctx now packet len).map
            (fun outcome => (outcome.1, outcome.2.octets)) := by
  unfold processEther? processEther
  rw [packet.read_length]
  by_cases short : len < etherOffEnd
  · rw [if_pos short, if_pos short, if_neg (by omega)]
    rfl
  rw [if_neg short, if_neg short, parseEther?_eq packet (Nat.not_lt.mp short),
    bind_eq_bind, bind_some, processArp?_eq]
  dsimp only
  by_cases own : (parseEther packet).src = ctx.mac
  · rw [if_pos own, if_pos own, if_neg (fun refused => refused.2.1 own)]
    rfl
  rw [if_neg own, if_neg own]
  by_cases arp : (parseEther packet).type = etherTypeArp
  · rw [if_pos arp, if_pos arp]
    by_cases long : etherOffEnd + arpLen ≤ len
    · rw [if_pos long, if_neg (by omega)]
      rfl
    · rw [if_neg long, if_pos ⟨Nat.not_lt.mp short, own, arp, Nat.not_le.mp long⟩]
      rfl
  · have whole : ¬ (etherOffEnd ≤ len ∧ (parseEther packet).src ≠ ctx.mac
        ∧ (parseEther packet).type = etherTypeArp ∧ len < etherOffEnd + arpLen) :=
      fun refused => arp refused.2.2.1
    rw [if_neg whole, if_neg arp, if_neg arp]
    split
    · exact processIpv4?_eq stale ctx now packet len
    · rfl

-- Safe frames

theorem routeIpv4_eq_none_iff {ctx : PacketCtx} {now : Nat} {raw : Bytes} {ether : EtherFrame}
    {ipv4 : Ipv4}
    : routeIpv4 ctx now raw ether ipv4 = none
      ↔ ipv4.dst = ctx.ip
        ∧ ipv4.protocol = ipv4ProtocolIcmp
        ∧ bufferSize < ipv4.totalLen - ipv4.headerLen := by
  unfold routeIpv4 processIcmp
  dsimp only
  split_ifs <;> simp_all

/-- The local buffer is overrun by messages to the client that it has no room for. -/
theorem processEther_eq_none_iff {ctx : PacketCtx} {now : Nat}
    : processEther ctx now packet len = none
      ↔ (parseEther packet).src ≠ ctx.mac
        ∧ (parseEther packet).type = etherTypeIpv4
        ∧ WellFormed len (parseIpv4 (parseEther packet))
        ∧ (parseIpv4 (parseEther packet)).dst = ctx.ip
        ∧ (parseIpv4 (parseEther packet)).protocol = ipv4ProtocolIcmp
        ∧ bufferSize
          < (parseIpv4 (parseEther packet)).totalLen
            - (parseIpv4 (parseEther packet)).headerLen := by
  by_cases own : (parseEther packet).src = ctx.mac
  · rw [processEther_own own]
    simp [own]
  by_cases isIpv4 : (parseEther packet).type = etherTypeIpv4
  · rw [processEther_ipv4 own isIpv4]
    split
    · rename_i accepted
      rw [routeIpv4_eq_none_iff]
      simp [own, isIpv4, accepted, arpSet]
    · rename_i refused
      simp [refused]
  · refine iff_of_false ?_ (fun both => isIpv4 both.2.1)
    unfold processEther
    dsimp only
    split_ifs <;> simp

/-- What a frame of another sender must not be: an ARP frame that ends before the message does, or
an ICMP message to the client that `process_icmp` has no room for.
-/
structure CaptureFits (ctx : PacketCtx) (packet : Memory) (len : Nat) : Prop where
  arp
    : etherOffEnd ≤ len
      → (parseEther packet).src ≠ ctx.mac
      → (parseEther packet).type = etherTypeArp
      → etherOffEnd + arpLen ≤ len
  icmp
    : (parseEther packet).src ≠ ctx.mac
      → (parseEther packet).type = etherTypeIpv4
      → WellFormed len (parseIpv4 (parseEther packet))
      → (parseIpv4 (parseEther packet)).dst = ctx.ip
      → (parseIpv4 (parseEther packet)).protocol = ipv4ProtocolIcmp
      → (parseIpv4 (parseEther packet)).totalLen - (parseIpv4 (parseEther packet)).headerLen
        ≤ bufferSize

/-- `process_ether` accesses nothing outside of the frame and of its buffers exactly for the frames
that fit, whatever the state of the client, and its outcome is then that of the frame alone.
-/
theorem capture_safe_iff (ctx : PacketCtx) (now : Nat) (packet : Memory) (len : Nat)
    : (∃ outcome,
        processEther ctx now packet len = some outcome
        ∧ processEther? stale ctx now (packet.read len) = some (outcome.1, outcome.2.octets))
      ↔ CaptureFits ctx packet len := by
  rw [processEther?_eq]
  constructor
  · rintro ⟨outcome, processed, checked⟩
    split at checked
    · cases checked
    rename_i whole
    refine ⟨?_, ?_⟩
    · intro long foreign isArp
      exact Nat.not_lt.mp (fun short => whole ⟨long, foreign, isArp, short⟩)
    · intro foreign isIpv4 accepted toClient isIcmp
      refine Nat.not_lt.mp (fun overrun => ?_)
      rw [processEther_eq_none_iff.mpr ⟨foreign, isIpv4, accepted, toClient, isIcmp, overrun⟩]
        at processed
      cases processed
  · intro fits
    have whole : ¬ (etherOffEnd ≤ len ∧ (parseEther packet).src ≠ ctx.mac
        ∧ (parseEther packet).type = etherTypeArp ∧ len < etherOffEnd + arpLen) :=
      fun refused => absurd (fits.arp refused.1 refused.2.1 refused.2.2.1)
        (Nat.not_le.mpr refused.2.2.2)
    rw [if_neg whole]
    cases processed : processEther ctx now packet len with
    | none =>
      obtain ⟨foreign, isIpv4, accepted, toClient, isIcmp, overrun⟩ :=
        processEther_eq_none_iff.mp processed
      exact absurd (fits.icmp foreign isIpv4 accepted toClient isIcmp) (Nat.not_le.mpr overrun)
    | some outcome => exact ⟨outcome, rfl, rfl⟩

def captureCtx : PacketCtx :=
  packetInit bufferSize ⟨10, 13, 37, 1⟩ ⟨10, 13, 0, 0⟩ ⟨255, 255, 0, 0⟩ 30

def arpStart : Memory :=
  Memory.write (fun _ => 0) 0 (etherHeader broadcastMac ⟨2, 0, 0, 0, 0, 1⟩ etherTypeArp)

def echoStart : Memory :=
  Memory.write (fun _ => 8) 0
    (etherHeader broadcastMac ⟨2, 0, 0, 0, 0, 1⟩ etherTypeIpv4
      ++ ipv4Header 2069 0 ipv4ProtocolIcmp 0 ⟨10, 13, 0, 1⟩ ⟨10, 13, 37, 1⟩)

/-- An ARP frame of 14 octets is read beyond its end, and the local buffer is written to beyond its
end for a large echo request.
-/
theorem capture_overruns
    : processEther? (fun _ => 0) captureCtx 0 (arpStart.read 14) = none
      ∧ processEther? (fun _ => 0) captureCtx 0 (echoStart.read 2083) = none := by
  refine ⟨?_, ?_⟩
  · rw [processEther?_eq, if_pos (by decide)]
  · rw [processEther?_eq, if_neg (by decide), processEther_eq_none_iff.mpr (by decide)]
    rfl

end SwitchLanPlay.Client
