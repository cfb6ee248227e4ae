import SwitchLanPlay.Packet.Ipv4

/-! The packet pipeline of the PC client: `process_ether`, `process_ipv4` and `process_icmp` on a
captured frame of `len` octets, against which every length an IPv4 header claims is checked.
-/

namespace SwitchLanPlay.Client

open Foundation
open Packet

def bufferSize : Nat := 2048

structure HandedPacket where
  dstIp : Ipv4Addr
  packet : Memory
  len : Nat

/-- What `process_ether` passes on: frames to `lan_play_send_packet`, packets to
`lan_client_send_ipv4` and frames to `gateway_on_packet`.
-/
structure Passed where
  frames : List Bytes
  packets : List HandedPacket
  gateway : List Bytes

def Passed.none : Passed := ⟨[], [], []⟩

/-- The message `process_icmp` makes of a request: type and checksum are cleared, then the checksum
is entered. A message that ends before its checksum is cut.
-/
def echoReply (request : Bytes) : Bytes :=
  let cleared := (0 :: (request.drop 1).take 1 ++ [0, 0] ++ request.drop 4).take request.length
  (cleared.take 2 ++ be16 (calcChecksum cleared) ++ cleared.drop 4).take cleared.length

/-- `process_icmp`. Nothing keeps the copy inside the local buffer; a longer message overwrites the
stack, and there is no outcome.
-/
def processIcmp (ctx : PacketCtx) (now : Nat) (ipv4 : Ipv4) : Option (PacketCtx × List Bytes) :=
  let icmpLen := ipv4.totalLen - ipv4.headerLen
  if bufferSize < icmpLen then none
  else
    some (sendIpv4 ctx now ipv4.src ipv4ProtocolIcmp [echoReply (ipv4.payload.read icmpLen)])

/-- What `process_ipv4` does with a packet it accepts, with the sender in the ARP cache. -/
def routeIpv4 (ctx : PacketCtx) (now : Nat) (raw : Bytes) (ether : EtherFrame) (ipv4 : Ipv4)
    : Option (PacketCtx × Passed) :=
  let payload := ether.payload.read ipv4.totalLen
  let handed : HandedPacket := ⟨ipv4.dst, ether.payload, ipv4.totalLen⟩
  if ipv4.dst = ctx.ip then
    if ipv4.protocol = ipv4ProtocolIcmp then
      (processIcmp ctx now ipv4).map (fun outcome => (outcome.1, ⟨outcome.2, [], []⟩))
    else some (ctx, .none)
  else if isSubnet ipv4.dst ctx.subnetNet ctx.subnetMask then
    if isBroadcast ipv4.dst ctx.subnetNet ctx.subnetMask then
      some (ctx, ⟨(sendEther ctx ether.src etherTypeIpv4 [payload]).toList, [handed], []⟩)
    else if arpHasIp ctx now ipv4.dst then
      -- This lookup succeeds with `arp_has_ip`, so the default is never sent to.
      let dstMac := (arpGetMacByIp ctx now ipv4.dst).1.getD noneMac
      some (ctx, ⟨(sendEther ctx dstMac etherTypeIpv4 [payload]).toList, [], []⟩)
    else some (ctx, ⟨[], [handed], []⟩)
  else if ctx.mac = ether.dst then some (ctx, ⟨[], [], [raw]⟩)
  else some (ctx, .none)

def processIpv4 (ctx : PacketCtx) (now : Nat) (raw : Bytes) (ether : EtherFrame)
    : Option (PacketCtx × Passed) :=
  if raw.length < etherOffEnd + ipv4HeaderLen then some (ctx, .none)
  else
    let ipv4 := parseIpv4 ether
    if ipv4.version ≠ 4 ∨ ipv4.headerLen < ipv4HeaderLen then some (ctx, .none)
    else if raw.length < etherOffEnd + ipv4.headerLen then some (ctx, .none)
    else if ipv4.totalLen < ipv4.headerLen then some (ctx, .none)
    else if raw.length < etherOffEnd + ipv4.totalLen then some (ctx, .none)
    else routeIpv4 (arpSet ctx now ether.src ipv4.src) now raw ether ipv4

def processEther (ctx : PacketCtx) (now : Nat) (packet : Memory) (len : Nat)
    : Option (PacketCtx × Passed) :=
  if len < etherOffEnd then some (ctx, .none)
  else
    let ether := parseEther packet
    if ether.src = ctx.mac then some (ctx, .none)
    else if ether.type = etherTypeArp then
      let outcome := processArp ctx now ether
      some (outcome.1, ⟨outcome.2, [], []⟩)
    else if ether.type = etherTypeIpv4 then processIpv4 ctx now (packet.read len) ether
    else some (ctx, .none)

-- The checks

/-- The version and the lengths that `process_ipv4` accepts in a frame of `len` octets. -/
structure WellFormed (len : Nat) (ipv4 : Ipv4) : Prop where
  header : etherOffEnd + ipv4HeaderLen ≤ len
  version : ipv4.version = 4
  headerLen : ipv4HeaderLen ≤ ipv4.headerLen
  headerFits : etherOffEnd + ipv4.headerLen ≤ len
  totalLen : ipv4.headerLen ≤ ipv4.totalLen
  totalFits : etherOffEnd + ipv4.totalLen ≤ len

theorem wellFormed_iff {len : Nat} {ipv4 : Ipv4}
    : WellFormed len ipv4
      ↔ ipv4.version = 4
        ∧ ipv4HeaderLen ≤ ipv4.headerLen
        ∧ ipv4.headerLen ≤ ipv4.totalLen
        ∧ etherOffEnd + ipv4.totalLen ≤ len := by
  constructor
  · rintro ⟨_, version, headerLen, _, totalLen, totalFits⟩
    exact ⟨version, headerLen, totalLen, totalFits⟩
  · rintro ⟨version, headerLen, totalLen, totalFits⟩
    exact ⟨by omega, version, headerLen, by omega, totalLen, totalFits⟩

instance (len : Nat) (ipv4 : Ipv4) : Decidable (WellFormed len ipv4) :=
  decidable_of_iff' _ wellFormed_iff

/-- A packet is routed if it passes the checks, and dropped without a trace otherwise. -/
theorem processIpv4_eq (ctx : PacketCtx) (now : Nat) (raw : Bytes) (ether : EtherFrame)
    : processIpv4 ctx now raw ether
      = if WellFormed raw.length (parseIpv4 ether) then
          routeIpv4 (arpSet ctx now ether.src (parseIpv4 ether).src) now raw ether (parseIpv4 ether)
        else some (ctx, .none) := by
  by_cases accepted : WellFormed raw.length (parseIpv4 ether)
  · have checked
        : ¬ ((parseIpv4 ether).version ≠ 4 ∨ (parseIpv4 ether).headerLen < ipv4HeaderLen) :=
      not_or.mpr ⟨not_not.mpr accepted.version, Nat.not_lt.mpr accepted.headerLen⟩
    rw [if_pos accepted]
    simp only [processIpv4, if_neg (Nat.not_lt.mpr accepted.header), if_neg checked,
      if_neg (Nat.not_lt.mpr accepted.headerFits), if_neg (Nat.not_lt.mpr accepted.totalLen),
      if_neg (Nat.not_lt.mpr accepted.totalFits)]
  · rw [if_neg accepted]
    rw [wellFormed_iff] at accepted
    unfold processIpv4
    dsimp only
    split
    · rfl
    · split
      · rfl
      · split
        · rfl
        · split
          · rfl
          · split
            · rfl
            · rename_i checked _ total fits
              refine absurd ⟨?_, ?_, Nat.not_lt.mp total, Nat.not_lt.mp fits⟩ accepted
              · exact not_not.mp (not_or.mp checked).1
              · exact Nat.not_lt.mp (not_or.mp checked).2

/-- A frame with the client's own address as source is ignored. -/
theorem processEther_own {ctx : PacketCtx} {packet : Memory}
    (own : (parseEther packet).src = ctx.mac) (now len : Nat)
    : processEther ctx now packet len = some (ctx, .none) := by
  unfold processEther
  dsimp only
  rw [if_pos own, ite_self]

/-- An IPv4 packet of another sender is routed if it passes the checks. -/
theorem processEther_ipv4 {ctx : PacketCtx} {packet : Memory}
    (foreign : (parseEther packet).src ≠ ctx.mac)
    (isIpv4 : (parseEther packet).type = etherTypeIpv4) (now len : Nat)
    : processEther ctx now packet len
      = if WellFormed len (parseIpv4 (parseEther packet)) then
          routeIpv4 (arpSet ctx now (parseEther packet).src (parseIpv4 (parseEther packet)).src) now
            (packet.read len) (parseEther packet) (parseIpv4 (parseEther packet))
        else some (ctx, .none) := by
  have notArp : (parseEther packet).type ≠ etherTypeArp := by
    rw [isIpv4]
    decide
  unfold processEther
  dsimp only
  rw [if_neg foreign, if_neg notArp, if_pos isIpv4, processIpv4_eq, Memory.read_length]
  by_cases short : len < etherOffEnd
  · have refused : ¬ WellFormed len (parseIpv4 (parseEther packet)) := by
      intro accepted
      have header := accepted.header
      omega
    rw [if_pos short, if_neg refused]
  · rw [if_neg short]

end SwitchLanPlay.Client
