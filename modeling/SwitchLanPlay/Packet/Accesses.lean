import SwitchLanPlay.Foundation.Access
import SwitchLanPlay.Packet.Ipv4

/-! The functions of `packet.c`, `arp.c` and `ipv4.c` with their accesses checked: reads of a
frame against its length, and writes against the size of the buffer. What stands in a buffer
before it is written to is the memory `stale`.
-/

namespace SwitchLanPlay.Packet

open Option
open Foundation

theorem readIpv4_readsOnly : ReadsOnly readIpv4 4 := by
  intro left right leftOffset rightOffset same
  have first := same 0 (by omega)
  rw [Nat.add_zero, Nat.add_zero] at first
  rw [readIpv4, readIpv4, first, same 1 (by omega), same 2 (by omega), same 3 (by omega)]

theorem readMac_readsOnly : ReadsOnly readMac 6 := by
  intro left right leftOffset rightOffset same
  have first := same 0 (by omega)
  rw [Nat.add_zero, Nat.add_zero] at first
  rw [readMac, readMac, first, same 1 (by omega), same 2 (by omega), same 3 (by omega),
    same 4 (by omega), same 5 (by omega)]

-- Sending

variable (stale : Memory)

def fillBuffer? {size : Nat} (buffer : Fin size → UInt8) (filled : Nat)
    : List Bytes → Option (Option Bytes)
  | [] => some (some ((List.ofFn buffer).take filled))
  | part :: rest =>
    if size ≤ filled + part.length then some none
    else
      (writeAt? buffer filled part).bind
        (fun buffer => fillBuffer? buffer (filled + part.length) rest)

def sendPayloads? (ctx : PacketCtx) (payload : List Bytes) : Option (Option Bytes) :=
  fillBuffer? (stale.toArray ctx.bufferLen) 0 payload

def sendEtherEx? (ctx : PacketCtx) (dst src : MacAddr) (type : Nat) (payload : List Bytes)
    : Option (Option Bytes) := do
  let buffer ← writeFields? (stale.toArray etherHeaderLen)
    [(etherOffDst, dst.toBytes), (etherOffSrc, src.toBytes), (etherOffType, be16 type)]
  sendPayloads? stale ctx (List.ofFn buffer :: payload)

def sendEther? (ctx : PacketCtx) (dst : MacAddr) (type : Nat) (payload : List Bytes)
    : Option (Option Bytes) := sendEtherEx? stale ctx dst ctx.mac type payload

def sendArpEx? (ctx : PacketCtx) (dstMac : MacAddr) (opcode : Nat) (senderMac : MacAddr)
    (senderIp : Ipv4Addr) (targetMac : MacAddr) (targetIp : Ipv4Addr)
    : Option (Option Bytes) := do
  let buffer ← writeFields? (stale.toArray arpLen)
    [(arpOffHardware, be16 arpHardtypeEther), (arpOffProtocol, be16 etherTypeIpv4),
      (arpOffHardwareSize, [6]), (arpOffProtocolSize, [4]), (arpOffOpcode, be16 opcode),
      (arpOffSenderMac, senderMac.toBytes), (arpOffSenderIp, senderIp.toBytes),
      (arpOffTargetMac, targetMac.toBytes), (arpOffTargetIp, targetIp.toBytes)]
  sendEther? stale ctx dstMac etherTypeArp [List.ofFn buffer]

def sendArp? (ctx : PacketCtx) (opcode : Nat) (senderMac : MacAddr) (senderIp : Ipv4Addr)
    (targetMac : MacAddr) (targetIp : Ipv4Addr)
    : Option (Option Bytes) :=
  sendArpEx? stale ctx targetMac opcode senderMac senderIp targetMac targetIp

def sendArpRequest? (ctx : PacketCtx) (targetIp : Ipv4Addr) : Option (Option Bytes) :=
  sendArpEx? stale ctx broadcastMac arpOpcodeRequest ctx.mac ctx.ip noneMac targetIp

def arpGetMacByIp? (ctx : PacketCtx) (now : Nat) (ip : Ipv4Addr)
    : Option (Option MacAddr × List Bytes) :=
  match findLease ctx.arpList now ip with
  | some item => some (some item.value, [])
  | none => (sendArpRequest? stale ctx ip).map (fun frame => (none, frame.toList))

def sendIpv4Ex? (ctx : PacketCtx) (now : Nat) (src dst : Ipv4Addr) (protocol : Nat)
    (payload : List Bytes)
    : Option (PacketCtx × List Bytes) := do
  let totalLen := ipv4HeaderLen + payloadTotalLen payload
  let cleared ← writeFields? (stale.toArray ipv4HeaderLen)
    [(0, [0x45]), (1, [0x00]), (2, be16 totalLen), (4, be16 ctx.identification), (6, be16 0),
      (8, [128]), (9, [UInt8.ofNat protocol]), (10, be16 0), (12, src.toBytes), (16, dst.toBytes)]
  let header ← writeAt? cleared 10 (be16 (calcChecksum (List.ofFn cleared)))
  let ctx := { ctx with identification := (ctx.identification + 1) % 65536 }
  let (dstMac, frames) ← arpGetMacByIp? stale ctx now dst
  match dstMac with
  | none => return (ctx, frames)
  | some dstMac =>
    let frame ← sendEther? stale ctx dstMac etherTypeIpv4 (List.ofFn header :: payload)
    return (ctx, frames ++ frame.toList)

def sendIpv4? (ctx : PacketCtx) (now : Nat) (dst : Ipv4Addr) (protocol : Nat)
    (payload : List Bytes)
    : Option (PacketCtx × List Bytes) := sendIpv4Ex? stale ctx now ctx.ip dst protocol payload

/-- The loop writes inside of the buffer and leaves the parts there.
Witness: by induction on the parts; a part is copied only if it ends in front of the last octet.
-/
theorem fillBuffer?_eq {size : Nat} (buffer : Fin size → UInt8) (filled : Nat)
    (parts : List Bytes) (inside : filled ≤ size)
    : fillBuffer? buffer filled parts
      = some (fillBuffer size ((List.ofFn buffer).take filled) parts) := by
  induction parts generalizing buffer filled with
  | nil => rfl
  | cons part rest ih =>
    have length : ((List.ofFn buffer).take filled).length = filled := by
      rw [List.length_take, List.length_ofFn, Nat.min_eq_left inside]
    rw [fillBuffer?, fillBuffer, length]
    split
    · rfl
    · rename_i room
      have fits : filled + part.length ≤ size := by omega
      rw [writeAt?_of_le fits, bind_some, ih _ _ fits, take_ofFn_memcpy buffer fits]

variable (ctx : PacketCtx)

theorem sendPayloads?_eq (payload : List Bytes)
    : sendPayloads? stale ctx payload = some (sendPayloads ctx payload) :=
  fillBuffer?_eq _ 0 payload (Nat.zero_le _)

/-- Nothing that `send_ether` writes is outside of its buffers. -/
theorem sendEther?_eq (dst : MacAddr) (type : Nat) (payload : List Bytes)
    : sendEther? stale ctx dst type payload = some (sendEther ctx dst type payload) := by
  obtain ⟨buffer, filled, octets⟩ := @writeFields?_whole _ (stale.toArray etherHeaderLen)
    [dst.toBytes, ctx.mac.toBytes, be16 type] rfl
  have fields : writeFields? (stale.toArray etherHeaderLen)
      [(etherOffDst, dst.toBytes), (etherOffSrc, ctx.mac.toBytes), (etherOffType, be16 type)]
      = some buffer := filled
  rw [sendEther?, sendEtherEx?, fields, bind_eq_bind, bind_some, octets,
    sendPayloads?_eq]
  rfl

theorem sendArpEx?_eq (dstMac : MacAddr) (opcode : Nat) (senderMac : MacAddr) (senderIp : Ipv4Addr)
    (targetMac : MacAddr) (targetIp : Ipv4Addr)
    : sendArpEx? stale ctx dstMac opcode senderMac senderIp targetMac targetIp
      = some (sendArpEx ctx dstMac opcode senderMac senderIp targetMac targetIp) := by
  obtain ⟨buffer, filled, octets⟩ := @writeFields?_whole _ (stale.toArray arpLen)
    [be16 arpHardtypeEther, be16 etherTypeIpv4, [6], [4], be16 opcode, senderMac.toBytes,
      senderIp.toBytes, targetMac.toBytes, targetIp.toBytes] rfl
  have fields : writeFields? (stale.toArray arpLen)
      [(arpOffHardware, be16 arpHardtypeEther), (arpOffProtocol, be16 etherTypeIpv4),
        (arpOffHardwareSize, [6]), (arpOffProtocolSize, [4]), (arpOffOpcode, be16 opcode),
        (arpOffSenderMac, senderMac.toBytes), (arpOffSenderIp, senderIp.toBytes),
        (arpOffTargetMac, targetMac.toBytes), (arpOffTargetIp, targetIp.toBytes)]
      = some buffer := filled
  rw [sendArpEx?, fields, bind_eq_bind, bind_some, octets, sendEther?_eq]
  rfl

theorem arpGetMacByIp?_eq (now : Nat) (ip : Ipv4Addr)
    : arpGetMacByIp? stale ctx now ip = some (arpGetMacByIp ctx now ip) := by
  unfold arpGetMacByIp? arpGetMacByIp
  cases findLease ctx.arpList now ip with
  | some item => rfl
  | none =>
    rw [sendArpRequest?, sendArpEx?_eq]
    rfl

/-- The header is written with a cleared checksum, and then the checksum into it. -/
theorem ipv4Header_filled (totalLen identification protocol : Nat) (src dst : Ipv4Addr)
    : ∃ cleared,
        writeFields? (stale.toArray ipv4HeaderLen)
            [(0, [0x45]), (1, [0x00]), (2, be16 totalLen), (4, be16 identification), (6, be16 0),
              (8, [128]), (9, [UInt8.ofNat protocol]), (10, be16 0), (12, src.toBytes),
              (16, dst.toBytes)]
          = some cleared
        ∧ List.ofFn cleared = ipv4Header totalLen identification protocol 0 src dst
        ∧ ∀ checksum,
            ∃ header,
              writeAt? cleared 10 (be16 checksum) = some header
              ∧ List.ofFn header
                = ipv4Header totalLen identification protocol checksum src dst := by
  obtain ⟨cleared, filled, octets⟩ := @writeFields?_whole _ (stale.toArray ipv4HeaderLen)
    [[0x45], [0x00], be16 totalLen, be16 identification, be16 0, [128], [UInt8.ofNat protocol],
      be16 0, src.toBytes, dst.toBytes] rfl
  have written : List.ofFn cleared
      = ipv4Header totalLen identification protocol 0 src dst := by
    rw [octets]
    rfl
  refine ⟨cleared, filled, written, fun checksum => ?_⟩
  have room : 10 + (be16 checksum).length ≤ ipv4HeaderLen := by
    rw [be16_length]
    decide
  refine ⟨_, writeAt?_of_le room, ?_⟩
  rw [ofFn_memcpy cleared room, written]
  rfl

/-- Nothing that `send_ipv4` writes is outside of its buffers. -/
theorem sendIpv4?_eq (now : Nat) (dst : Ipv4Addr) (protocol : Nat) (payload : List Bytes)
    : sendIpv4? stale ctx now dst protocol payload
      = some (sendIpv4 ctx now dst protocol payload) := by
  obtain ⟨cleared, filled, written, enter⟩ := ipv4Header_filled stale
    (ipv4HeaderLen + payloadTotalLen payload) ctx.identification protocol ctx.ip dst
  obtain ⟨header, entered, octets⟩ := enter (calcChecksum (List.ofFn cleared))
  rw [written] at octets
  unfold sendIpv4? sendIpv4Ex? sendIpv4 sendIpv4Ex
  dsimp only
  rw [filled, bind_eq_bind, bind_some, entered, bind_eq_bind,
    bind_some, arpGetMacByIp?_eq, bind_eq_bind, bind_some, octets]
  cases arpGetMacByIp { ctx with identification := (ctx.identification + 1) % 65536 } now dst with
  | mk dstMac frames =>
    cases dstMac with
    | none => rfl
    | some dstMac =>
      dsimp only
      rw [sendEther?_eq, bind_some, pure_def]

-- Parsing

structure EtherHeader where
  dst : MacAddr
  src : MacAddr
  type : Nat

abbrev EtherFrame.header (ether : EtherFrame) : EtherHeader := ⟨ether.dst, ether.src, ether.type⟩

def parseEther? (frame : Bytes) : Option EtherHeader := do
  let dst ← readAt? readMac 6 frame etherOffDst
  let src ← readAt? readMac 6 frame etherOffSrc
  let type ← readAt? readBe16 2 frame etherOffType
  return ⟨dst, src, type⟩

def parseArp? (frame : Bytes) : Option Arp := do
  let hardwareType ← readAt? readBe16 2 frame (etherOffEnd + arpOffHardware)
  let protocolType ← readAt? readBe16 2 frame (etherOffEnd + arpOffProtocol)
  let hardwareSize ← readAt? readU8 1 frame (etherOffEnd + arpOffHardwareSize)
  let protocolSize ← readAt? readU8 1 frame (etherOffEnd + arpOffProtocolSize)
  let opcode ← readAt? readBe16 2 frame (etherOffEnd + arpOffOpcode)
  let senderMac ← readAt? readMac 6 frame (etherOffEnd + arpOffSenderMac)
  let senderIp ← readAt? readIpv4 4 frame (etherOffEnd + arpOffSenderIp)
  let targetMac ← readAt? readMac 6 frame (etherOffEnd + arpOffTargetMac)
  let targetIp ← readAt? readIpv4 4 frame (etherOffEnd + arpOffTargetIp)
  return ⟨hardwareType, protocolType, hardwareSize, protocolSize, opcode, senderMac, senderIp,
    targetMac, targetIp⟩

structure Ipv4Header where
  version : Nat
  headerLen : Nat
  totalLen : Nat
  protocol : Nat
  src : Ipv4Addr
  dst : Ipv4Addr

abbrev Ipv4.header (ipv4 : Ipv4) : Ipv4Header :=
  ⟨ipv4.version, ipv4.headerLen, ipv4.totalLen, ipv4.protocol, ipv4.src, ipv4.dst⟩

def parseIpv4? (frame : Bytes) : Option Ipv4Header := do
  let verLen ← readAt? readU8 1 frame (etherOffEnd + ipv4OffVerLen)
  let _dscpEcn ← readAt? readU8 1 frame (etherOffEnd + 1)
  let totalLen ← readAt? readBe16 2 frame (etherOffEnd + ipv4OffTotalLen)
  let _identification ← readAt? readBe16 2 frame (etherOffEnd + 4)
  let _flagsFragOffset ← readAt? readBe16 2 frame (etherOffEnd + 6)
  let _ttl ← readAt? readU8 1 frame (etherOffEnd + 8)
  let protocol ← readAt? readU8 1 frame (etherOffEnd + ipv4OffProtocol)
  let _checksum ← readAt? readBe16 2 frame (etherOffEnd + 10)
  let src ← readAt? readIpv4 4 frame (etherOffEnd + ipv4OffSrc)
  let dst ← readAt? readIpv4 4 frame (etherOffEnd + ipv4OffDst)
  return ⟨verLen / 16, verLen % 16 * 4, totalLen, protocol, src, dst⟩

def arpRequest? (ctx : PacketCtx) (now : Nat) (arp : Arp) : Option (List Bytes) :=
  if isSubnet arp.targetIp ctx.subnetNet ctx.subnetMask then
    if arp.targetIp = arp.senderIp then some []
    else if arp.senderIp = noneIp then some []
    else if arpHasIp ctx now arp.targetIp then some []
    else
      (sendArp? stale ctx arpOpcodeReply ctx.mac arp.targetIp arp.senderMac arp.senderIp).map
        Option.toList
  else some []

def processArp? (ctx : PacketCtx) (now : Nat) (frame : Bytes)
    : Option (PacketCtx × List Bytes) := do
  let arp ← parseArp? frame
  if arp.hardwareType ≠ arpHardtypeEther ∨ arp.protocolType ≠ etherTypeIpv4
      ∨ arp.hardwareSize ≠ 6 ∨ arp.protocolSize ≠ 4 then return (ctx, [])
  let ctx := arpSet ctx now arp.senderMac arp.senderIp
  let frames ← if arp.opcode = arpOpcodeRequest then arpRequest? stale ctx now arp else some []
  return (ctx, frames)

theorem parseEther?_eq (packet : Memory) {len : Nat} (long : etherOffEnd ≤ len)
    : parseEther? (packet.read len) = some (parseEther packet).header := by
  have inside {offset count : Nat} (below : offset + count ≤ etherOffEnd)
      : 0 + offset + count ≤ len := by omega
  have dst := @ReadsOnly.readAt?_shift _ _ _ readMac_readsOnly packet 0 etherHeaderLen etherOffDst
    len (by decide) (inside (by decide))
  have src := @ReadsOnly.readAt?_shift _ _ _ readMac_readsOnly packet 0 etherHeaderLen etherOffSrc
    len (by decide) (inside (by decide))
  have type := @ReadsOnly.readAt?_shift _ _ _ readBe16_readsOnly packet 0 etherHeaderLen
    etherOffType len (by decide) (inside (by decide))
  rw [Nat.zero_add, packet.shift_zero] at dst src type
  rw [parseEther?, dst, src, type]
  rfl

theorem parseArp?_eq (packet : Memory) {len : Nat} (long : etherOffEnd + arpLen ≤ len)
    : parseArp? (packet.read len) = some (parseArp (parseEther packet)) := by
  have inside {offset count : Nat} (below : offset + count ≤ arpLen)
      : etherOffEnd + offset + count ≤ len := by omega
  have be16At {offset : Nat} (below : offset + 2 ≤ arpLen) :=
    readBe16_readsOnly.readAt?_shift packet below (inside below)
  have u8At {offset : Nat} (below : offset + 1 ≤ arpLen) :=
    readU8_readsOnly.readAt?_shift packet below (inside below)
  have macAt {offset : Nat} (below : offset + 6 ≤ arpLen) :=
    readMac_readsOnly.readAt?_shift packet below (inside below)
  have ipAt {offset : Nat} (below : offset + 4 ≤ arpLen) :=
    readIpv4_readsOnly.readAt?_shift packet below (inside below)
  rw [parseArp?, be16At (by decide), be16At (by decide), u8At (by decide), u8At (by decide),
    be16At (by decide), macAt (by decide), ipAt (by decide), macAt (by decide), ipAt (by decide)]
  rfl

/-- A frame that ends in front of the last field of the message is read beyond its end. -/
theorem parseArp?_short {frame : Bytes} (short : frame.length < etherOffEnd + arpLen)
    : parseArp? frame = none := by
  have last : readAt? readIpv4 4 frame (etherOffEnd + arpOffTargetIp) = none :=
    readAt?_eq_none (by decide) short
  rw [eq_none_iff_forall_not_mem]
  intro arp parsed
  simp only [parseArp?, last, bind_eq_bind, bind_none, bind_fun_none,
    mem_def, reduceCtorEq] at parsed

theorem parseIpv4?_eq (packet : Memory) {len : Nat} (long : etherOffEnd + ipv4HeaderLen ≤ len)
    : parseIpv4? (packet.read len) = some (parseIpv4 (parseEther packet)).header := by
  have inside {offset count : Nat} (below : offset + count ≤ ipv4HeaderLen)
      : etherOffEnd + offset + count ≤ len := by omega
  have be16At {offset : Nat} (below : offset + 2 ≤ ipv4HeaderLen) :=
    readBe16_readsOnly.readAt?_shift packet below (inside below)
  have u8At {offset : Nat} (below : offset + 1 ≤ ipv4HeaderLen) :=
    readU8_readsOnly.readAt?_shift packet below (inside below)
  have ipAt {offset : Nat} (below : offset + 4 ≤ ipv4HeaderLen) :=
    readIpv4_readsOnly.readAt?_shift packet below (inside below)
  rw [parseIpv4?, u8At (by decide), u8At (by decide), be16At (by decide), be16At (by decide),
    be16At (by decide), u8At (by decide), u8At (by decide), be16At (by decide), ipAt (by decide),
    ipAt (by decide)]
  rfl

theorem arpRequest?_eq (now : Nat) (arp : Arp)
    : arpRequest? stale ctx now arp = some (arpRequest ctx now arp) := by
  unfold arpRequest? arpRequest
  rw [sendArp?, sendArpEx?_eq]
  split_ifs <;> rfl

/-- `process_arp` reads the whole message, whatever is in it. -/
theorem processArp?_eq (now : Nat) (packet : Memory) (len : Nat)
    : processArp? stale ctx now (packet.read len)
      = if etherOffEnd + arpLen ≤ len then some (processArp ctx now (parseEther packet))
        else none := by
  unfold processArp?
  by_cases long : etherOffEnd + arpLen ≤ len
  · rw [if_pos long, parseArp?_eq packet long, bind_eq_bind, bind_some]
    unfold processArp
    dsimp only
    split
    · rfl
    · rw [arpRequest?_eq]
      split <;> rfl
  · have short : (packet.read len).length < etherOffEnd + arpLen := by
      rw [packet.read_length]
      omega
    rw [if_neg long, parseArp?_short short, bind_eq_bind, bind_none]

end SwitchLanPlay.Packet
