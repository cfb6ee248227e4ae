import SwitchLanPlay.Foundation.LeaseTable
import SwitchLanPlay.Foundation.Memory
import SwitchLanPlay.Packet.Address

/-! The packet context and the frames it sends (`packet.c`, the same in the PC client and in
the sysmodule). A frame is what is passed to `lan_play_send_packet`. The traffic counters are
not kept.
-/

namespace SwitchLanPlay.Packet

open List
open Foundation

def arpCacheLen : Nat := 100

/-- `struct arp_item`: the hardware address of an IP address until a moment. -/
abbrev ArpItem := Lease Ipv4Addr MacAddr

/-- `struct packet_ctx`. The buffer is refilled by every send, so only its size is kept. -/
structure PacketCtx where
  bufferLen : Nat
  ip : Ipv4Addr
  subnetNet : Ipv4Addr
  subnetMask : Ipv4Addr
  mac : MacAddr
  identification : Nat
  arpList : Fin arpCacheLen → ArpItem
  arpTtl : Nat

def arpListInit : Fin arpCacheLen → ArpItem := fun _ => ⟨noneIp, noneMac, 0⟩

def packetInit (bufferLen : Nat) (ip subnetNet subnetMask : Ipv4Addr) (arpTtl : Nat)
    : PacketCtx where
  bufferLen := bufferLen
  ip := ip
  subnetNet := subnetNet
  subnetMask := subnetMask
  mac := broadcastMac
  identification := 0
  arpList := arpListInit
  arpTtl := arpTtl

def PacketCtx.packetSetMac (ctx : PacketCtx) (mac : MacAddr) : PacketCtx := { ctx with mac := mac }

/-- The loop of `send_payloads` with `buffer` already filled. A part that would reach the end
of the buffer gives up the frame.
-/
def fillBuffer (bufferLen : Nat) (buffer : Bytes) : List Bytes → Option Bytes
  | [] => some buffer
  | part :: rest =>
    if bufferLen ≤ buffer.length + part.length then none
    else fillBuffer bufferLen (buffer ++ part) rest

def sendPayloads (ctx : PacketCtx) (payload : List Bytes) : Option Bytes :=
  fillBuffer ctx.bufferLen [] payload

def etherHeader (dst src : MacAddr) (type : Nat) : Bytes := dst.toBytes ++ src.toBytes ++ be16 type

def sendEtherEx (ctx : PacketCtx) (dst src : MacAddr) (type : Nat) (payload : List Bytes)
    : Option Bytes := sendPayloads ctx (etherHeader dst src type :: payload)

def sendEther (ctx : PacketCtx) (dst : MacAddr) (type : Nat) (payload : List Bytes)
    : Option Bytes := sendEtherEx ctx dst ctx.mac type payload

structure EtherFrame where
  dst : MacAddr
  src : MacAddr
  type : Nat
  payload : Memory

def parseEther (packet : Memory) : EtherFrame where
  dst := readMac (packet.read etherHeaderLen) etherOffDst
  src := readMac (packet.read etherHeaderLen) etherOffSrc
  type := readBe16 (packet.read etherHeaderLen) etherOffType
  payload := packet.shift etherOffEnd

@[simp] theorem etherHeader_length (dst src : MacAddr) (type : Nat)
    : (etherHeader dst src type).length = etherHeaderLen := rfl

/-- The type of a frame is read back in sixteen bits. -/
theorem readBe16_etherHeader_append (dst src : MacAddr) (type : Nat) (payload : Bytes)
    : readBe16 (etherHeader dst src type ++ payload) etherOffType = type % 65536 := by
  have front := readBe16_append_right (dst.toBytes ++ src.toBytes) (be16 type ++ payload) 0
  rw [readBe16_be16_append, ← append_assoc] at front
  exact front

/-- The loop sends the parts joined, provided they leave the buffer's last octet free.
Witness: induction on the parts; a frame that is too long fails at one of them.
-/
theorem fillBuffer_eq {bufferLen : Nat} {buffer : Bytes} (room : buffer.length < bufferLen)
    (parts : List Bytes)
    : fillBuffer bufferLen buffer parts
      = if (buffer ++ parts.flatten).length < bufferLen then some (buffer ++ parts.flatten)
        else none := by
  induction parts generalizing buffer with
  | nil => simp [fillBuffer, room]
  | cons part rest ih =>
    unfold fillBuffer
    by_cases full : bufferLen ≤ buffer.length + part.length
    · have long : ¬ (buffer ++ (part :: rest).flatten).length < bufferLen := by
        simp only [flatten_cons, length_append]
        omega
      rw [if_pos full, if_neg long]
    · rw [if_neg full, ih (by rw [length_append]; omega), flatten_cons,
        append_assoc]

/-- `send_ether` sends header and parts in one frame that leaves the buffer's last octet free, or
nothing at all.
-/
theorem sendEther_eq_ite (ctx : PacketCtx) (dst : MacAddr) (type : Nat) (payload : List Bytes)
    : sendEther ctx dst type payload
      = if etherHeaderLen + payload.flatten.length < ctx.bufferLen then
          some (etherHeader dst ctx.mac type ++ payload.flatten)
        else none := by
  unfold sendEther sendEtherEx sendPayloads fillBuffer
  rw [length_nil, Nat.zero_add, etherHeader_length]
  by_cases small : ctx.bufferLen ≤ etherHeaderLen
  · rw [if_pos small, if_neg (by omega)]
  · have room : ([] ++ etherHeader dst ctx.mac type).length < ctx.bufferLen := Nat.not_le.mp small
    rw [if_neg small, fillBuffer_eq room, nil_append, length_append, etherHeader_length]

/-- `send_ether` sends header and payload in one frame, or nothing at all. -/
theorem sendEther_eq {ctx : PacketCtx} (room : etherHeaderLen < ctx.bufferLen) (dst : MacAddr)
    (type : Nat) (payload : Bytes)
    : sendEther ctx dst type [payload]
      = if etherHeaderLen + payload.length < ctx.bufferLen then
          some (etherHeader dst ctx.mac type ++ payload)
        else none := by
  have empty : ([] : Bytes).length < ctx.bufferLen := Nat.zero_lt_of_lt room
  have fill := fillBuffer_eq empty [etherHeader dst ctx.mac type, payload]
  simpa [sendEther, sendEtherEx, sendPayloads] using fill

end SwitchLanPlay.Packet
