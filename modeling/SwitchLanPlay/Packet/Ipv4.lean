import SwitchLanPlay.Packet.Arp

/-! IPv4 headers as they are parsed and sent (`ipv4.c`; these functions are the same in the PC
client and in the sysmodule).
-/

namespace SwitchLanPlay.Packet

open Foundation

structure Ipv4 where
  version : Nat
  headerLen : Nat
  totalLen : Nat
  protocol : Nat
  src : Ipv4Addr
  dst : Ipv4Addr
  payload : Memory

def parseIpv4 (ether : EtherFrame) : Ipv4 :=
  let packet := ether.payload.read ipv4HeaderLen
  let headerLen := readU8 packet ipv4OffVerLen % 16 * 4
  {
    version := readU8 packet ipv4OffVerLen / 16
    headerLen := headerLen
    totalLen := readBe16 packet ipv4OffTotalLen
    protocol := readU8 packet ipv4OffProtocol
    src := readIpv4 packet ipv4OffSrc
    dst := readIpv4 packet ipv4OffDst
    payload := ether.payload.shift headerLen
  }

def sumWords : Bytes → Nat
  | high :: low :: rest => high.toNat * 256 + low.toNat + sumWords rest
  | [last] => last.toNat
  | [] => 0

/-- `while (sum > 0xffff) sum -= 0xffff`, with enough fuel at `sum / 0xffff`. -/
def foldCarries : Nat → Nat → Nat
  | 0, sum => sum
  | fuel + 1, sum => if 0xffff < sum then foldCarries fuel (sum - 0xffff) else sum

def calcChecksum (buffer : Bytes) : Nat :=
  let sum := sumWords buffer
  0xffff - foldCarries (sum / 0xffff) sum

def payloadTotalLen (payload : List Bytes) : Nat := (payload.map List.length).sum % 65536

def ipv4Header (totalLen identification protocol checksum : Nat) (src dst : Ipv4Addr)
    : Bytes :=
  [0x45, 0x00] ++ be16 totalLen ++ be16 identification ++ be16 0
    ++ [128, UInt8.ofNat protocol] ++ be16 checksum ++ src.toBytes ++ dst.toBytes

/-- `send_ipv4_ex`: the context afterwards and the frames sent. A destination that is not in
the ARP cache is asked for, and the packet is dropped.
-/
def sendIpv4Ex (ctx : PacketCtx) (now : Nat) (src dst : Ipv4Addr) (protocol : Nat)
    (payload : List Bytes)
    : PacketCtx × List Bytes :=
  let totalLen := ipv4HeaderLen + payloadTotalLen payload
  let cleared := ipv4Header totalLen ctx.identification protocol 0 src dst
  let header := ipv4Header totalLen ctx.identification protocol (calcChecksum cleared) src dst
  let ctx := { ctx with identification := (ctx.identification + 1) % 65536 }
  match arpGetMacByIp ctx now dst with
  | (none, frames) => (ctx, frames)
  | (some dstMac, frames) =>
    (ctx, frames ++ (sendEther ctx dstMac etherTypeIpv4 (header :: payload)).toList)

def sendIpv4 (ctx : PacketCtx) (now : Nat) (dst : Ipv4Addr) (protocol : Nat)
    (payload : List Bytes)
    : PacketCtx × List Bytes := sendIpv4Ex ctx now ctx.ip dst protocol payload

/-- Sending advances the identification only. -/
theorem sendIpv4_ctx (ctx : PacketCtx) (now : Nat) (dst : Ipv4Addr) (protocol : Nat)
    (payload : List Bytes)
    : (sendIpv4 ctx now dst protocol payload).1
      = { ctx with identification := (ctx.identification + 1) % 65536 } := by
  unfold sendIpv4 sendIpv4Ex
  dsimp only
  split <;> rfl

end SwitchLanPlay.Packet
