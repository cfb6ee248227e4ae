import SwitchLanPlay.Foundation.Bytes

/-! IPv4 and Ethernet addresses, and the byte offsets of the headers that carry them.
The numbers are those of `src/packet.h` and `sysmodule/source/nx_common.h`.
-/

namespace SwitchLanPlay.Packet

open Foundation

def etherOffDst : Nat := 0
def etherOffSrc : Nat := 6
def etherOffType : Nat := 12
def etherOffEnd : Nat := 14
def etherHeaderLen : Nat := 14
def etherTypeArp : Nat := 0x0806
def etherTypeIpv4 : Nat := 0x0800
def etherMtu : Nat := 1500

def ipv4OffVerLen : Nat := 0
def ipv4OffTotalLen : Nat := 2
def ipv4OffProtocol : Nat := 9
def ipv4OffSrc : Nat := 12
def ipv4OffDst : Nat := 16
def ipv4HeaderLen : Nat := 20
def ipv4ProtocolIcmp : Nat := 1
def ipv4ProtocolUdp : Nat := 17

/-- An IPv4 address, in the order of its octets on the wire (`uint8_t ip[4]`). -/
structure Ipv4Addr where
  a : UInt8
  b : UInt8
  c : UInt8
  d : UInt8
  deriving DecidableEq, Repr

def Ipv4Addr.toBytes (addr : Ipv4Addr) : Bytes := [addr.a, addr.b, addr.c, addr.d]

def readIpv4 (packet : Bytes) (offset : Nat) : Ipv4Addr :=
  ⟨packet.getD offset 0, packet.getD (offset + 1) 0, packet.getD (offset + 2) 0,
    packet.getD (offset + 3) 0⟩

def noneIp : Ipv4Addr := ⟨0, 0, 0, 0⟩

structure MacAddr where
  a : UInt8
  b : UInt8
  c : UInt8
  d : UInt8
  e : UInt8
  f : UInt8
  deriving DecidableEq, Repr

def MacAddr.toBytes (mac : MacAddr) : Bytes := [mac.a, mac.b, mac.c, mac.d, mac.e, mac.f]

def readMac (packet : Bytes) (offset : Nat) : MacAddr :=
  ⟨packet.getD offset 0, packet.getD (offset + 1) 0, packet.getD (offset + 2) 0,
    packet.getD (offset + 3) 0, packet.getD (offset + 4) 0, packet.getD (offset + 5) 0⟩

def noneMac : MacAddr := ⟨0, 0, 0, 0, 0, 0⟩

def broadcastMac : MacAddr := ⟨0xff, 0xff, 0xff, 0xff, 0xff, 0xff⟩

def isSubnet (ip net mask : Ipv4Addr) : Bool :=
  (⟨ip.a &&& mask.a, ip.b &&& mask.b, ip.c &&& mask.c, ip.d &&& mask.d⟩ : Ipv4Addr) == net

def isBroadcast (ip net mask : Ipv4Addr) : Bool :=
  (⟨net.a ||| ~~~mask.a, net.b ||| ~~~mask.b, net.c ||| ~~~mask.c, net.d ||| ~~~mask.d⟩
    : Ipv4Addr) == ip

@[simp] theorem Ipv4Addr.toBytes_length (addr : Ipv4Addr) : addr.toBytes.length = 4 := rfl

@[simp] theorem MacAddr.toBytes_length (mac : MacAddr) : mac.toBytes.length = 6 := rfl

end SwitchLanPlay.Packet
