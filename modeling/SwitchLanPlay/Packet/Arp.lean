import SwitchLanPlay.Packet.Ether

/-! The ARP cache and protocol (`arp.c`, the same in the PC client and in the sysmodule). A
call reads the clock once; its value is the parameter `now`.
-/

namespace SwitchLanPlay.Packet

open Foundation

def arpOffHardware : Nat := 0
def arpOffProtocol : Nat := 2
def arpOffHardwareSize : Nat := 4
def arpOffProtocolSize : Nat := 5
def arpOffOpcode : Nat := 6
def arpOffSenderMac : Nat := 8
def arpOffSenderIp : Nat := 14
def arpOffTargetMac : Nat := 18
def arpOffTargetIp : Nat := 24
def arpLen : Nat := 28
def arpHardtypeEther : Nat := 1
def arpOpcodeRequest : Nat := 1
def arpOpcodeReply : Nat := 2

structure Arp where
  hardwareType : Nat
  protocolType : Nat
  hardwareSize : Nat
  protocolSize : Nat
  opcode : Nat
  senderMac : MacAddr
  senderIp : Ipv4Addr
  targetMac : MacAddr
  targetIp : Ipv4Addr
  deriving DecidableEq, Repr

def parseArp (ether : EtherFrame) : Arp :=
  let packet := ether.payload.read arpLen
  {
    hardwareType := readBe16 packet arpOffHardware
    protocolType := readBe16 packet arpOffProtocol
    hardwareSize := readU8 packet arpOffHardwareSize
    protocolSize := readU8 packet arpOffProtocolSize
    opcode := readBe16 packet arpOffOpcode
    senderMac := readMac packet arpOffSenderMac
    senderIp := readIpv4 packet arpOffSenderIp
    targetMac := readMac packet arpOffTargetMac
    targetIp := readIpv4 packet arpOffTargetIp
  }

def arpBytes (opcode : Nat) (senderMac : MacAddr) (senderIp : Ipv4Addr) (targetMac : MacAddr)
    (targetIp : Ipv4Addr)
    : Bytes :=
  be16 arpHardtypeEther ++ be16 etherTypeIpv4 ++ [6, 4] ++ be16 opcode ++ senderMac.toBytes
    ++ senderIp.toBytes ++ targetMac.toBytes ++ targetIp.toBytes

def sendArpEx (ctx : PacketCtx) (dstMac : MacAddr) (opcode : Nat) (senderMac : MacAddr)
    (senderIp : Ipv4Addr) (targetMac : MacAddr) (targetIp : Ipv4Addr)
    : Option Bytes :=
  sendEther ctx dstMac etherTypeArp
    [arpBytes opcode senderMac senderIp targetMac targetIp]

def sendArp (ctx : PacketCtx) (opcode : Nat) (senderMac : MacAddr) (senderIp : Ipv4Addr)
    (targetMac : MacAddr) (targetIp : Ipv4Addr)
    : Option Bytes := sendArpEx ctx targetMac opcode senderMac senderIp targetMac targetIp

def sendArpRequest (ctx : PacketCtx) (targetIp : Ipv4Addr) : Option Bytes :=
  sendArpEx ctx broadcastMac arpOpcodeRequest ctx.mac ctx.ip noneMac targetIp

def arpHasIp (ctx : PacketCtx) (now : Nat) (ip : Ipv4Addr) : Bool :=
  (findLease ctx.arpList now ip).isSome

/-- `arp_get_mac_by_ip`: the address found and the frames sent. A miss asks the network. -/
def arpGetMacByIp (ctx : PacketCtx) (now : Nat) (ip : Ipv4Addr)
    : Option MacAddr × List Bytes :=
  match findLease ctx.arpList now ip with
  | some item => (some item.value, [])
  | none => (none, (sendArpRequest ctx ip).toList)

def arpSet (ctx : PacketCtx) (now : Nat) (mac : MacAddr) (ip : Ipv4Addr) : PacketCtx :=
  { ctx with arpList := grantLease noneIp ctx.arpList now ⟨ip, mac, now + ctx.arpTtl⟩ }

theorem arpSet_arpList (ctx : PacketCtx) (now : Nat) (mac : MacAddr) (ip : Ipv4Addr)
    : (arpSet ctx now mac ip).arpList
      = grantLease noneIp ctx.arpList now ⟨ip, mac, now + ctx.arpTtl⟩ := by
  rw [arpSet]

/-- The loop of `arp_for_each`; a callback that returns a non-zero value ends it. -/
def arpForEachFrom (now : Nat) (cb : ArpItem → List Bytes × Int) : List ArpItem → List Bytes
  | [] => []
  | item :: rest =>
    if item.runs now then
      if (cb item).2 ≠ 0 then (cb item).1
      else (cb item).1 ++ arpForEachFrom now cb rest
    else arpForEachFrom now cb rest

def arpForEach (ctx : PacketCtx) (now : Nat) (cb : ArpItem → List Bytes × Int) : List Bytes :=
  arpForEachFrom now cb ((List.finRange arpCacheLen).map ctx.arpList)

/-- `arp_request`: answer for every address of the subnet that is not known to be local. -/
def arpRequest (ctx : PacketCtx) (now : Nat) (arp : Arp) : List Bytes :=
  if isSubnet arp.targetIp ctx.subnetNet ctx.subnetMask then
    if arp.targetIp = arp.senderIp then []
    else if arp.senderIp = noneIp then []
    else if arpHasIp ctx now arp.targetIp then []
    else
      (sendArp ctx arpOpcodeReply ctx.mac arp.targetIp arp.senderMac arp.senderIp).toList
  else []

/-- `process_arp`. Replies are only entered into the cache (`arp_reply` does nothing). -/
def processArp (ctx : PacketCtx) (now : Nat) (ether : EtherFrame) : PacketCtx × List Bytes :=
  let arp := parseArp ether
  if arp.hardwareType ≠ arpHardtypeEther ∨ arp.protocolType ≠ etherTypeIpv4
      ∨ arp.hardwareSize ≠ 6 ∨ arp.protocolSize ≠ 4 then (ctx, [])
  else
    let ctx := arpSet ctx now arp.senderMac arp.senderIp
    (ctx, if arp.opcode = arpOpcodeRequest then arpRequest ctx now arp else [])

/-- A callback that never stops the loop is called for the running entries. -/
theorem arpForEach_eq (ctx : PacketCtx) (now : Nat) (send : ArpItem → List Bytes)
    : arpForEach ctx now (fun item => (send item, 0))
      = (runningLeases ctx.arpList now).flatMap send := by
  unfold arpForEach runningLeases
  induction (List.finRange arpCacheLen).map ctx.arpList with
  | nil => rfl
  | cons item rest ih =>
    cases running : item.runs now with
    | true => simp [arpForEachFrom, running, ih]
    | false => simp [arpForEachFrom, running, ih]

end SwitchLanPlay.Packet
