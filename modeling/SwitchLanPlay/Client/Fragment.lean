import SwitchLanPlay.Packet.Address

/-! The relay fragment format of the PC client and the sender that produces it
(`lan_client_send` of `src/lan-client.c`).
-/

namespace SwitchLanPlay.Client

open Foundation
open Packet

def lcFragSrc : Nat := 0
def lcFragDst : Nat := 4
def lcFragId : Nat := 8
def lcFragPart : Nat := 10
def lcFragTotalPart : Nat := 11
def lcFragLen : Nat := 12
def lcFragPmtu : Nat := 14
def lcFragHeaderLen : Nat := 16
def lcFragCount : Nat := 100

/-- `enum lan_client_type`, the first octet of every relay datagram. -/
inductive LanClientType where
  | keepalive
  | ipv4
  | ping
  | ipv4Frag
  | authMe
  | info
  deriving DecidableEq, Repr

def LanClientType.toByte : LanClientType → UInt8
  | .keepalive => 0x00
  | .ipv4 => 0x01
  | .ping => 0x02
  | .ipv4Frag => 0x03
  | .authMe => 0x04
  | .info => 0x10

structure LanClientFragmentHeader where
  src : Ipv4Addr
  dst : Ipv4Addr
  id : Nat
  part : Nat
  totalPart : Nat
  len : Nat
  pmtu : Nat
  deriving DecidableEq, Repr

def LanClientFragmentHeader.toBytes (header : LanClientFragmentHeader) : Bytes :=
  header.src.toBytes ++ header.dst.toBytes ++ be16 header.id
    ++ [UInt8.ofNat header.part, UInt8.ofNat header.totalPart]
    ++ be16 header.len ++ be16 header.pmtu

def readFragmentHeader (packet : Bytes) : LanClientFragmentHeader where
  src := readIpv4 packet lcFragSrc
  dst := readIpv4 packet lcFragDst
  id := readBe16 packet lcFragId
  part := readU8 packet lcFragPart
  totalPart := readU8 packet lcFragTotalPart
  len := readBe16 packet lcFragLen
  pmtu := readBe16 packet lcFragPmtu

def LanClientFragmentHeader.onWire (header : LanClientFragmentHeader)
    : LanClientFragmentHeader :=
  {
    header with
    id := header.id % 65536
    part := header.part % 256
    totalPart := header.totalPart % 256
    len := header.len % 65536
    pmtu := header.pmtu % 65536
  }

@[simp] theorem LanClientFragmentHeader.toBytes_length (header : LanClientFragmentHeader)
    : header.toBytes.length = lcFragHeaderLen := rfl

/-- A written header reads back with its fields reduced to their widths. -/
theorem readFragmentHeader_toBytes_append (header : LanClientFragmentHeader) (rest : Bytes)
    : readFragmentHeader (header.toBytes ++ rest) = header.onWire := by
  obtain ⟨src, dst, id, part, totalPart, len, pmtu⟩ := header
  simp only [readFragmentHeader, LanClientFragmentHeader.onWire,
    LanClientFragmentHeader.mk.injEq]
  refine ⟨rfl, rfl, ?_, ?_, ?_, ?_, ?_⟩
  all_goals
    simp [LanClientFragmentHeader.toBytes, Ipv4Addr.toBytes, be16, readBe16, readU8, lcFragId,
      lcFragPart, lcFragTotalPart, lcFragLen, lcFragPmtu]
  all_goals omega

/-- The sender's part of `struct lan_play`: the path MTU option and the identifier counter.
The counter is a C `int` of which only the low sixteen bits reach the wire.
-/
structure LanClientSender where
  pmtu : Nat
  fragId : Nat
  deriving DecidableEq, Repr

/-- What one call of `lan_client_send` does: the datagrams that went out, in order, the
sender afterwards, and the value returned.
-/
structure SendOutcome where
  sender : LanClientSender
  datagrams : List Bytes
  ret : Int

def totalPart (len pmtu : Nat) : Nat :=
  if pmtu * (len / pmtu) < len then len / pmtu + 1 else len / pmtu

def fragmentDatagram (packet : Bytes) (pmtu id i pos : Nat) : Bytes :=
  let partLen := min pmtu (packet.length - pos)
  let header : LanClientFragmentHeader :=
    {
      src := readIpv4 packet ipv4OffSrc
      dst := readIpv4 packet ipv4OffDst
      id := id
      part := i
      totalPart := totalPart packet.length pmtu
      len := partLen
      pmtu := pmtu
    }
  LanClientType.ipv4Frag.toByte :: (header.toBytes ++ slice packet pos partLen)

/-- The `while (pos < len)` loop. `udpSend` is the result of `uv_udp_send` for a datagram;
a non-zero result ends the loop and is returned. Every iteration advances `pos`, so the
packet length is enough fuel.
-/
def sendFragments (udpSend : Bytes → Int) (packet : Bytes) (pmtu id : Nat)
    : Nat → Nat → Nat → List Bytes × Int
  | 0, _, _ => ([], 0)
  | fuel + 1, i, pos =>
    if pos < packet.length then
      let datagram := fragmentDatagram packet pmtu id i pos
      let ret := udpSend datagram
      if ret ≠ 0 then ([], ret)
      else
        let rest := sendFragments udpSend packet pmtu id fuel (i + 1)
          (pos + min pmtu (packet.length - pos))
        (datagram :: rest.1, rest.2)
    else ([], 0)

/-- `lan_client_send`. A packet that does not fit one part is cut into fragments under a
fresh identifier; everything else goes out whole behind its type octet.
-/
def lanClientSend (udpSend : Bytes → Int) (sender : LanClientSender) (type : LanClientType)
    (packet : Bytes)
    : SendOutcome :=
  if type = .ipv4 ∧ 0 < sender.pmtu ∧ 1 < totalPart packet.length sender.pmtu then
    let sent := sendFragments udpSend packet sender.pmtu sender.fragId packet.length 0 0
    ⟨{ sender with fragId := sender.fragId + 1 }, sent.1, sent.2⟩
  else
    let datagram := type.toByte :: packet
    let ret := udpSend datagram
    ⟨sender, if ret = 0 then [datagram] else [], ret⟩

-- What a successful send emits

/-- A part is counted exactly when it starts before the end of the packet. -/
theorem lt_totalPart_iff {len pmtu i : Nat} (positive : 0 < pmtu)
    : i < totalPart len pmtu ↔ i * pmtu < len := by
  have full : i < len / pmtu ↔ i * pmtu + pmtu ≤ len := by
    rw [← Nat.succ_le_iff, Nat.le_div_iff_mul_le positive, Nat.succ_mul]
  unfold totalPart
  split
  · rename_i rest
    rw [Nat.lt_succ_iff, Nat.le_div_iff_mul_le positive]
    constructor
    · intro atMost
      rcases Nat.lt_or_eq_of_le atMost with strict | equal
      · exact strict
      · rw [← equal, Nat.mul_div_cancel _ positive, Nat.mul_comm] at rest
        omega
    · exact Nat.le_of_lt
  · rename_i exhausted
    have whole : pmtu * (len / pmtu) = len := by
      have bound := Nat.mul_div_le len pmtu
      omega
    constructor
    · intro counted
      have fits := full.mp counted
      omega
    · intro strict
      rw [← whole, Nat.mul_comm] at strict
      exact Nat.lt_of_mul_lt_mul_left strict

/-- The loop emits the remaining parts in order when every datagram goes out.
Witness: induction on the fuel, at a position that is the start of part `i`.
-/
theorem sendFragments_ok (packet : Bytes) {pmtu : Nat} (id : Nat) (positive : 0 < pmtu)
    (fuel i pos : Nat) (start : pos = min (i * pmtu) packet.length)
    (enough : totalPart packet.length pmtu ≤ i + fuel)
    : sendFragments (fun _ => 0) packet pmtu id fuel i pos
      = ((List.range' i (totalPart packet.length pmtu - i)).map
          (fun j => fragmentDatagram packet pmtu id j (j * pmtu)), 0) := by
  induction fuel generalizing i pos with
  | zero =>
    have none : totalPart packet.length pmtu - i = 0 := by omega
    simp [sendFragments, none]
  | succ fuel ih =>
    by_cases more : i < totalPart packet.length pmtu
    · have inside := (lt_totalPart_iff positive).mp more
      have here : pos = i * pmtu := by omega
      have count : totalPart packet.length pmtu - i
          = totalPart packet.length pmtu - (i + 1) + 1 := by omega
      have next := ih (i + 1) (pos + min pmtu (packet.length - pos))
        (by rw [Nat.succ_mul]; omega) (by omega)
      rw [count, List.range'_succ]
      simp only [sendFragments, here, inside, if_true, ne_eq, not_true_eq_false, if_false,
        List.map_cons]
      rw [here] at next
      rw [next]
    · have outside : ¬ pos < packet.length := by
        have beyond := mt (lt_totalPart_iff positive).mpr more
        omega
      have none : totalPart packet.length pmtu - i = 0 := by omega
      simp [sendFragments, outside, none]

/-- The parts are at most as many as the octets, so the loop's fuel suffices. -/
theorem totalPart_le {len pmtu : Nat} (positive : 0 < pmtu) : totalPart len pmtu ≤ len := by
  by_contra more
  have inside := (lt_totalPart_iff positive).mp (Nat.lt_of_not_le more)
  have grows := Nat.le_mul_of_pos_right len positive
  omega

/-- A packet longer than the path MTU goes out as its parts in order, one datagram each. -/
theorem lanClientSend_fragments {sender : LanClientSender} {packet : Bytes}
    (positive : 0 < sender.pmtu) (long : sender.pmtu < packet.length)
    : (lanClientSend (fun _ => 0) sender .ipv4 packet).datagrams
      = (List.range (totalPart packet.length sender.pmtu)).map
          (fun j => fragmentDatagram packet sender.pmtu sender.fragId j (j * sender.pmtu)) := by
  have several : 1 < totalPart packet.length sender.pmtu :=
    (lt_totalPart_iff positive).mpr (by omega)
  have loop := sendFragments_ok packet sender.fragId positive packet.length 0 0 (by simp)
    (by simpa only [Nat.zero_add] using totalPart_le positive)
  simp only [lanClientSend, positive, several, and_self, if_true, loop, Nat.sub_zero,
    List.range_eq_range']

end SwitchLanPlay.Client
