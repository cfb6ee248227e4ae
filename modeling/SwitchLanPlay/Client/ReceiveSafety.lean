import SwitchLanPlay.Client.Login
import SwitchLanPlay.Client.Pcap
import SwitchLanPlay.Client.ReassemblySafety
import SwitchLanPlay.Packet.Accesses

/-! What the PC client reads of a datagram of the relay: `lan_client_on_recv` and its handlers
with every read checked against the octets received, and every length that is passed on against
the octets behind the pointer. Two handlers look at a fixed offset without a check.
-/

namespace SwitchLanPlay.Client

open Option
open Foundation
open Packet

variable {count : Nat}

/-- `struct lan_play` of the PC client. The lengths of the fragment slots are inside of their
buffers, as `SlotSearch.reassemblySafe` shows for every run.
-/
structure PcClient (count : Nat) where
  lanPlay : LanPlay
  frags : FragTable
  pcap : PcapClient count
  bounded : frags.Bounded

/-- What a datagram of the relay leads to. What is printed of it is not kept. -/
structure RecvOutcome (count : Nat) where
  frags : FragTable
  pcap : PcapClient count
  frames : List Bytes
  answer : Option SendOutcome

def PcClient.ignore (client : PcClient count) : RecvOutcome count :=
  ⟨client.frags, client.pcap, [], none⟩

/-- `lan_client_process_frag`; a packet that is complete goes to `lan_client_process`. -/
def PcClient.processFrag (client : PcClient count) (now : Nat) (packet : Bytes)
    : RecvOutcome count :=
  let collected := lanClientProcessFrag client.frags packet
  match collected.2 with
  | none => ⟨collected.1, client.pcap, [], none⟩
  | some handed =>
    let outcome := client.pcap.lanClientProcess now (Memory.ofArray handed.buffer) handed.len
    ⟨collected.1, outcome.1, outcome.2, none⟩

section Receive

variable (sha1 : Bytes → Bytes) (udpSend : Bytes → Int)

def PcClient.lanClientOnRecv (client : PcClient count) (now : Nat) (datagram : Bytes)
    : RecvOutcome count :=
  match client.lanPlay.lanClientOnRecv sha1 udpSend datagram with
  | .ignored => client.ignore
  | .process packet len =>
    let outcome := client.pcap.lanClientProcess now packet len
    ⟨client.frags, outcome.1, outcome.2, none⟩
  | .processFrag packet len => client.processFrag now (packet.read len)
  | .authMe answer => ⟨client.frags, client.pcap, [], answer⟩
  | .info => client.ignore

-- Checked reads

/-- `lan_client_process` on the octets behind `packet`, of which `len` are passed on. -/
def PcapClient.lanClientProcess? (client : PcapClient count) (now : Nat) (packet : Bytes)
    (len : Nat)
    : Option (PcapClient count × List Bytes) :=
  if packet.length < len then none
  else if len = 0 then some (client, [])
  else do
    let dst ← readAt? readIpv4 4 packet ipv4OffDst
    if isBroadcast dst client.packetCtx.subnetNet client.packetCtx.subnetMask then
      let data ← readSlice? len packet 0
      return client.lanClientOnBroadcast now data
    else
      match arpGetMacByIp client.packetCtx now dst with
      | (none, frames) => return (client, frames)
      | (some dstMac, frames) =>
        let data ← readSlice? len packet 0
        return (client, frames ++ (sendEther client.packetCtx dstMac etherTypeIpv4 [data]).toList)

def LanPlay.lanClientProcessAuthMe? (lanPlay : LanPlay) (packet : Bytes) (len : Nat)
    : Option (Option Bytes) :=
  match lanPlay.username with
  | none => some none
  | some username => do
      let authType ← readAt? (fun region offset => region.getD offset 0) 1 packet 0
      if authType = 0 then
        let challenge ← readSlice? ((len + 65535) % 65536) packet 1
        return some (response (sha1 (lanPlay.key ++ challenge)) username)
      else return none

/-- `lan_client_process_frag` on the octets behind `packet`; a packet that is complete goes to
`lan_client_process` in the buffer of its slot.
-/
def PcClient.processFrag? (client : PcClient count) (now : Nat) (packet : Bytes) (len : Nat)
    : Option (RecvOutcome count) :=
  if packet.length < len then none
  else do
    let (frags, handed) ← lanClientProcessFrag? client.frags (packet.take len)
    match handed with
    | none => return ⟨frags, client.pcap, [], none⟩
    | some handed =>
      let outcome ← client.pcap.lanClientProcess? now (List.ofFn handed.buffer) handed.len
      return ⟨frags, outcome.1, outcome.2, none⟩

def PcClient.lanClientOnRecv? (client : PcClient count) (now : Nat) (received : Bytes)
    : Option (RecvOutcome count) :=
  if received.length = 0 then some client.ignore
  else do
    let type ← readAt? (fun region offset => region.getD offset 0) 1 received 0
    let packet := received.drop 1
    let len := (received.length % 65536 + 65535) % 65536
    match type &&& 0x7f with
    | 0x01 =>
      let outcome ← client.pcap.lanClientProcess? now packet len
      return ⟨client.frags, outcome.1, outcome.2, none⟩
    | 0x03 => client.processFrag? now packet len
    | 0x04 =>
      let answer ← client.lanPlay.lanClientProcessAuthMe? sha1 packet len
      return ⟨client.frags, client.pcap, [],
        answer.map (lanClientSend udpSend client.lanPlay.sender .authMe)⟩
    | 0x10 =>
      let _text ← readSlice? len packet 0
      return client.ignore
    | _ => return client.ignore

end Receive

-- The handlers

/-- `lan_client_process` reads the destination address of every packet that is not empty. -/
theorem PcapClient.lanClientProcess?_eq (client : PcapClient count) (now : Nat) (packet : Memory)
    {size len : Nat} (available : len ≤ size)
    : client.lanClientProcess? now (packet.read size) len
      = if len ≠ 0 ∧ size < ipv4HeaderLen then none
        else some (client.lanClientProcess now packet len) := by
  have data := @readSlice?_eq packet 0 len size (by omega)
  rw [packet.shift_zero] at data
  unfold lanClientProcess? lanClientProcess
  rw [packet.read_length, if_neg (Nat.not_lt.mpr available), data]
  by_cases empty : len = 0
  · rw [if_pos empty, if_pos empty, if_neg (fun long => long.1 empty)]
  rw [if_neg empty, if_neg empty]
  by_cases short : size < ipv4HeaderLen
  · rw [if_pos ⟨empty, short⟩, readAt?_eq_none (by decide) (by rwa [packet.read_length])]
    rfl
  · have dst := @ReadsOnly.readAt?_shift _ _ _ readIpv4_readsOnly packet 0 ipv4HeaderLen ipv4OffDst
      size (by decide) (by rw [Nat.zero_add]; exact Nat.not_lt.mp short)
    rw [Nat.zero_add, packet.shift_zero] at dst
    rw [if_neg (fun both => short both.2), dst, bind_eq_bind, bind_some]
    dsimp only
    split
    · rfl
    · cases arpGetMacByIp client.packetCtx now
          (readIpv4 (packet.read ipv4HeaderLen) ipv4OffDst) with
      | mk found frames => cases found <;> rfl

/-- `lan_client_process_auth_me` reads the type of a request that it answers. -/
theorem LanPlay.lanClientProcessAuthMe?_eq (lanPlay : LanPlay) (sha1 : Bytes → Bytes)
    (packet : Memory) {len : Nat} (short : len < 65536)
    : lanPlay.lanClientProcessAuthMe? sha1 (packet.read len) len
      = if lanPlay.username.isSome ∧ len = 0 then none
        else some (lanPlay.lanClientProcessAuthMe sha1 packet len) := by
  unfold lanClientProcessAuthMe? lanClientProcessAuthMe
  cases lanPlay.username with
  | none => rfl
  | some username =>
    by_cases empty : len = 0
    · rw [if_pos ⟨rfl, empty⟩, empty]
      rfl
    · have authType : readAt? (fun region offset => region.getD offset 0) 1 (packet.read len) 0
          = some (packet 0) := by
        rw [readAt?_of_le (by rw [packet.read_length]; omega)]
        exact congrArg some (packet.getD_read (by omega))
      have challengeLen : (len + 65535) % 65536 = len - 1 := by omega
      have challenge := @readSlice?_eq packet 1 (len - 1) len (by omega)
      dsimp only
      rw [if_neg (fun both => empty both.2), authType, challengeLen, challenge]
      simp only [bind_eq_bind, bind_some, response]
      split <;> rfl

/-- A fragment and the packet it completes are read inside of the datagram and of the slot. -/
theorem PcClient.processFrag?_eq (client : PcClient count) (now : Nat) (packet : Bytes)
    : client.processFrag? now packet packet.length = some (client.processFrag now packet) := by
  have handedFits := (pcSearch.collect_bounded client.bounded packet).2
  rw [← lanClientProcessFrag_eq_collect] at handedFits
  unfold processFrag? processFrag
  rw [if_neg (lt_irrefl _), List.take_length, lanClientProcessFrag?_eq, bind_eq_bind,
    bind_some]
  dsimp only
  cases completed : (lanClientProcessFrag client.frags packet).2 with
  | none => rfl
  | some handed =>
    have whole : ¬ (handed.len ≠ 0 ∧ etherMtu < ipv4HeaderLen) :=
      fun short => absurd short.2 (by decide)
    dsimp only
    rw [← Memory.read_ofArray,
      PcapClient.lanClientProcess?_eq _ _ _ (handedFits handed completed), if_neg whole]
    rfl

-- Safe datagrams

/-- What a datagram must not be: an IPv4 message that ends before the destination address does, or
an empty request to log in that the client would answer.
-/
structure DatagramFits (client : PcClient count) (received : Bytes) : Prop where
  ipv4 : received.getD 0 0 &&& 0x7f = 0x01 → received.length ≤ 1 ∨ 21 ≤ received.length
  authMe
    : received.getD 0 0 &&& 0x7f = 0x04
      → client.lanPlay.username.isSome = true
      → 2 ≤ received.length

theorem DatagramFits.of_other {client : PcClient count} {received : Bytes} {kind : UInt8}
    (type : received.getD 0 0 &&& 0x7f = kind) (notIpv4 : kind ≠ 0x01) (notAuthMe : kind ≠ 0x04)
    : DatagramFits client received where
  ipv4 isIpv4 := absurd (type.symm.trans isIpv4) notIpv4
  authMe isAuthMe := absurd (type.symm.trans isAuthMe) notAuthMe

/-- `lan_client_on_recv` reads nothing behind the received octets and passes no length beyond them
exactly for the datagrams that fit, whatever the state of the client and the contents of its buffer.
-/
theorem receive_safe_iff (client : PcClient count) (sha1 : Bytes → Bytes)
    (udpSend : Bytes → Int) (now : Nat) {received : Bytes} (arrived : 1 ≤ received.length)
    (fits : received.length ≤ clientRecvBufLen)
    : client.lanClientOnRecv? sha1 udpSend now received
        = some (client.lanClientOnRecv sha1 udpSend now received)
      ↔ DatagramFits client received := by
  have bound : received.length ≤ 4096 := fits
  have len : (received.length % 65536 + 65535) % 65536 = received.length - 1 := by omega
  have octets := client.lanPlay.clientBuf.read_write_drop received 1
  have first : client.lanPlay.clientBuf.write 0 received 0 = received.getD 0 0 :=
    client.lanPlay.clientBuf.write_inside (Nat.le_refl 0) (by omega)
  have type : readAt? (fun region offset => region.getD offset 0) 1 received 0
      = some (received.getD 0 0) := readAt?_of_le (by omega)
  generalize packetEq : (client.lanPlay.clientBuf.write 0 received).shift 1 = packet at octets
  unfold PcClient.lanClientOnRecv? PcClient.lanClientOnRecv LanPlay.lanClientOnRecv
  have nonempty : ¬ received.length = 0 := by omega
  rw [List.take_of_length_le fits, if_neg nonempty, if_neg nonempty]
  dsimp only
  rw [type, len, first, packetEq, ← octets, Option.bind_eq_bind, Option.bind_some]
  -- named, so that the split reaches both of the functions compared
  generalize kindEq : received.getD 0 0 &&& 0x7f = kind
  split
  · rw [PcapClient.lanClientProcess?_eq _ _ _ le_rfl]
    have fitsIff : DatagramFits client received
        ↔ ¬ (received.length - 1 ≠ 0 ∧ received.length - 1 < ipv4HeaderLen) := by
      have size : ipv4HeaderLen = 20 := rfl
      constructor
      · intro fits cut
        have ends := fits.ipv4 kindEq
        omega
      · intro long
        refine ⟨fun _ => by omega, fun isAuthMe => ?_⟩
        rw [kindEq] at isAuthMe
        exact absurd isAuthMe (by decide)
    rw [fitsIff]
    split
    · rename_i cut
      exact iff_of_false (fun impossible => by cases impossible) (not_not.mpr cut)
    · rename_i long
      exact iff_of_true rfl long
  · have whole := client.processFrag?_eq now (packet.read (received.length - 1))
    rw [packet.read_length] at whole
    rw [whole]
    exact iff_of_true rfl (.of_other kindEq (by decide) (by decide))
  · rw [LanPlay.lanClientProcessAuthMe?_eq _ _ _ (by omega)]
    have fitsIff : DatagramFits client received
        ↔ ¬ (client.lanPlay.username.isSome ∧ received.length - 1 = 0) := by
      constructor
      · rintro fits ⟨named, empty⟩
        have long := fits.authMe kindEq named
        omega
      · intro long
        refine ⟨fun isIpv4 => ?_, fun _ named => ?_⟩
        · rw [kindEq] at isIpv4
          exact absurd isIpv4 (by decide)
        · have more : ¬ received.length - 1 = 0 := fun empty => long ⟨named, empty⟩
          omega
    rw [fitsIff]
    split
    · rename_i empty
      exact iff_of_false (fun impossible => by cases impossible) (not_not.mpr empty)
    · rename_i long
      exact iff_of_true rfl long
  · have text := @readSlice?_eq packet 0 (received.length - 1) (received.length - 1) (by omega)
    rw [text]
    exact iff_of_true rfl (.of_other kindEq (by decide) (by decide))
  · rename_i notIpv4 notFrag notAuthMe notInfo
    refine iff_of_true ?_ (.of_other kindEq notIpv4 notAuthMe)
    simp only [Option.pure_def]

def namedClient : PcClient 0 where
  lanPlay := ⟨⟨0, 0⟩, fun _ => 0, some [0x62, 0x6f, 0x62], []⟩
  frags := .init
  pcap := .init ⟨10, 13, 37, 1⟩ ⟨10, 13, 0, 0⟩ ⟨255, 255, 0, 0⟩
  bounded := FragTable.init_bounded

theorem receive_safe_iff_header
    : (1 :: List.replicate 20 0 : Bytes).length = 21
      ∧ namedClient.lanClientOnRecv? id (fun _ => 0) 0 (1 :: List.replicate 20 0)
        = some (namedClient.lanClientOnRecv id (fun _ => 0) 0 (1 :: List.replicate 20 0)) :=
  ⟨rfl, (receive_safe_iff namedClient id (fun _ => 0) 0 (by decide) (by decide)).mpr
    ⟨fun _ => by decide, fun _ _ => by decide⟩⟩

/-- The destination address of a packet with one octet and the type of an empty request to log in
are read behind the datagram.
-/
theorem receive_overruns
    : namedClient.lanClientOnRecv? id (fun _ => 0) 0 [0x01, 0x45] = none
      ∧ namedClient.lanClientOnRecv? id (fun _ => 0) 0 [0x04] = none := ⟨rfl, rfl⟩

end SwitchLanPlay.Client
