import SwitchLanPlay.Client.Fragment
import SwitchLanPlay.Foundation.Memory

/-! How the PC client takes a datagram of the relay and answers a request to log in
(`lan_client_on_recv` and `lan_client_process_auth_me` of `src/lan-client.c`).
-/

namespace SwitchLanPlay.Client

open List
open Foundation

variable {username : Bytes}

def strlen (octets : Bytes) : Nat := (octets.takeWhile (· ≠ 0)).length

theorem strlen_eq_length {octets : Bytes} (nulFree : 0 ∉ octets)
    : strlen octets = octets.length := by
  rw [strlen, takeWhile_eq_self_iff.mpr]
  intro octet member
  rw [decide_eq_true_eq]
  rintro rfl
  exact nulFree member

def clientRecvBufLen : Nat := 4096

structure LanPlay where
  sender : LanClientSender
  clientBuf : Memory
  username : Option Bytes
  key : Bytes

/-- `lan_client_process_auth_me`: the answer to a challenge, if there is one. All lengths have
sixteen bits. With a name of 65516 to 65535 octets the length of the answer wraps and the copies
run past the buffer; what is sent are the first octets written.
-/
def LanPlay.lanClientProcessAuthMe (lanPlay : LanPlay) (sha1 : Bytes → Bytes) (packet : Memory)
    (len : Nat)
    : Option Bytes :=
  match lanPlay.username with
  | none => none
  | some username =>
    if packet 0 = 0 then
      let challengeLen := (len + 65535) % 65536
      let usernameLen := strlen username % 65536
      let responseLen := (20 + usernameLen) % 65536
      let hash := sha1 (lanPlay.key ++ (packet.shift 1).read challengeLen)
      some ((hash ++ username.take usernameLen).take responseLen)
    else none

inductive Reception where
  | ignored
  | process (packet : Memory) (len : Nat)
  | processFrag (packet : Memory) (len : Nat)
  | authMe (answer : Option SendOutcome)
  | info

/-- `lan_client_on_recv` with a datagram that `lan_client_alloc_cb` had put into `client_buf`. -/
def LanPlay.lanClientOnRecv (lanPlay : LanPlay) (sha1 : Bytes → Bytes) (udpSend : Bytes → Int)
    (datagram : Bytes)
    : Reception :=
  let nread := (datagram.take clientRecvBufLen).length
  if nread = 0 then .ignored
  else
    let recvLen := nread % 65536
    let buffer := lanPlay.clientBuf.write 0 (datagram.take clientRecvBufLen)
    let len := (recvLen + 65535) % 65536
    match buffer 0 &&& 0x7f with
    | 0x01 => .process (buffer.shift 1) len
    | 0x03 => .processFrag (buffer.shift 1) len
    | 0x04 =>
      .authMe ((lanPlay.lanClientProcessAuthMe sha1 (buffer.shift 1) len).map
        (lanClientSend udpSend lanPlay.sender .authMe))
    | 0x10 => .info
    | _ => .ignored

def response (hash username : Bytes) : Bytes :=
  (hash ++ username.take (strlen username % 65536)).take ((20 + strlen username % 65536) % 65536)

/-- A NUL-free name of up to 65515 octets stands whole behind the hash. -/
theorem response_of_short {hash : Bytes} (width : hash.length = 20) (nulFree : 0 ∉ username)
    (short : username.length ≤ 65515)
    : response hash username = hash ++ username := by
  have name : strlen username % 65536 = username.length := by
    rw [strlen_eq_length nulFree, Nat.mod_eq_of_lt (by omega)]
  have answer : (20 + username.length) % 65536 = (hash ++ username).length := by
    rw [length_append, width, Nat.mod_eq_of_lt (by omega)]
  rw [response, name, take_length, answer, take_length]

/-- A name whose length is a multiple of 65536 is lost. -/
theorem response_of_wrapped {hash : Bytes} (width : hash.length = 20)
    (wrapped : strlen username % 65536 = 0)
    : response hash username = hash := by
  rw [response, wrapped, take_zero, append_nil]
  exact take_of_length_le width.le

theorem LanPlay.lanClientProcessAuthMe_challenge (lanPlay : LanPlay)
    (named : lanPlay.username = some username) (sha1 : Bytes → Bytes) (packet : Memory)
    (authType : packet 0 = 0) {challenge : Bytes}
    (stored : (packet.shift 1).read challenge.length = challenge) (fits : challenge.length < 65535)
    : lanPlay.lanClientProcessAuthMe sha1 packet (challenge.length + 1)
      = some (response (sha1 (lanPlay.key ++ challenge)) username) := by
  have counted : (challenge.length + 1 + 65535) % 65536 = challenge.length := by omega
  simp only [lanClientProcessAuthMe, named, authType, if_true, counted, stored, response]

/-- The PC client answers a challenge with the hash of its key and the challenge, and its name. -/
theorem LanPlay.lanClientOnRecv_challenge (lanPlay : LanPlay)
    (named : lanPlay.username = some username) (sha1 : Bytes → Bytes) (udpSend : Bytes → Int)
    {challenge : Bytes} (fits : challenge.length + 2 ≤ clientRecvBufLen)
    : lanPlay.lanClientOnRecv sha1 udpSend (4 :: 0 :: challenge)
      = .authMe (some (lanClientSend udpSend lanPlay.sender .authMe
          (response (sha1 (lanPlay.key ++ challenge)) username))) := by
  have bound : challenge.length + 2 ≤ 4096 := fits
  have whole : (4 :: 0 :: challenge).take clientRecvBufLen = 4 :: 0 :: challenge :=
    take_of_length_le fits
  have received : ((challenge.length + 1 + 1) % 65536 + 65535) % 65536 = challenge.length + 1 := by
    omega
  have stored
      : (((lanPlay.clientBuf.write 0 (4 :: 0 :: challenge)).shift 1).shift 1).read challenge.length
        = challenge := by
    rw [Memory.shift_shift]
    exact lanPlay.clientBuf.read_write_drop (4 :: 0 :: challenge) 2
  have authType : (lanPlay.clientBuf.write 0 (4 :: 0 :: challenge)).shift 1 0 = 0 := by
    simp [Memory.shift, Memory.write]
  have type : lanPlay.clientBuf.write 0 (4 :: 0 :: challenge) 0 = 4 := by simp [Memory.write]
  have answered := lanPlay.lanClientProcessAuthMe_challenge named sha1 _ authType stored
    (by omega)
  unfold lanClientOnRecv
  simp only [whole, length_cons, type, if_neg (Nat.succ_ne_zero _), received, answered,
    show (4 : UInt8) &&& 0x7f = 4 from rfl, Option.map_some]

end SwitchLanPlay.Client
