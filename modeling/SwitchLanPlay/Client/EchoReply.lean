import SwitchLanPlay.Client.Pipeline
import SwitchLanPlay.Packet.Checksum

/-! The checksum of the echo replies that `process_icmp` builds. -/

namespace SwitchLanPlay.Client

open Foundation
open Packet

theorem echoReply_cons (type code high low : UInt8) (rest : Bytes)
    : echoReply (type :: code :: high :: low :: rest)
      = [0, code] ++ (be16 (calcChecksum ([0, code] ++ ([0, 0] ++ rest))) ++ rest) := by
  simp [echoReply, be16]

/-- A checksum that `calc_checksum` computes with its field cleared verifies exactly when the number
of octets is even or the last one is zero; so it is with every echo reply.
-/
theorem calcChecksum_verifies_iff (buffer request : Bytes)
    : (4 ≤ buffer.length
        → buffer.length ≤ 65535
        → slice buffer 2 2 = [0, 0]
        → (onesSum (patch buffer 2 (be16 (calcChecksum buffer))) = 0xffff
          ↔ buffer.length % 2 = 0 ∨ buffer.getLast? = some 0))
      ∧ (4 ≤ request.length
        → request.length ≤ 65535
        → (onesSum (echoReply request) = 0xffff
          ↔ request.length % 2 = 0 ∨ request.getLast? = some 0)) := by
  have fields {octets : Bytes} (long : 4 ≤ octets.length)
      : ∃ a b c d rest, octets = a :: b :: c :: d :: rest := by
    match octets, long with
    | a :: b :: c :: d :: rest, _ => exact ⟨a, b, c, d, rest, rfl⟩
  constructor
  · intro long _ cleared
    obtain ⟨a, b, c, d, rest, rfl⟩ := fields long
    cases cleared
    rw [← oddOctet_eq_zero_iff]
    exact onesSum_calcChecksum_iff (by simp : [a, b].length % 2 = 0) rest
  · intro long _
    obtain ⟨a, b, c, d, rest, rfl⟩ := fields long
    rw [← oddOctet_eq_zero_iff, echoReply_cons]
    exact onesSum_calcChecksum_iff (by simp : [0, b].length % 2 = 0) rest

/-- The reply to a request of five octets does not verify. -/
theorem odd_reply_refused
    : onesSum (patch [0, 0, 0, 0, 1] 2 (be16 (calcChecksum [0, 0, 0, 0, 1]))) = 0x00ff
      ∧ onesSum (echoReply [8, 0, 0, 0, 1]) = 0x00ff := by
  decide +kernel

end SwitchLanPlay.Client
