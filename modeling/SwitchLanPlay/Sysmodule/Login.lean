import SwitchLanPlay.Server.Provider
import SwitchLanPlay.Sysmodule.Runtime

/-! The login of both clients at the relay: they give the same answer to a challenge, the server
takes it apart again, and the provider accepts it exactly for an equal hash.
-/

namespace SwitchLanPlay.Sysmodule

open Foundation
open Client (LanClientType LanClientSender SendOutcome response
  response_of_short response_of_wrapped)
open Server (SLPServer AddressInfo PeerId BasicAuthProvider.verify relay serverAfter
  utf8 bufferToString? bufferToString?_utf8 utf8_ne_nil relay_run_keepsCall)

/-- The sysmodule answers a challenge as the PC client does. -/
theorem LanPlay.lanClientProcessAuthMe_challenge (lp : LanPlay) {username : Bytes}
    (named : lp.username = some username) (sha1 : Bytes → Bytes) (challenge : Bytes)
    : lp.lanClientProcessAuthMe sha1 (0 :: challenge)
      = some (response (sha1 (lp.key ++ challenge)) username) := by
  simp [lanClientProcessAuthMe, named, readU8, response]

/-- A challenge that arrives at `relay_buf` is answered by one datagram. -/
theorem LanPlay.lanClientRecv_challenge (lp : LanPlay) {username : Bytes}
    (named : lp.username = some username) (sha1 : Bytes → Bytes) {sends : Bytes → Bool}
    {challenge : Bytes} (fits : challenge.length + 2 ≤ relayBufLen)
    (sent : sends (4 :: response (sha1 (lp.key ++ challenge)) username) = true) (now : Nat)
    : (lp.lanClientRecv sha1 sends now (4 :: 0 :: challenge)).2
      = ⟨[], [4 :: response (sha1 (lp.key ++ challenge)) username]⟩ := by
  have whole : (4 :: 0 :: challenge).take relayBufLen = 4 :: 0 :: challenge :=
    List.take_of_length_le fits
  have type : lanClientType? (lp.relayBuf.write 0 (4 :: 0 :: challenge) 0) = some .authMe := by
    have head : lp.relayBuf.write 0 (4 :: 0 :: challenge) 0 = 4 := by simp [Memory.write]
    rw [head]
    decide
  have stored
      : ((lp.relayBuf.write 0 (4 :: 0 :: challenge)).shift 1).read (0 :: challenge).length
        = 0 :: challenge := lp.relayBuf.read_write_drop (4 :: 0 :: challenge) 1
  have answered
      := { lp with relayBuf := lp.relayBuf.write 0 (4 :: 0 :: challenge) }
          |>.lanClientProcessAuthMe_challenge named sha1 challenge
  have copied := Memory.read_write_drop (fun _ => 0)
    (response (sha1 (lp.key ++ challenge)) username) 0
  rw [Memory.shift_zero, Nat.sub_zero, List.drop_zero] at copied
  have octet : LanClientType.authMe.toByte = 4 := rfl
  unfold lanClientRecv
  simp only [whole, lanClientSwitch, type, stored, answered, lanClientSend, reduceCtorEq,
    false_and, if_false, copied, octet, sent, if_true]

def loginAnswer (sha1 : Bytes → Bytes) (key challenge : Bytes) (name : String) : Bytes :=
  LanClientType.authMe.toByte :: (sha1 (key ++ challenge) ++ utf8 name)

/-- A provider that knows the name compares the two hashes. -/
theorem verify_eq_true_iff {sha1 : Bytes → Bytes}
    {getUserPasswordSHA1 : String → Except String Bytes} {name : String} {providerKey : Bytes}
    (provided : getUserPasswordSHA1 name = .ok providerKey) (challenge response : Bytes)
    : BasicAuthProvider.verify sha1 getUserPasswordSHA1 name challenge response = .resolved true
      ↔ sha1 (providerKey ++ challenge) = response := by
  simp [BasicAuthProvider.verify, provided]

/-- A verification that resolves to true before anything else settles it logs its peer in. -/
theorem run_verified_user (server : SLPServer) {call : Nat} {verification : Server.Verification}
    (started : call < server.calls) (pending : server.pending.get? call = some verification)
    {middle : List Server.Event} (unsettled : ∀ event ∈ middle, ¬ event.Settles call)
    : (((relay true).run server (middle ++ [.verified call (.resolved true)])).peers
        verification.peer).user = some ⟨verification.username⟩ := by
  have kept := (relay_run_keepsCall true server started unsettled).pending.trans pending
  rw [Machine.run_concat]
  generalize (relay true).run server middle = before at kept ⊢
  simp [relay, SLPServer.step, SLPServer.onSettled, kept, SLPServer.modifyPeer]

/-- Both clients answer the server's `AuthMe` datagram alike, the server splits the answer into
the name and the hash again, the provider accepts it exactly when its key gives the same hash,
and with the same key the answer logs the peer in, whatever happens until the provider is done.
-/
theorem login_completes (sha1 : Bytes → Bytes) (width : ∀ octets, (sha1 octets).length = 20)
    (name : String) (nonempty : name ≠ "") (nulFree : 0 ∉ utf8 name)
    (short : (utf8 name).length ≤ 65515) (key : Block 20) (challenge : Block 64)
    (pc : Client.LanPlay) (pcName : pc.username = some (utf8 name)) (pcKey : pc.key = key.val)
    (udpSend : Bytes → Int) (pcSends : udpSend (loginAnswer sha1 key.val challenge.val name) = 0)
    (console : LanPlay) (consoleName : console.username = some (utf8 name))
    (consoleKey : console.key = key.val) (sends : Bytes → Bool)
    (consoleSends : sends (loginAnswer sha1 key.val challenge.val name) = true)
    (getUserPasswordSHA1 : String → Except String Bytes) (providerKey : Bytes)
    (provided : getUserPasswordSHA1 name = .ok providerKey) (server : SLPServer)
    (rinfo : AddressInfo) (peer : PeerId) (registered : server.Registered rinfo peer)
    (anonymous : (server.peers peer).user = none)
    (challenged : (server.peers peer).challenge = some (0 :: challenge.val)) (now : Nat)
    : pc.lanClientOnRecv sha1 udpSend (server.sendTo peer .authMe (0 :: challenge.val)).msg
        = .authMe (some ⟨pc.sender, [loginAnswer sha1 key.val challenge.val name], 0⟩)
      ∧ (console.lanClientRecv sha1 sends now
          (server.sendTo peer .authMe (0 :: challenge.val)).msg).2
        = ⟨[], [loginAnswer sha1 key.val challenge.val name]⟩
      ∧ (server.onMessage true now (loginAnswer sha1 key.val challenge.val name) rinfo).1.pending
        = server.pending.set server.calls
            ⟨peer, utf8 name, challenge.val, sha1 (key.val ++ challenge.val)⟩
      ∧ bufferToString? (utf8 name) = some name
      ∧ (BasicAuthProvider.verify sha1 getUserPasswordSHA1 name challenge.val
            (sha1 (key.val ++ challenge.val)) = .resolved true
          ↔ sha1 (providerKey ++ challenge.val) = sha1 (key.val ++ challenge.val))
      ∧ (providerKey = key.val
        → ∀ middle : List Server.Event,
            (∀ event ∈ middle, ¬ event.Settles server.calls)
            → (((relay true).run server
                  (.message now (loginAnswer sha1 key.val challenge.val name) rinfo
                    :: (middle
                      ++ [.verified server.calls
                        (BasicAuthProvider.verify sha1 getUserPasswordSHA1 name challenge.val
                          (sha1 (key.val ++ challenge.val)))]))).peers peer).user
              = some ⟨utf8 name⟩) := by
  have size : challenge.val.length = 64 := challenge.property
  have answer : LanClientType.authMe.toByte
      :: response (sha1 (key.val ++ challenge.val)) (utf8 name)
      = loginAnswer sha1 key.val challenge.val name := by
    rw [response_of_short (width _) nulFree short, loginAnswer]
  obtain ⟨pending, calls, _⟩ := SLPServer.onMessage_answer registered anonymous challenged
    (width (key.val ++ challenge.val)) (utf8_ne_nil nonempty) now
  refine ⟨?_, ?_, pending, bufferToString?_utf8 name, verify_eq_true_iff provided _ _, ?_⟩
  · refine (pc.lanClientOnRecv_challenge pcName sha1 udpSend (by rw [size]; decide)).trans ?_
    simp only [Client.lanClientSend, reduceCtorEq, false_and, if_false, pcKey, answer, pcSends,
      if_true]
  · rw [← answer, ← consoleKey] at consoleSends ⊢
    exact console.lanClientRecv_challenge consoleName sha1 (by rw [size]; decide) consoleSends now
  · rintro same middle unsettled
    have accepted := (verify_eq_true_iff provided challenge.val
      (sha1 (key.val ++ challenge.val))).mpr (by rw [same])
    rw [accepted, Machine.run_cons]
    have started : server.calls < (server.calls + 1) := Nat.lt_succ_self _
    rw [← calls] at started
    have stored : _ = some (⟨peer, utf8 name, challenge.val, _⟩ : Server.Verification) :=
      (congrArg (fun table => table.get? server.calls) pending).trans
        (by rw [OrderedMap.get?_set, if_pos rfl])
    exact run_verified_user _ started stored unsettled

def zeroHash (_ : Bytes) : Bytes := List.replicate 20 0

def samplePc (name : String) : Client.LanPlay where
  sender := ⟨0, 0⟩
  clientBuf := fun _ => 0
  username := some (utf8 name)
  key := List.replicate 20 0

def sampleConsole (name : String) : LanPlay :=
  Config.start
    {
      myIp := ⟨10, 13, 0, 5⟩
      subnetNet := ⟨10, 13, 0, 0⟩
      subnetMask := ⟨255, 255, 0, 0⟩
      myMac := ⟨0x02, 0x4E, 0x58, 0x4C, 0x50, 0x01⟩
      wifiIp := ⟨192, 168, 1, 5⟩
      username := some (utf8 name)
      key := List.replicate 20 0
      frameBuf := fun _ => 0
    }

def sampleServer : SLPServer :=
  serverAfter true [.message 0 [0] ⟨"1.1.1.1", 1⟩, .filled 0 (fun _ => 0)]

theorem login_completes_user
    : (((relay true).run sampleServer
          [.message 1 (loginAnswer zeroHash (List.replicate 20 0) (List.replicate 64 0) "user")
              ⟨"1.1.1.1", 1⟩,
            .verified 0
              (BasicAuthProvider.verify zeroHash (fun _ => .ok (List.replicate 20 0)) "user"
                (List.replicate 64 0) (zeroHash []))]).peers 0).user
      = some ⟨utf8 "user"⟩ :=
  (login_completes zeroHash (fun _ => rfl) "user" (by decide) (by decide) (by decide)
    ⟨List.replicate 20 0, rfl⟩ ⟨List.replicate 64 0, rfl⟩ (samplePc "user") rfl rfl (fun _ => 0) rfl
    (sampleConsole "user") rfl rfl (fun _ => true) rfl (fun _ => .ok (List.replicate 20 0))
    (List.replicate 20 0) rfl sampleServer ⟨"1.1.1.1", 1⟩ 0 ⟨⟨30000, 0⟩, by decide, rfl⟩
    (by decide) (by decide) 1).2.2.2.2.2 rfl [] (by simp)

def longName : String := String.ofList (List.replicate 65536 'a')

theorem utf8_replicate (count : Nat)
    : utf8 (String.ofList (List.replicate count 'a')) = List.replicate count 97 := by
  have encoded : (List.replicate count 'a').flatMap String.utf8EncodeChar
      = List.replicate count 97 := by
    induction count with
    | zero => rfl
    | succ count ih =>
      rw [List.replicate_succ, List.flatMap_cons, ih, List.replicate_succ]
      rfl
  rw [utf8, String.toByteArray_ofList, List.utf8Encode, List.data_toByteArray, encoded]

theorem utf8_longName : utf8 longName = List.replicate 65536 97 := utf8_replicate 65536

/-- With a name of 65536 octets both clients answer with the hash alone, and the server drops
the answer.
-/
theorem longName_not_verified
    : longName ≠ ""
      ∧ 0 ∉ utf8 longName
      ∧ (samplePc longName).lanClientOnRecv zeroHash (fun _ => 0) (4 :: 0 :: List.replicate 64 0)
        = .authMe (some ⟨⟨0, 0⟩, [4 :: List.replicate 20 0], 0⟩)
      ∧ ((sampleConsole longName).lanClientRecv zeroHash (fun _ => true) 1
          (4 :: 0 :: List.replicate 64 0)).2 = ⟨[], [4 :: List.replicate 20 0]⟩
      ∧ (sampleServer.onMessage true 1 (4 :: List.replicate 20 0) ⟨"1.1.1.1", 1⟩).1.pending.entries
        = [] := by
  have nulFree : 0 ∉ utf8 longName := by
    rw [utf8_longName]
    intro member
    cases List.eq_of_mem_replicate member
  have wrapped : Client.strlen (utf8 longName) % 65536 = 0 := by
    rw [Client.strlen_eq_length nulFree, utf8_longName, List.length_replicate]
  have answer (octets : Bytes)
      : response (zeroHash octets) (utf8 longName) = List.replicate 20 0 :=
    response_of_wrapped List.length_replicate wrapped
  refine ⟨?_, nulFree, ?_, ?_, by decide⟩
  · intro empty
    have length := congrArg List.length utf8_longName
    rw [empty, List.length_replicate] at length
    cases length
  · refine ((samplePc longName).lanClientOnRecv_challenge rfl zeroHash _ (by decide)).trans ?_
    rw [answer]
    rfl
  · refine Eq.trans
      ((sampleConsole longName).lanClientRecv_challenge rfl zeroHash (by decide) rfl 1) ?_
    rw [answer]

end SwitchLanPlay.Sysmodule
