import SwitchLanPlay.Server.LoginGate

/-! The check of a login answer by `BasicAuthProvider`, and how the server comes to it: an answer
to a finished challenge starts a verification, which stays until it is settled.
-/

namespace SwitchLanPlay.Server

open Foundation

def utf8 (text : String) : Bytes := text.toByteArray.data.toList

def bufferToString? (octets : Bytes) : Option String := String.fromUTF8? ⟨octets.toArray⟩

theorem bufferToString?_utf8 (text : String) : bufferToString? (utf8 text) = some text := by
  have same : (⟨(utf8 text).toArray⟩ : ByteArray) = text.toByteArray := by
    rw [utf8, Array.toArray_toList]
  rw [bufferToString?, same, String.fromUTF8?, dif_pos text.isValidUTF8]
  rfl

theorem utf8_ne_nil {text : String} (nonempty : text ≠ "") : utf8 text ≠ [] := by
  intro empty
  have decoded := bufferToString?_utf8 text
  rw [empty] at decoded
  exact nonempty (Option.some.inj (decoded.symm.trans (bufferToString?_utf8 "")))

def BasicAuthProvider.verify (sha1 : Bytes → Bytes)
    (getUserPasswordSHA1 : String → Except String Bytes) (username : String)
    (challenge response : Bytes)
    : VerifyResult :=
  match getUserPasswordSHA1 username with
  | .ok key => .resolved (sha1 (key ++ challenge) = response)
  | .error message => .rejected message

-- Verifications in progress

/-- The verification `call` was started and is the same in both servers. -/
structure SLPServer.KeepsCall (server : SLPServer) (call : Nat) (next : SLPServer) : Prop where
  counted : call < next.calls
  pending : next.pending.get? call = server.pending.get? call

theorem SLPServer.SameLogins.keepsCall {server next : SLPServer} (same : server.SameLogins next)
    {call : Nat} (started : call < server.calls)
    : server.KeepsCall call next := ⟨same.calls ▸ started, by rw [same.pending]⟩

theorem SLPServer.onSettled_keepsCall (server : SLPServer) {call other : Nat}
    (started : call < server.calls) (differs : call ≠ other) (result : VerifyResult)
    : server.KeepsCall call (server.onSettled other result).1 := by
  unfold onSettled
  split
  · exact ⟨started, rfl⟩
  · have kept : (server.pending.delete other).get? call = server.pending.get? call := by
      rw [OrderedMap.get?_delete, if_neg differs]
    dsimp only
    split <;> exact ⟨started, kept⟩

theorem SLPServer.onMessage_keepsCall (auth : Bool) (server : SLPServer) {call : Nat}
    (started : call < server.calls) (now : Nat) (msg : Bytes) (rinfo : AddressInfo)
    : server.KeepsCall call (server.onMessage auth now msg rinfo).1 := by
  cases msg with
  | nil => exact ⟨started, rfl⟩
  | cons firstByte payload =>
    have got
        : (server.get now rinfo).1.calls = server.calls
          ∧ (server.get now rinfo).1.pending = server.pending := by
      unfold get
      split <;> exact ⟨rfl, rfl⟩
    have known : call < (server.get now rinfo).1.calls := got.1.symm ▸ started
    suffices kept
        : ∀ next, (server.get now rinfo).1.KeepsCall call next → server.KeepsCall call next by
      simp only [onMessage]
      split
      · exact ⟨started, rfl⟩
      · split
        · rcases (server.get now rinfo).1.onNeedAuth_cases (server.get now rinfo).2
            (parseHead firstByte).1 payload with same | ⟨_, _, verification, _, next⟩
          · exact kept _ (same.keepsCall known)
          · refine kept _ ?_
            rw [next]
            refine ⟨Nat.lt_succ_of_lt known, ?_⟩
            rw [OrderedMap.get?_set, if_neg known.ne]
        · exact kept _ (((server.get now rinfo).1.onPacket_sameLogins now _ _ _).keepsCall known)
    rintro next ⟨counted, pending⟩
    exact ⟨counted, by rw [pending, got.2]⟩

/-- A verification in progress stays until it is settled. -/
theorem SLPServer.step_keepsCall (auth : Bool) (server : SLPServer) {event : Event} {call : Nat}
    (started : call < server.calls) (unsettled : ¬ event.Settles call)
    : server.KeepsCall call (server.step auth event).1 := by
  cases event with
  | message now msg rinfo => exact server.onMessage_keepsCall auth started now msg rinfo
  | filled peer random => exact (server.onFilled_sameLogins peer random).keepsCall started
  | verified other result =>
    refine server.onSettled_keepsCall started ?_ result
    rintro rfl
    exact unsettled (Or.inl ⟨result, rfl⟩)
  | timedOut other =>
    refine server.onSettled_keepsCall started ?_ _
    rintro rfl
    exact unsettled (Or.inr rfl)
  | sendError rinfo => exact ⟨started, rfl⟩
  | tick now => exact ⟨started, rfl⟩

theorem relay_run_keepsCall (auth : Bool) (server : SLPServer) {call : Nat}
    (started : call < server.calls) {events : List Event}
    (unsettled : ∀ event ∈ events, ¬ event.Settles call)
    : server.KeepsCall call ((relay auth).run server events) := by
  induction events generalizing server with
  | nil => exact ⟨started, rfl⟩
  | cons event events ih =>
    obtain ⟨counted, pending⟩ :=
      server.step_keepsCall auth started (unsettled event List.mem_cons_self)
    have rest := ih (server.step auth event).1 counted
      (fun later member => unsettled later (List.mem_cons_of_mem event member))
    exact ⟨rest.counted, rest.pending.trans pending⟩

/-- The answer of a challenged peer without a user is split and its verification started. -/
theorem SLPServer.onMessage_answer {server : SLPServer} {rinfo : AddressInfo} {peer : PeerId}
    (registered : server.Registered rinfo peer) (anonymous : (server.peers peer).user = none)
    {challenge : Bytes} (challenged : (server.peers peer).challenge = some (0 :: challenge))
    {hash username : Bytes} (width : hash.length = 20) (named : username ≠ []) (now : Nat)
    : (server.onMessage true now (4 :: (hash ++ username)) rinfo).1.pending
        = server.pending.set server.calls ⟨peer, username, challenge, hash⟩
      ∧ (server.onMessage true now (4 :: (hash ++ username)) rinfo).1.calls = server.calls + 1
      ∧ (server.onMessage true now (4 :: (hash ++ username)) rinfo).2 = [] := by
  have long : ¬ hash.length + username.length ≤ 20 := by
    have positive := List.length_pos_iff.mpr named
    omega
  have head : parseHead 4 = (some .authMe, false) := by decide
  obtain ⟨item, found, rfl⟩ := registered
  have rest : (hash ++ username).drop 20 = username := by
    rw [← width, List.drop_left]
  have front : (hash ++ username).take 20 = hash := by
    rw [← width, List.take_left]
  simp [onMessage, head, get, found, anonymous, onNeedAuth,
    challenged, long, rest, front]

end SwitchLanPlay.Server
