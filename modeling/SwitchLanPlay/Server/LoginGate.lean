import SwitchLanPlay.Server.Transitions

/-! The login gate of the relay server: a payload is forwarded only for a peer whose own
`AuthMe` the provider accepted in time, whatever the order of events.
-/

namespace SwitchLanPlay.Server

open List
open Foundation

variable {rinfo : AddressInfo} {peer : PeerId}

def serverAfter (auth : Bool) (history : List Event) : SLPServer := (relay auth).run .init history

theorem serverAfter_concat (auth : Bool) (history : List Event) (event : Event)
    : serverAfter auth (history ++ [event]) = ((serverAfter auth history).step auth event).1 :=
  (relay auth).run_concat .init history event

/-- Every registered peer was made for the address it is registered under. -/
theorem serverAfter_registered (auth : Bool) (history : List Event)
    (registered : (serverAfter auth history).Registered rinfo peer)
    : peer < (serverAfter auth history).peerCount
      ∧ ((serverAfter auth history).peers peer).rinfo = rinfo := by
  refine (relay auth).run_invariant
    (fun server =>
      ∀ rinfo peer,
        server.Registered rinfo peer
        → peer < server.peerCount ∧ (server.peers peer).rinfo = rinfo) ?_ ?_ history
    rinfo peer registered
  · intro server event invariant rinfo peer known
    have evolves := server.step_evolves auth event
    rcases evolves.registered rinfo peer known with before | ⟨fresh, more, address⟩
    · obtain ⟨bound, address⟩ := invariant rinfo peer before
      exact ⟨bound.trans_le evolves.peerCount_le, (evolves.rinfo peer bound).trans address⟩
    · exact ⟨fresh ▸ more, address⟩
  · rintro rinfo peer ⟨item, impossible, _⟩
    cases impossible

/-- The address of a `Peer` object never changes. -/
theorem serverAfter_rinfo (auth : Bool) (history later : List Event)
    (made : peer < (serverAfter auth history).peerCount)
    : peer < (serverAfter auth (history ++ later)).peerCount
      ∧ ((serverAfter auth (history ++ later)).peers peer).rinfo
        = ((serverAfter auth history).peers peer).rinfo := by
  induction later using reverseRecOn with
  | nil =>
    rw [append_nil]
    exact ⟨made, rfl⟩
  | append_singleton later event ih =>
    obtain ⟨bound, address⟩ := ih
    have evolves := (serverAfter auth (history ++ later)).step_evolves auth event
    rw [← append_assoc, serverAfter_concat]
    exact ⟨bound.trans_le evolves.peerCount_le, (evolves.rinfo peer bound).trans address⟩

/-- A `Peer` object that is not registered under an address never is again, since later
registrations make new objects.
-/
theorem serverAfter_not_registered (auth : Bool) (history later : List Event)
    (made : peer < (serverAfter auth history).peerCount)
    (dropped : ¬ (serverAfter auth history).Registered rinfo peer)
    : ¬ (serverAfter auth (history ++ later)).Registered rinfo peer := by
  induction later using reverseRecOn with
  | nil => simpa only [append_nil] using dropped
  | append_singleton later event ih =>
    intro known
    rw [← append_assoc, serverAfter_concat] at known
    have evolves := (serverAfter auth (history ++ later)).step_evolves auth event
    rcases evolves.registered rinfo peer known with before | ⟨fresh, _, _⟩
    · exact ih before
    · exact absurd fresh (serverAfter_rinfo auth history later made).1.ne

-- Logins and the history

/-- The verification `call` was started for `peer` by an `AuthMe` message behind `first`,
and nothing in `middle`, the events since then, settled it.
-/
structure Started (auth : Bool) (first : List Event) (rinfo : AddressInfo) (peer : PeerId)
    (now : Nat) (msg : Bytes) (middle : List Event) (call : Nat)
    : Prop where
  authMe : IsAuthMe msg
  registered : (serverAfter auth first).Registered rinfo peer
  number : (serverAfter auth first).calls = call
  counted : (serverAfter auth (first ++ [.message now msg rinfo])).calls = call + 1
  unsettled : ∀ event ∈ middle, ¬ event.Settles call

/-- The history contains a login of `peer`: behind `first`, an `AuthMe` message of the peer
started a verification, and the first event that settled it was the provider's `true`.
-/
def LoggedIn (auth : Bool) (history first : List Event) (rinfo : AddressInfo) (peer : PeerId)
    : Prop :=
  ∃ now msg middle call last,
    history
      = first ++ .message now msg rinfo :: (middle ++ .verified call (.resolved true) :: last)
    ∧ Started auth first rinfo peer now msg middle call

/-- Every verification in progress was started and not settled since; every user was set
by a login. Witness: by induction on the history, one evolution at a time.
-/
theorem serverAfter_logins (auth : Bool) (history : List Event)
    : (∀ call verification,
        (serverAfter auth history).pending.get? call = some verification
        → ∃ first rinfo now msg middle,
            history = first ++ .message now msg rinfo :: middle
            ∧ Started auth first rinfo verification.peer now msg middle call)
      ∧ ∀ peer,
          ((serverAfter auth history).peers peer).user ≠ none
          → ∃ first rinfo, LoggedIn auth history first rinfo peer := by
  induction history using reverseRecOn with
  | nil =>
    refine ⟨?_, fun peer known => absurd rfl known⟩
    intro call verification impossible
    cases impossible
  | append_singleton history event ih =>
    obtain ⟨pending, users⟩ := ih
    have evolves := (serverAfter auth history).step_evolves auth event
    rw [serverAfter_concat]
    constructor
    · intro call verification known
      rcases evolves.pending call verification known with ⟨earlier, unsettled⟩ | started
      · obtain ⟨first, rinfo, now, msg, middle, split, started⟩ :=
          pending call verification earlier
        refine ⟨first, rinfo, now, msg, middle ++ [event], by simp [split], ?_⟩
        refine { started with unsettled := ?_ }
        intro later member
        rcases mem_append.mp member with inside | here
        · exact started.unsettled later inside
        · rwa [mem_singleton.mp here]
      · obtain ⟨number, counted, now, msg, rinfo, rfl, authMe, registered⟩ := started
        refine ⟨history, rinfo, now, msg, [], rfl, authMe, registered, number.symm, ?_, ?_⟩
        · rw [serverAfter_concat, counted, number]
        · intro _ impossible
          cases impossible
    · intro peer known
      rcases evolves.user peer known with earlier | ⟨call, verification, rfl, found, rfl⟩
      · obtain ⟨first, rinfo, now, msg, middle, call, last, split, started⟩ :=
          users peer earlier
        exact ⟨first, rinfo, now, msg, middle, call, last ++ [event], by simp [split], started⟩
      · obtain ⟨first, rinfo, now, msg, middle, split, started⟩ :=
          pending call verification found
        exact ⟨first, rinfo, now, msg, middle, call, [], by simp [split], started⟩

-- The gate

def Sent.IsPayload (sent : Sent) : Prop :=
  sent.msg.head? = some ForwarderType.ipv4.toByte
  ∨ sent.msg.head? = some ForwarderType.ipv4Frag.toByte

instance (sent : Sent) : Decidable sent.IsPayload := by
  unfold Sent.IsPayload
  infer_instance

/-- A datagram of another type carries no payload. -/
theorem SLPServer.sendTo_not_isPayload (server : SLPServer) (peer : PeerId)
    {type : ForwarderType} (other : type = .authMe ∨ type = .info) (payload : Bytes)
    : ¬ (server.sendTo peer type payload).IsPayload := by
  rcases other with rfl | rfl <;> rintro (same | same) <;> cases same

theorem SLPServer.onNeedAuth_not_isPayload (server : SLPServer) (peer : PeerId)
    (type : Option ForwarderType) (payload : Bytes)
    : ∀ sent ∈ (server.onNeedAuth peer type payload).2, ¬ sent.IsPayload := by
  intro sent member
  unfold onNeedAuth at member
  split at member
  · cases member
  · split at member <;> cases member
  · cases member
  · split at member
    · cases member
    · rw [mem_singleton.mp member]
      exact server.sendTo_not_isPayload peer (Or.inl rfl) _

theorem SLPServer.onFilled_not_isPayload (server : SLPServer) (peer : PeerId)
    (random : Fin 64 → UInt8)
    : ∀ sent ∈ (server.onFilled peer random).2, ¬ sent.IsPayload := by
  intro sent member
  unfold onFilled at member
  split at member
  · rw [mem_singleton.mp member]
    exact sendTo_not_isPayload _ peer (Or.inl rfl) _
  · cases member

theorem SLPServer.onSettled_not_isPayload (server : SLPServer) (call : Nat)
    (result : VerifyResult)
    : ∀ sent ∈ (server.onSettled call result).2, ¬ sent.IsPayload := by
  intro sent member
  unfold onSettled at member
  split at member
  · cases member
  · simp only at member
    split at member
    · cases member
    · rcases mem_cons.mp member with rfl | again
      · exact sendTo_not_isPayload _ _ (Or.inr rfl) _
      · rw [mem_singleton.mp again]
        exact sendTo_not_isPayload _ _ (Or.inr rfl) _
    · rw [mem_singleton.mp member]
      exact sendTo_not_isPayload _ _ (Or.inr rfl) _

/-- The reply to a plain `Ping` carries no payload: it starts with the octet of `Ping`. -/
theorem onPing_not_isPayload {firstByte : UInt8} {payload : Bytes}
    (ping : (parseHead firstByte).1 = some .ping)
    : ¬ (⟨rinfo, (firstByte :: payload).take 4⟩ : Sent).IsPayload := by
  rintro (same | same)
  all_goals
    have octet : firstByte = _ := Option.some.inj same
    rw [octet] at ping
    exact absurd ping (by decide)

/-- With an auth provider, a message that sends a payload comes from a peer that is already
registered and logged in, and is handled by `onPacket`.
-/
theorem SLPServer.onMessage_payload {server : SLPServer} {now : Nat} {msg : Bytes} {sent : Sent}
    (member : sent ∈ (server.onMessage true now msg rinfo).2) (payload : sent.IsPayload)
    : ∃ firstByte rest peer,
        msg = firstByte :: rest
        ∧ server.Registered rinfo peer
        ∧ (server.peers peer).user ≠ none
        ∧ server.onMessage true now msg rinfo
          = (server.get now rinfo).1.onPacket now peer (parseHead firstByte).1 rest := by
  cases msg with
  | nil => cases member
  | cons firstByte rest =>
    by_cases ping : (parseHead firstByte).1 = some .ping ∧ ¬ (parseHead firstByte).2 = true
    · simp only [onMessage, if_pos ping, mem_singleton] at member
      rw [member] at payload
      exact absurd payload (onPing_not_isPayload ping.1)
    · by_cases anonymous : ((server.get now rinfo).1.peers (server.get now rinfo).2).user = none
      · simp only [onMessage, if_neg ping, anonymous, and_self, if_true] at member
        exact absurd payload (onNeedAuth_not_isPayload _ _ _ _ sent member)
      · rcases server.get_origin now rinfo with registered | new
        · obtain ⟨_, peers⟩ := get_of_registered registered now
          refine ⟨firstByte, rest, _, rfl, registered, by rwa [peers] at anonymous, ?_⟩
          simp only [onMessage, if_neg ping, anonymous, and_false, if_false]
        · rw [new] at anonymous
          exact absurd rfl anonymous

/-- Soundness of the login gate. With an auth provider, a payload received from `rinfo` is
forwarded only when the `Peer` object registered for `rinfo` has logged in; and if `rinfo`
was unregistered at some time, the login lies after that time.
-/
theorem forwarded_only_after_login {history : List Event} {now : Nat} {msg : Bytes}
    {rinfo : AddressInfo} {sent : Sent}
    (forwarded
      : sent ∈ ((relay true).step (serverAfter true history) (.message now msg rinfo)).2)
    (payload : sent.IsPayload)
    : ∃ peer first,
        (serverAfter true history).Registered rinfo peer
        ∧ LoggedIn true history first rinfo peer
        ∧ ∀ gone rest,
            history = gone ++ rest
            → (serverAfter true gone).manager.get? rinfo = none
            → gone <+: first := by
  obtain ⟨_, _, peer, _, registered, user, _⟩ :=
    SLPServer.onMessage_payload forwarded payload
  obtain ⟨first, address, login⟩ := (serverAfter_logins true history).2 peer user
  obtain ⟨time, authMe, middle, call, last, split, started⟩ := id login
  obtain ⟨made, addressEq⟩ := serverAfter_registered true first started.registered
  have same : address = rinfo := by
    have later := (serverAfter_rinfo true first
      (.message time authMe address :: (middle ++ .verified call (.resolved true) :: last))
      made).2
    rw [← split, (serverAfter_registered true history registered).2, addressEq] at later
    exact later.symm
  subst same
  refine ⟨peer, first, registered, login, ?_⟩
  intro gone rest cut absent
  -- either the time without registration lies before the login, or the login's peer object
  -- would have come back after it was dropped
  rcases List.append_eq_append_iff.mp (cut.symm.trans split) with
    ⟨between, before, _⟩ | ⟨between, after, _⟩
  · exact ⟨between, before.symm⟩
  · exfalso
    subst after
    have dropped : ¬ (serverAfter true (first ++ between)).Registered address peer := by
      rintro ⟨item, found, _⟩
      rw [absent] at found
      cases found
    have stillMade := (serverAfter_rinfo true first between made).1
    rw [cut] at registered
    exact serverAfter_not_registered true _ rest stillMade dropped registered

def hostA : AddressInfo := ⟨"::1", 5000⟩

def hostB : AddressInfo := ⟨"::2", 5000⟩

/-- Host A asks for a challenge, answers it and is accepted; host B only says it is there. -/
def loginOfA : List Event :=
  [.message 0 [0] hostA, .filled 0 (fun _ => 7), .message 1 (4 :: replicate 21 65) hostA,
    .verified 0 (.resolved true), .message 2 [0] hostB]

def ipv4ToUnknown : Bytes := 1 :: (replicate 16 0 ++ [1, 1, 1, 1, 0])

theorem forwarded_only_after_login_loginOfA
    : ∃ first, LoggedIn true loginOfA first hostA 0 := by
  have forwarded : (⟨hostB, ipv4ToUnknown⟩ : Sent)
      ∈ ((relay true).step (serverAfter true loginOfA) (.message 3 ipv4ToUnknown hostA)).2 := by
    decide
  obtain ⟨peer, first, ⟨item, found, same⟩, login, _⟩ :=
    forwarded_only_after_login forwarded (by decide)
  have registered : (serverAfter true loginOfA).manager.get? hostA = some ⟨30001, 0⟩ := by
    decide
  rw [registered] at found
  cases found
  cases same
  exact ⟨first, login⟩

end SwitchLanPlay.Server
