import SwitchLanPlay.Server.LoginGate

/-! To whom an authenticated relay sends payloads, and when all of them are logged in. -/

namespace SwitchLanPlay.Server

open List
open Foundation

variable {server : SLPServer} {rinfo : AddressInfo} {peer : PeerId}

/-- The source and destination that `onIpv4` or `onIpv4Frag` reads, when the message is of
their type and long enough.
-/
def addresses? : Bytes → Option (Int × Int)
  | [] => none
  | firstByte :: payload =>
    if payload.length ≤ 20 then none
    else
      match (parseHead firstByte).1 with
      | some .ipv4 => some (readInt32BE payload 12, readInt32BE payload 16)
      | some .ipv4Frag => some (readInt32BE payload 0, readInt32BE payload 4)
      | _ => none

theorem addresses?_cons {firstByte : UInt8} {payload : Bytes} {src dst : Int}
    : addresses? (firstByte :: payload) = some (src, dst)
      ↔ ¬ payload.length ≤ 20
        ∧ (((parseHead firstByte).1 = some .ipv4
            ∧ readInt32BE payload 12 = src
            ∧ readInt32BE payload 16 = dst)
          ∨ ((parseHead firstByte).1 = some .ipv4Frag
            ∧ readInt32BE payload 0 = src
            ∧ readInt32BE payload 4 = dst)) := by
  by_cases short : payload.length ≤ 20
  · simp [addresses?, short]
  · rcases type : (parseHead firstByte).1 with _ | known
    · simp [addresses?, type]
    · cases known <;> simp [addresses?, short, type]

namespace SLPServer

def recipients (server : SLPServer) (peer : PeerId) (src dst : Int)
    : List AddressInfo :=
  if dst = src then [(server.peers peer).rinfo]
  else
    match server.ipCache.get? dst with
    | some item => [(server.peers item.peer).rinfo]
    | none => (server.all (server.peers peer).rinfo).map (fun other => (server.peers other).rinfo)

/-- `forward` behind `get` sends one datagram to each recipient. -/
theorem forward_sent (registered : server.Registered rinfo peer)
    (own : (server.peers peer).rinfo = rinfo) (now : Nat) (type : ForwarderType) (payload : Bytes)
    (src dst : Int)
    : ((server.get now rinfo).1.forward now peer type payload src dst).2
      = (server.recipients peer src dst).map
          (fun recipient => ⟨recipient, type.toByte :: payload⟩) := by
  obtain ⟨item, found, rfl⟩ := registered
  simp only [get, found, forward, OrderedMap.get?_set]
  unfold recipients
  by_cases self : dst = src
  · simp only [self, if_true, sendTo, map_cons, map_nil]
  · simp only [if_neg self]
    cases server.ipCache.get? dst with
    | some cached => rfl
    | none =>
      simp only [sendBroadcast, all, own, sendTo, map_map,
        OrderedMap.set_filter_ne]
      rfl

/-- Forwarding changes the server by the address it learns. -/
theorem forward_learns (server : SLPServer) (now : Nat) (peer : PeerId)
    (type : ForwarderType) (payload : Bytes) (src dst : Int)
    : (server.forward now peer type payload src dst).1
      = { server with ipCache := server.ipCache.set src ⟨now + timeout, peer⟩ } := by
  unfold forward
  dsimp only
  split <;> rfl

/-- A relayable message of a registered peer that need not log in is forwarded. -/
theorem onMessage_eq_forward {auth : Bool} (registered : server.Registered rinfo peer)
    (admitted : auth = true → (server.peers peer).user ≠ none) {firstByte : UInt8} {payload : Bytes}
    {src dst : Int} (relayable : addresses? (firstByte :: payload) = some (src, dst)) (now : Nat)
    : ∃ type,
        (parseHead firstByte).1 = some type
        ∧ (type = ForwarderType.ipv4 ∨ type = ForwarderType.ipv4Frag)
        ∧ server.onMessage auth now (firstByte :: payload) rinfo
          = (server.get now rinfo).1.forward now peer type payload src dst := by
  obtain ⟨same, peers⟩ := get_of_registered registered now
  have known : ¬ (auth = true ∧ (server.peers peer).user = none) :=
    fun missing => admitted missing.1 missing.2
  obtain ⟨long, ⟨type, rfl, rfl⟩ | ⟨type, rfl, rfl⟩⟩ := addresses?_cons.mp relayable
  · refine ⟨.ipv4, type, Or.inl rfl, ?_⟩
    simp [onMessage, type, same, peers, known, onPacket,
      onIpv4, long]
  · refine ⟨.ipv4Frag, type, Or.inr rfl, ?_⟩
    simp [onMessage, type, same, peers, known, onPacket,
      onIpv4Frag, long]

/-- A relayable message of a registered, logged-in peer goes to its recipients. -/
theorem onMessage_forwards (registered : server.Registered rinfo peer)
    (own : (server.peers peer).rinfo = rinfo) (user : (server.peers peer).user ≠ none) {msg : Bytes}
    {src dst : Int} (relayable : addresses? msg = some (src, dst)) (now : Nat)
    : ∃ type payload,
        (type = ForwarderType.ipv4 ∨ type = ForwarderType.ipv4Frag)
        ∧ (server.onMessage true now msg rinfo).2
          = (server.recipients peer src dst).map
              (fun recipient => ⟨recipient, type.toByte :: payload⟩) := by
  cases msg with
  | nil => cases relayable
  | cons firstByte payload =>
    obtain ⟨type, _, relays, handled⟩ :=
      onMessage_eq_forward registered (fun _ => user) relayable now
    refine ⟨type, payload, relays, ?_⟩
    rw [handled, forward_sent registered own now]

/-- A message that sends a payload is relayable. -/
theorem onMessage_relayable {now : Nat} {msg : Bytes} {sent : Sent}
    (member : sent ∈ (server.onMessage true now msg rinfo).2) (payload : sent.IsPayload)
    : ∃ src dst peer,
        addresses? msg = some (src, dst)
        ∧ server.Registered rinfo peer
        ∧ (server.peers peer).user ≠ none := by
  obtain ⟨firstByte, rest, peer, rfl, registered, user, handled⟩ := onMessage_payload member payload
  rw [handled] at member
  unfold onPacket at member
  split at member
  · rename_i type
    unfold onIpv4 at member
    split at member
    · cases member
    · rename_i long
      exact ⟨_, _, peer, addresses?_cons.mpr ⟨long, Or.inl ⟨type, rfl, rfl⟩⟩, registered, user⟩
  · rename_i type
    unfold onIpv4Frag at member
    split at member
    · cases member
    · rename_i long
      exact ⟨_, _, peer, addresses?_cons.mpr ⟨long, Or.inr ⟨type, rfl, rfl⟩⟩, registered, user⟩
  · cases member

def Vetted (server : SLPServer) (rinfo : AddressInfo) : Prop :=
  ∀ peer, server.Registered rinfo peer → (server.peers peer).user ≠ none

end SLPServer

/-- The event sends no payload to an address whose registered `Peer` has no user. -/
def Confidential (server : SLPServer) (event : Event) : Prop :=
  ∀ sent ∈ ((relay true).step server event).2,
    sent.IsPayload → ((relay true).step server event).1.Vetted sent.rinfo

/-- When a logged-in peer sends a relayable message for another virtual address: if that
address is not cached, every other registered peer is logged in; if it is cached, the peer
now registered under the cached peer's address is.
-/
def Guarded (server : SLPServer) : Event → Prop
  | .message _ msg rinfo =>
    ∀ src dst peer,
      addresses? msg = some (src, dst)
      → server.Registered rinfo peer
      → (server.peers peer).user ≠ none
      → dst ≠ src
      → match server.ipCache.get? dst with
        | some item => server.Vetted (server.peers item.peer).rinfo
        | none => ∀ other, other ≠ rinfo → server.Vetted other
  | _ => True

/-- Handling a message of a registered, logged-in peer vets no address anew. -/
theorem SLPServer.onMessage_vetted (registered : server.Registered rinfo peer)
    (user : (server.peers peer).user ≠ none) (now : Nat) (msg : Bytes) (address : AddressInfo)
    : (server.onMessage true now msg rinfo).1.Vetted address ↔ server.Vetted address := by
  obtain ⟨same, peers⟩ := get_of_registered registered now
  have got : (server.get now rinfo).1.Vetted address ↔ server.Vetted address := by
    obtain ⟨item, found, rfl⟩ := registered
    simp only [SLPServer.Vetted, SLPServer.Registered, get, found,
      OrderedMap.get?_set]
    by_cases here : address = rinfo
    · subst here
      simp [found, user]
    · simp [here]
  cases msg with
  | nil => exact Iff.rfl
  | cons firstByte payload =>
    by_cases ping : (parseHead firstByte).1 = some .ping ∧ ¬ (parseHead firstByte).2 = true
    · simp only [onMessage, if_pos ping]
    · simp only [onMessage, if_neg ping, same, peers, user, and_false, if_false]
      obtain ⟨manager, _, users, _⟩ := (server.get now rinfo).1.onPacket_sameLogins now peer
        (parseHead firstByte).1 payload
      rw [← got]
      simp only [SLPServer.Vetted, SLPServer.Registered, manager, users]

/-- `all` lists the peers registered under other addresses. -/
theorem SLPServer.mem_all_iff {other : PeerId}
    : other ∈ server.all rinfo
      ↔ ∃ address, address ≠ rinfo ∧ server.Registered address other := by
  unfold all
  constructor
  · intro listed
    obtain ⟨⟨address, item⟩, entry, rfl⟩ := mem_map.mp listed
    obtain ⟨present, differs⟩ := mem_filter.mp entry
    exact ⟨address, by simpa using differs, item, OrderedMap.get?_eq_some.mpr present, rfl⟩
  · rintro ⟨address, differs, item, found, rfl⟩
    refine mem_map.mpr ⟨(address, item), mem_filter.mpr ⟨?_, ?_⟩, rfl⟩
    · exact OrderedMap.get?_eq_some.mp found
    · simpa using differs

/-- The address of a logged-in peer is vetted. -/
theorem SLPServer.Registered.vetted (registered : server.Registered rinfo peer)
    (user : (server.peers peer).user ≠ none)
    : server.Vetted rinfo := by
  rintro occupant ⟨item, found, rfl⟩
  obtain ⟨known, same, rfl⟩ := registered
  rw [same] at found
  cases found
  exact user

/-- What vets the recipients of a logged-in peer's message: for its own address nothing is
needed, since it goes back to the sender.
-/
theorem SLPServer.vetted_recipients_iff
    (own : ∀ {rinfo peer}, server.Registered rinfo peer → (server.peers peer).rinfo = rinfo)
    (registered : server.Registered rinfo peer) (user : (server.peers peer).user ≠ none)
    (src dst : Int)
    : (∀ recipient ∈ server.recipients peer src dst, server.Vetted recipient)
      ↔ (dst ≠ src
        → match server.ipCache.get? dst with
          | some item => server.Vetted (server.peers item.peer).rinfo
          | none => ∀ other, other ≠ rinfo → server.Vetted other) := by
  unfold recipients
  by_cases self : dst = src
  · rw [if_pos self, own registered]
    refine iff_of_true ?_ (fun other => absurd self other)
    intro recipient member
    rw [mem_singleton.mp member]
    exact registered.vetted user
  rw [if_neg self, forall_prop_of_true self]
  cases server.ipCache.get? dst with
  | some item => exact forall_mem_singleton
  | none =>
    constructor
    · intro vetted address differs occupant known
      rw [own registered] at vetted
      have listed := mem_all_iff.mpr ⟨address, differs, known⟩
      exact vetted address (mem_map.mpr ⟨occupant, listed, own known⟩) occupant known
    · intro guarded recipient member
      obtain ⟨occupant, listed, rfl⟩ := mem_map.mp member
      rw [own registered] at listed
      obtain ⟨address, differs, known⟩ := mem_all_iff.mp listed
      rw [own known]
      exact guarded address differs

/-- In a reachable state, an event is confidential exactly when it is guarded.
Witness: only relayable messages of logged-in peers send payloads, and their recipients are
the addresses the guard speaks of, or the sender itself.
-/
theorem confidential_iff_guarded (history : List Event) (event : Event)
    : Confidential (serverAfter true history) event
      ↔ Guarded (serverAfter true history) event := by
  generalize reached : serverAfter true history = server
  have own {rinfo : AddressInfo} {peer : PeerId} (registered : server.Registered rinfo peer)
      : (server.peers peer).rinfo = rinfo := by
    subst reached
    exact (serverAfter_registered true history registered).2
  cases event with
  | filled peer random =>
    exact iff_of_true (fun sent member payload =>
      absurd payload (server.onFilled_not_isPayload peer random sent member)) trivial
  | verified call result =>
    exact iff_of_true (fun sent member payload =>
      absurd payload (server.onSettled_not_isPayload call result sent member)) trivial
  | timedOut call =>
    exact iff_of_true (fun sent member payload =>
      absurd payload (server.onSettled_not_isPayload call _ sent member)) trivial
  | sendError rinfo => exact iff_of_true (fun _ impossible => nomatch impossible) trivial
  | tick now => exact iff_of_true (fun _ impossible => nomatch impossible) trivial
  | message now msg rinfo =>
    constructor
    · intro confidential src dst peer relayable registered user
      obtain ⟨type, payload, kind, sends⟩ :=
        SLPServer.onMessage_forwards registered (own registered) user relayable now
      refine (SLPServer.vetted_recipients_iff own registered user src dst).mp ?_
      intro recipient member
      rw [← SLPServer.onMessage_vetted registered user now msg]
      refine confidential ⟨recipient, type.toByte :: payload⟩ ?_ ?_
      · simp only [relay, SLPServer.step, sends]
        exact mem_map_of_mem member
      · rcases kind with rfl | rfl
        · exact Or.inl rfl
        · exact Or.inr rfl
    · intro guarded sent member payload
      obtain ⟨src, dst, peer, relayable, registered, user⟩ :=
        SLPServer.onMessage_relayable member payload
      obtain ⟨type, body, _, sends⟩ :=
        SLPServer.onMessage_forwards registered (own registered) user relayable now
      refine (SLPServer.onMessage_vetted registered user now msg sent.rinfo).mpr ?_
      simp only [relay, SLPServer.step, sends] at member
      obtain ⟨recipient, chosen, rfl⟩ := mem_map.mp member
      have guard := guarded src dst peer relayable registered user
      exact (SLPServer.vetted_recipients_iff own registered user src dst).mpr guard recipient
        chosen

/-- A run of an authenticated relay sends no payload to an address whose registered peer
has no user exactly when each of its events is guarded.
-/
theorem run_confidential_iff_guarded (events : List Event)
    : (∀ before event after,
        events = before ++ event :: after → Confidential (serverAfter true before) event)
      ↔ ∀ before event after,
          events = before ++ event :: after → Guarded (serverAfter true before) event := by
  constructor
  · intro confidential before event after split
    exact (confidential_iff_guarded before event).mp (confidential before event after split)
  · intro guarded before event after split
    exact (confidential_iff_guarded before event).mpr (guarded before event after split)

/-- Host B has sent one keepalive and never logged in, yet it gets the packet of host A. -/
theorem broadcast_reaches_anonymous
    : ¬ Confidential (serverAfter true loginOfA) (.message 3 ipv4ToUnknown hostA) := by
  intro confidential
  have sent : (⟨hostB, ipv4ToUnknown⟩ : Sent)
      ∈ ((relay true).step (serverAfter true loginOfA) (.message 3 ipv4ToUnknown hostA)).2 := by
    decide
  exact confidential _ sent (by decide) 1 ⟨⟨30002, 1⟩, by decide, rfl⟩ (by decide)

end SwitchLanPlay.Server
