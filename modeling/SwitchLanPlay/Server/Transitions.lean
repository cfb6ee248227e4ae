import SwitchLanPlay.Server.Relay

/-! What one event can change in the relay server: whom it registers, which peers it logs
in, which verifications it starts and which it ends.
-/

namespace SwitchLanPlay.Server

open Function
open Foundation

def SLPServer.Registered (server : SLPServer) (rinfo : AddressInfo) (peer : PeerId) : Prop :=
  ∃ item, server.manager.get? rinfo = some item ∧ item.peer = peer

def IsAuthMe (msg : Bytes) : Prop :=
  ∃ firstByte, msg.head? = some firstByte ∧ (parseHead firstByte).1 = some .authMe

def Event.Settles (event : Event) (call : Nat) : Prop :=
  (∃ result, event = .verified call result) ∨ event = .timedOut call

namespace SLPServer

/-- How a server may differ from the one before an event. -/
structure Evolves (server : SLPServer) (event : Event) (next : SLPServer)
    : Prop where
  peerCount_le : server.peerCount ≤ next.peerCount
  calls_le : server.calls ≤ next.calls
  rinfo : ∀ peer < server.peerCount, (next.peers peer).rinfo = (server.peers peer).rinfo
  registered
    : ∀ rinfo peer,
        next.Registered rinfo peer
        → server.Registered rinfo peer
          ∨ (peer = server.peerCount
            ∧ server.peerCount < next.peerCount
            ∧ (next.peers peer).rinfo = rinfo)
  user
    : ∀ peer,
        (next.peers peer).user ≠ none
        → (server.peers peer).user ≠ none
          ∨ ∃ call verification,
              event = .verified call (.resolved true)
              ∧ server.pending.get? call = some verification
              ∧ verification.peer = peer
  pending
    : ∀ call verification,
        next.pending.get? call = some verification
        → (server.pending.get? call = some verification ∧ ¬ event.Settles call)
          ∨ (call = server.calls
            ∧ next.calls = server.calls + 1
            ∧ ∃ now msg rinfo,
                event = .message now msg rinfo
                ∧ IsAuthMe msg
                ∧ server.Registered rinfo verification.peer)

/-- The two servers differ at most in challenges, in fills and in the address cache. -/
structure SameLogins (server next : SLPServer) : Prop where
  manager : next.manager = server.manager
  rinfo : ∀ peer, (next.peers peer).rinfo = (server.peers peer).rinfo
  user : ∀ peer, (next.peers peer).user = (server.peers peer).user
  peerCount : next.peerCount = server.peerCount
  pending : next.pending = server.pending
  calls : next.calls = server.calls

theorem SameLogins.refl (server : SLPServer) : server.SameLogins server :=
  ⟨rfl, fun _ => rfl, fun _ => rfl, rfl, rfl, rfl⟩

/-- A change of challenges, fills or the address cache extends any evolution. -/
theorem Evolves.trans_sameLogins {server middle next : SLPServer} {event : Event}
    (evolves : server.Evolves event middle) (same : middle.SameLogins next)
    : server.Evolves event next := by
  obtain ⟨manager, rinfo, user, peerCount, pending, calls⟩ := same
  constructor
  case peerCount_le => exact evolves.peerCount_le.trans_eq peerCount.symm
  case calls_le => exact evolves.calls_le.trans_eq calls.symm
  case rinfo => exact fun peer known => (rinfo peer).trans (evolves.rinfo peer known)
  case registered =>
    simp only [SLPServer.Registered, manager, rinfo, peerCount]
    exact evolves.registered
  case user =>
    simp only [user]
    exact evolves.user
  case pending =>
    simp only [pending, calls]
    exact evolves.pending

/-- An event that settles nothing may leave the server as it is. -/
theorem Evolves.refl (server : SLPServer) {event : Event}
    (unsettled : ∀ call, ¬ event.Settles call)
    : server.Evolves event server where
  peerCount_le := Nat.le_refl _
  calls_le := Nat.le_refl _
  rinfo := fun _ _ => rfl
  registered := fun _ _ known => Or.inl known
  user := fun _ known => Or.inl known
  pending := fun call _ known => Or.inl ⟨known, unsettled call⟩

/-- Registrations may be dropped by an event that settles nothing. -/
theorem Evolves.drop {server next : SLPServer} {event : Event}
    (unsettled : ∀ call, ¬ event.Settles call)
    (kept : ∀ rinfo peer, next.Registered rinfo peer → server.Registered rinfo peer)
    (peers : next.peers = server.peers) (peerCount : next.peerCount = server.peerCount)
    (pending : next.pending = server.pending) (calls : next.calls = server.calls)
    : server.Evolves event next where
  peerCount_le := peerCount.ge
  calls_le := calls.ge
  rinfo := fun peer _ => by rw [peers]
  registered := fun rinfo peer known => Or.inl (kept rinfo peer known)
  user := fun peer known => Or.inl (by rwa [peers] at known)
  pending := fun call verification known => Or.inl ⟨by rwa [pending] at known, unsettled call⟩

end SLPServer

-- PeerManager.get

/-- A registered peer is found again, and no `Peer` object changes. -/
theorem SLPServer.get_of_registered {server : SLPServer} {rinfo : AddressInfo} {peer : PeerId}
    (registered : server.Registered rinfo peer) (now : Nat)
    : (server.get now rinfo).2 = peer ∧ (server.get now rinfo).1.peers = server.peers := by
  obtain ⟨item, found, rfl⟩ := registered
  simp only [get, found, and_self]

/-- The peer that `get` returns is registered, or it is new and knows only its address. -/
theorem SLPServer.get_origin (server : SLPServer) (now : Nat) (rinfo : AddressInfo)
    : server.Registered rinfo (server.get now rinfo).2
      ∨ (server.get now rinfo).1.peers (server.get now rinfo).2 = ⟨rinfo, none, none⟩ := by
  cases found : server.manager.get? rinfo with
  | some item => exact Or.inl ⟨item, found, by simp only [get, found]⟩
  | none => exact Or.inr (by simp only [get, found, update_self])

/-- `get` registers at most one new peer, under its own address. -/
theorem SLPServer.get_evolves (server : SLPServer) (now : Nat) (msg : Bytes)
    (rinfo : AddressInfo)
    : server.Evolves (.message now msg rinfo) (server.get now rinfo).1 := by
  have unsettled (call : Nat) : ¬ (Event.message now msg rinfo).Settles call := by
    rintro (⟨_, impossible⟩ | impossible) <;> cases impossible
  cases found : server.manager.get? rinfo with
  | some item =>
    have result : (server.get now rinfo).1
        = { server with manager := server.manager.set rinfo ⟨now + timeout, item.peer⟩ } := by
      simp only [get, found]
    rw [result]
    refine SLPServer.Evolves.drop unsettled ?_ rfl rfl rfl rfl
    rintro other peer ⟨renewed, lookup, rfl⟩
    simp only [OrderedMap.get?_set] at lookup
    split at lookup
    · rename_i same
      cases lookup
      exact ⟨item, same ▸ found, rfl⟩
    · exact ⟨renewed, lookup, rfl⟩
  | none =>
    simp only [get, found]
    constructor
    case peerCount_le => exact Nat.le_succ _
    case calls_le => exact Nat.le_refl _
    case rinfo =>
      intro peer known
      simp only [update_of_ne known.ne]
    case registered =>
      rintro other peer ⟨item, lookup, rfl⟩
      simp only [OrderedMap.get?_set] at lookup
      split at lookup
      · rename_i same
        cases lookup
        exact Or.inr ⟨rfl, Nat.lt_succ_self _, by simp only [update_self, same]⟩
      · exact Or.inl ⟨item, lookup, rfl⟩
    case user =>
      intro peer known
      by_cases fresh : peer = server.peerCount
      · subst fresh
        simp only [update_self, ne_eq, not_true_eq_false] at known
      · exact Or.inl (by simpa only [update_of_ne fresh] using known)
    case pending =>
      exact fun call verification known => Or.inl ⟨known, unsettled call⟩

-- The handlers

namespace SLPServer

/-- Setting a challenge keeps every address and every user. -/
theorem modifyPeer_challenge_sameLogins (server : SLPServer) (peer : PeerId)
    (challenge : Bytes) (fills : List PeerId)
    : server.SameLogins
        { server.modifyPeer peer (fun p => { p with challenge := some challenge }) with
          fills := fills } := by
  refine ⟨rfl, ?_, ?_, rfl, rfl, rfl⟩
  all_goals
    intro other
    by_cases same : other = peer
    · subst same
      simp only [modifyPeer, update_self]
    · simp only [modifyPeer, update_of_ne same]

theorem onPacket_sameLogins (server : SLPServer) (now : Nat) (peer : PeerId)
    (type : Option ForwarderType) (payload : Bytes)
    : server.SameLogins (server.onPacket now peer type payload).1 := by
  have forward (type : ForwarderType) (src dst : Int)
      : server.SameLogins (server.forward now peer type payload src dst).1 := by
    simp only [SLPServer.forward]
    split <;> exact ⟨rfl, fun _ => rfl, fun _ => rfl, rfl, rfl, rfl⟩
  unfold onPacket
  split
  · unfold onIpv4
    split
    · exact .refl server
    · exact forward _ _ _
  · unfold onIpv4Frag
    split
    · exact .refl server
    · exact forward _ _ _
  · exact .refl server

/-- `onNeedAuth` starts a verification for an `AuthMe` of a challenged peer, and otherwise
touches challenges only.
-/
theorem onNeedAuth_cases (server : SLPServer) (peer : PeerId)
    (type : Option ForwarderType) (payload : Bytes)
    : server.SameLogins (server.onNeedAuth peer type payload).1
      ∨ (type = some .authMe
        ∧ (server.peers peer).challenge ≠ none
        ∧ ∃ verification : Verification,
            verification.peer = peer
            ∧ (server.onNeedAuth peer type payload).1
              = { server with
                  pending := server.pending.set server.calls verification
                  calls := server.calls + 1 }) := by
  unfold onNeedAuth
  split
  · exact Or.inl (.refl server)
  · rename_i challenge held
    split
    · exact Or.inl (.refl server)
    · exact Or.inr ⟨rfl, by rw [held]; exact Option.some_ne_none _, _, rfl, rfl⟩
  · exact Or.inl (server.modifyPeer_challenge_sameLogins peer _ _)
  · split <;> exact Or.inl (.refl server)

theorem onFilled_sameLogins (server : SLPServer) (peer : PeerId)
    (random : Fin 64 → UInt8)
    : server.SameLogins (server.onFilled peer random).1 := by
  unfold onFilled
  split
  · exact server.modifyPeer_challenge_sameLogins peer _ _
  · exact .refl server

/-- Settling a call removes it and, on acceptance, sets the user of its peer. -/
theorem onSettled_evolves (server : SLPServer) (event : Event) (call : Nat)
    (result : VerifyResult) (settled : ∀ other, event.Settles other ↔ other = call)
    (accepted : result = .resolved true → event = .verified call (.resolved true))
    : server.Evolves event (server.onSettled call result).1 := by
  unfold onSettled
  cases found : server.pending.get? call with
  | none =>
    refine ⟨Nat.le_refl _, Nat.le_refl _, fun _ _ => rfl, fun _ _ known => Or.inl known,
      fun _ known => Or.inl known, ?_⟩
    intro other verification known
    refine Or.inl ⟨known, ?_⟩
    rw [settled]
    rintro rfl
    rw [found] at known
    cases known
  | some verification =>
    have pending (other : Nat) (stored : Verification)
        (known : (server.pending.delete call).get? other = some stored)
        : server.pending.get? other = some stored ∧ ¬ event.Settles other := by
      rw [OrderedMap.get?_delete] at known
      split at known
      · cases known
      · rename_i differs
        exact ⟨known, by rwa [settled]⟩
    cases result with
    | rejected message =>
      exact ⟨Nat.le_refl _, Nat.le_refl _, fun _ _ => rfl, fun _ _ known => Or.inl known,
        fun _ known => Or.inl known, fun _ _ known => Or.inl (pending _ _ known)⟩
    | resolved answer =>
      cases answer with
      | false =>
        exact ⟨Nat.le_refl _, Nat.le_refl _, fun _ _ => rfl,
          fun _ _ known => Or.inl known, fun _ known => Or.inl known,
          fun _ _ known => Or.inl (pending _ _ known)⟩
      | true =>
        refine ⟨Nat.le_refl _, Nat.le_refl _, ?_, fun _ _ known => Or.inl known, ?_,
          fun _ _ known => Or.inl (pending _ _ known)⟩
        · intro peer _
          by_cases same : peer = verification.peer
          · subst same
            simp only [modifyPeer, update_self]
          · simp only [modifyPeer, update_of_ne same]
        · intro peer known
          by_cases same : peer = verification.peer
          · exact Or.inr ⟨call, verification, accepted rfl, found, same.symm⟩
          · simp only [modifyPeer, update_of_ne same] at known
            exact Or.inl known

/-- A message registers its sender at most, and starts a verification only for an `AuthMe`
of a peer registered before it.
-/
theorem onMessage_evolves (auth : Bool) (server : SLPServer) (now : Nat)
    (msg : Bytes) (rinfo : AddressInfo)
    : server.Evolves (.message now msg rinfo) (server.onMessage auth now msg rinfo).1 := by
  have unsettled (call : Nat) : ¬ (Event.message now msg rinfo).Settles call := by
    rintro (⟨_, impossible⟩ | impossible) <;> cases impossible
  have got := server.get_evolves now msg rinfo
  cases msg with
  | nil => exact .refl server unsettled
  | cons firstByte payload =>
    simp only [onMessage]
    split
    · exact .refl server unsettled
    · split
      · rcases (server.get now rinfo).1.onNeedAuth_cases (server.get now rinfo).2
          (parseHead firstByte).1 payload with
          same | ⟨authMe, challenged, verification, peer, next⟩
        · exact got.trans_sameLogins same
        · have known : server.Registered rinfo (server.get now rinfo).2 := by
            rcases server.get_origin now rinfo with known | new
            · exact known
            · rw [new] at challenged
              exact absurd rfl challenged
          rw [next]
          obtain ⟨peerCountLe, callsLe, rinfos, registered, user, pending⟩ := got
          have calls : (server.get now rinfo).1.calls = server.calls := by
            unfold get
            split <;> rfl
          refine ⟨peerCountLe, callsLe.trans (Nat.le_succ _), rinfos, registered, user, ?_⟩
          intro call stored lookup
          simp only [OrderedMap.get?_set] at lookup
          split at lookup
          · rename_i same
            cases lookup
            refine Or.inr ⟨same.trans calls, by rw [calls], now, _, rinfo, rfl, ?_, ?_⟩
            · exact ⟨firstByte, rfl, authMe⟩
            · exact peer ▸ known
          · rcases pending call stored lookup with earlier | ⟨_, impossible, _⟩
            · exact Or.inl earlier
            · rw [calls] at impossible
              exact absurd impossible (Nat.succ_ne_self _).symm
      · exact got.trans_sameLogins (onPacket_sameLogins _ _ _ _ _)

/-- Every event is an evolution, by its handler. -/
theorem step_evolves (auth : Bool) (server : SLPServer) (event : Event)
    : server.Evolves event (server.step auth event).1 := by
  cases event with
  | message now msg rinfo => exact server.onMessage_evolves auth now msg rinfo
  | filled peer random =>
    have unsettled (call : Nat) : ¬ (Event.filled peer random).Settles call := by
      rintro (⟨_, impossible⟩ | impossible) <;> cases impossible
    exact (SLPServer.Evolves.refl server unsettled).trans_sameLogins
      (server.onFilled_sameLogins peer random)
  | verified call result =>
    refine server.onSettled_evolves _ call result ?_ (fun accepted => by rw [accepted])
    intro other
    constructor
    · rintro (⟨_, same⟩ | impossible)
      · cases same
        rfl
      · cases impossible
    · rintro rfl
      exact Or.inl ⟨result, rfl⟩
  | timedOut call =>
    refine server.onSettled_evolves _ call _ ?_ (fun impossible => by cases impossible)
    intro other
    constructor
    · rintro (⟨_, impossible⟩ | same)
      · cases impossible
      · cases same
        rfl
    · rintro rfl
      exact Or.inr rfl
  | sendError rinfo =>
    refine SLPServer.Evolves.drop ?_ ?_ rfl rfl rfl rfl
    · rintro call (⟨_, impossible⟩ | impossible) <;> cases impossible
    · rintro other peer ⟨item, lookup, same⟩
      simp only [SLPServer.step, delete, OrderedMap.get?_delete] at lookup
      split at lookup
      · cases lookup
      · exact ⟨item, lookup, same⟩
  | tick now =>
    refine SLPServer.Evolves.drop ?_ ?_ rfl rfl rfl rfl
    · rintro call (⟨_, impossible⟩ | impossible) <;> cases impossible
    · rintro other peer ⟨item, lookup, same⟩
      exact ⟨item, (OrderedMap.get?_retain.mp lookup).1, same⟩

end SLPServer

end SwitchLanPlay.Server
