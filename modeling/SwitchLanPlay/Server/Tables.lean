import SwitchLanPlay.Server.Confidentiality

/-! What one event does to the two tables of the relay server: the registered peers and the
cache of virtual addresses.
-/

namespace SwitchLanPlay.Server

open Foundation

/-- The message reaches `PeerManager.get`: it is not empty and not a plain `Ping`. -/
def Registers : Bytes → Prop
  | [] => False
  | firstByte :: _ => ¬ ((parseHead firstByte).1 = some .ping ∧ ¬ (parseHead firstByte).2 = true)

instance (msg : Bytes) : Decidable (Registers msg) := by
  cases msg <;> (unfold Registers; infer_instance)

structure SLPServer.SameTables (server next : SLPServer) : Prop where
  manager : next.manager = server.manager
  ipCache : next.ipCache = server.ipCache
  rinfo : ∀ peer, (next.peers peer).rinfo = (server.peers peer).rinfo
  peerCount : next.peerCount = server.peerCount

theorem SLPServer.SameTables.refl (server : SLPServer) : server.SameTables server :=
  ⟨rfl, rfl, fun _ => rfl, rfl⟩

theorem SLPServer.SameLogins.sameTables {server next : SLPServer}
    (same : server.SameLogins next) (ipCache : next.ipCache = server.ipCache)
    : server.SameTables next := ⟨same.manager, ipCache, same.rinfo, same.peerCount⟩

def Event.Silent : Event → Prop
  | .message _ msg _ => ¬ Registers msg
  | .filled _ _ | .verified _ _ | .timedOut _ => True
  | .sendError _ | .tick _ => False

namespace SLPServer

def learn (server : SLPServer) (now : Nat) (peer : PeerId) (src : Int) : SLPServer :=
  { server with ipCache := server.ipCache.set src ⟨now + timeout, peer⟩ }

/-- What an event does to the tables: nothing, renew the registration of a sender, learn the
source address of a message as well, drop a registration, or drop what has expired.
-/
inductive Updates (server : SLPServer) (auth : Bool) : Event → SLPServer → Prop where
  | keep {event next} : event.Silent → server.SameTables next → server.Updates auth event next
  | contact {now msg rinfo next}
      : Registers msg
        → (auth = false → addresses? msg = none)
        → (server.get now rinfo).1.SameTables next
        → server.Updates auth (.message now msg rinfo) next
  | learn {now msg rinfo next src dst}
      : Registers msg
        → addresses? msg = some (src, dst)
        → ((server.get now rinfo).1.learn now (server.get now rinfo).2 src).SameTables next
        → server.Updates auth (.message now msg rinfo) next
  | drop {rinfo} : server.Updates auth (.sendError rinfo) (server.delete rinfo)
  | expire {now} : server.Updates auth (.tick now) (server.clearExpire now)

variable (server : SLPServer)

/-- `get` renews or makes one registration and leaves the cache alone. -/
theorem get_tables (now : Nat) (rinfo : AddressInfo)
    : (server.get now rinfo).1.manager
        = server.manager.set rinfo ⟨now + timeout, (server.get now rinfo).2⟩
      ∧ (server.get now rinfo).1.ipCache = server.ipCache
      ∧ server.peerCount ≤ (server.get now rinfo).1.peerCount
      ∧ ∀ peer < server.peerCount,
          (server.get now rinfo).1.peers peer = server.peers peer := by
  cases found : server.manager.get? rinfo with
  | some item => simp only [get, found, Nat.le_refl, implies_true, and_self]
  | none =>
    simp only [get, found, Nat.le_succ, true_and]
    intro peer known
    rw [Function.update_of_ne known.ne]

/-- The peer `get` returns has the address it is asked for. -/
theorem get_peer {server : SLPServer} {rinfo : AddressInfo}
    (own
      : ∀ peer,
          server.Registered rinfo peer
          → peer < server.peerCount ∧ (server.peers peer).rinfo = rinfo)
    (now : Nat)
    : (server.get now rinfo).2 < (server.get now rinfo).1.peerCount
      ∧ ((server.get now rinfo).1.peers (server.get now rinfo).2).rinfo = rinfo := by
  cases found : server.manager.get? rinfo with
  | some item =>
    simp only [get, found]
    exact own item.peer ⟨item, found, rfl⟩
  | none => simp [get, found]

/-- `get` registers the peer it returns. -/
theorem get_registers (now : Nat) (rinfo : AddressInfo)
    : (server.get now rinfo).1.Registered rinfo (server.get now rinfo).2 := by
  refine ⟨⟨now + timeout, (server.get now rinfo).2⟩, ?_, rfl⟩
  rw [(server.get_tables now rinfo).1, OrderedMap.get?_set, if_pos rfl]

/-- `onNeedAuth` looks at challenges and verifications only. -/
theorem onNeedAuth_sameTables (peer : PeerId) (type : Option ForwarderType) (payload : Bytes)
    : server.SameTables (server.onNeedAuth peer type payload).1 := by
  rcases server.onNeedAuth_cases peer type payload with same | ⟨_, _, verification, _, result⟩
  · refine same.sameTables ?_
    unfold onNeedAuth
    split
    · rfl
    · split <;> rfl
    · rfl
    · split <;> rfl
  · rw [result]
    exact ⟨rfl, rfl, fun _ => rfl, rfl⟩

theorem onFilled_sameTables (peer : PeerId) (random : Fin 64 → UInt8)
    : server.SameTables (server.onFilled peer random).1 := by
  refine (server.onFilled_sameLogins peer random).sameTables ?_
  unfold onFilled
  split <;> rfl

theorem onSettled_sameTables (call : Nat) (result : VerifyResult)
    : server.SameTables (server.onSettled call result).1 := by
  unfold onSettled
  split
  · exact .refl server
  · dsimp only
    split
    · refine ⟨rfl, rfl, ?_, rfl⟩
      intro other
      simp only [modifyPeer, Function.update_apply]
      split
      · rename_i same
        rw [same]
      · rfl
    · exact ⟨rfl, rfl, fun _ => rfl, rfl⟩
    · exact ⟨rfl, rfl, fun _ => rfl, rfl⟩

end SLPServer

def retyped : Bytes → Bytes
  | [] => []
  | firstByte :: payload => (firstByte &&& 0x7f) :: payload

/-- A number with a type is the number of the type. -/
theorem ForwarderType.toNat_toByte {value : Nat} {type : ForwarderType}
    (number : ForwarderType.ofNat? value = some type)
    : type.toByte.toNat = value := by
  unfold ofNat? at number
  split at number <;> cases number <;> rfl

/-- `onPacket` forwards a relayable message and ignores any other. -/
theorem SLPServer.onPacket_cases (server : SLPServer) (now : Nat) (peer : PeerId)
    (firstByte : UInt8) (payload : Bytes)
    : (addresses? (firstByte :: payload) = none
        ∧ server.onPacket now peer (parseHead firstByte).1 payload = (server, []))
      ∨ ∃ src dst type,
          addresses? (firstByte :: payload) = some (src, dst)
          ∧ type.toByte :: payload = retyped (firstByte :: payload)
          ∧ server.onPacket now peer (parseHead firstByte).1 payload
            = server.forward now peer type payload src dst := by
  have octet {type : ForwarderType} (read : (parseHead firstByte).1 = some type)
      : type.toByte :: payload = retyped (firstByte :: payload) := by
    rw [retyped, UInt8.toNat_inj.mp (ForwarderType.toNat_toByte read)]
  by_cases short : payload.length ≤ 20
  · left
    simp only [addresses?, if_pos short, true_and]
    unfold onPacket onIpv4 onIpv4Frag
    split <;> simp [short]
  · cases type : (parseHead firstByte).1 with
    | none => exact Or.inl ⟨by simp [addresses?, type], rfl⟩
    | some known =>
      cases known with
      | ipv4 =>
        refine Or.inr ⟨readInt32BE payload 12, readInt32BE payload 16, .ipv4, ?_, ?_, ?_⟩
        · simp [addresses?, type, short]
        · exact octet type
        · simp [onPacket, onIpv4, short]
      | ipv4Frag =>
        refine Or.inr ⟨readInt32BE payload 0, readInt32BE payload 4, .ipv4Frag, ?_, ?_, ?_⟩
        · simp [addresses?, type, short]
        · exact octet type
        · simp [onPacket, onIpv4Frag, short]
      | keepalive => exact Or.inl ⟨by simp [addresses?, type], rfl⟩
      | ping => exact Or.inl ⟨by simp [addresses?, type], rfl⟩
      | authMe => exact Or.inl ⟨by simp [addresses?, type], rfl⟩
      | info => exact Or.inl ⟨by simp [addresses?, type], rfl⟩

/-- A message that registers its sender is handled behind `get`. -/
theorem SLPServer.onMessage_of_registers (auth : Bool) (server : SLPServer) (now : Nat)
    {firstByte : UInt8} {payload : Bytes} (rinfo : AddressInfo)
    (registers : Registers (firstByte :: payload))
    : server.onMessage auth now (firstByte :: payload) rinfo
      = if auth ∧ ((server.get now rinfo).1.peers (server.get now rinfo).2).user = none then
          (server.get now rinfo).1.onNeedAuth (server.get now rinfo).2 (parseHead firstByte).1
            payload
        else
          (server.get now rinfo).1.onPacket now (server.get now rinfo).2 (parseHead firstByte).1
            payload := if_neg registers

/-- Every event updates the tables in one of these ways. -/
theorem SLPServer.step_updates (auth : Bool) (server : SLPServer) (event : Event)
    : server.Updates auth event (server.step auth event).1 := by
  cases event with
  | message now msg rinfo =>
    by_cases registers : Registers msg
    · cases msg with
      | nil => exact registers.elim
      | cons firstByte payload =>
        simp only [SLPServer.step]
        rw [server.onMessage_of_registers auth now rinfo registers]
        split
        · rename_i anonymous
          refine .contact registers ?_ (onNeedAuth_sameTables ..)
          intro open_
          rw [open_] at anonymous
          exact absurd anonymous.1 Bool.false_ne_true
        · rcases (server.get now rinfo).1.onPacket_cases now (server.get now rinfo).2 firstByte
            payload with ⟨other, handled⟩ | ⟨src, dst, type, relayable, _, handled⟩
          · rw [handled]
            exact .contact registers (fun _ => other) (.refl _)
          · rw [handled, forward_learns]
            exact .learn registers relayable (.refl _)
    · refine .keep registers ?_
      cases msg with
      | nil => exact .refl server
      | cons firstByte payload =>
        have ping := not_not.mp registers
        simp only [SLPServer.step, onMessage, if_pos ping]
        exact .refl server
  | filled peer random => exact .keep trivial (server.onFilled_sameTables peer random)
  | verified call result => exact .keep trivial (server.onSettled_sameTables call result)
  | timedOut call => exact .keep trivial (server.onSettled_sameTables call _)
  | sendError rinfo => exact .drop
  | tick now => exact .expire

end SwitchLanPlay.Server
