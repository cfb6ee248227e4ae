import SwitchLanPlay.Foundation.LastMark
import SwitchLanPlay.Server.Tables

/-! Without an auth provider the relay is a learning switch: where it sends a packet follows
from the messages it has received, the send errors and the ticks of its timer alone.
-/

namespace SwitchLanPlay.Server

open Option
open Foundation

variable {server : SLPServer} {msg : Bytes} {event : Event}

def packetFrom (address : Int) : Event → Option (AddressInfo × Nat)
  | .message now msg rinfo =>
    if (addresses? msg).map Prod.fst = some address then some (rinfo, now) else none
  | _ => none

def Late (time : Nat) : Event → Prop
  | .tick now => time + timeout < now
  | _ => False

/-- The last accepted packet with the source `address` came from `origin.1` at `origin.2`, and
there was no late tick since.
-/
def LearnedFrom (history : List Event) (address : Int) (origin : AddressInfo × Nat) : Prop :=
  LastMark (packetFrom address) (fun origin => Late origin.2) history origin

/-- The time of a message from `rinfo` that is neither empty nor a plain `Ping`. -/
def contactOf (rinfo : AddressInfo) : Event → Option Nat
  | .message now msg sender => if sender = rinfo ∧ Registers msg then some now else none
  | _ => none

/-- The last such message of `rinfo` came at `time`, and since then there was neither a send
error for it nor a late tick.
-/
def RegisteredSince (history : List Event) (rinfo : AddressInfo) (time : Nat) : Prop :=
  LastMark (contactOf rinfo) (fun time event => event = .sendError rinfo ∨ Late time event)
    history time

def SLPServer.cached? (server : SLPServer) (address : Int) : Option (AddressInfo × Nat) :=
  (server.ipCache.get? address).map (fun item => ((server.peers item.peer).rinfo, item.expireAt))

def SLPServer.expiry? (server : SLPServer) (rinfo : AddressInfo) : Option Nat :=
  (server.manager.get? rinfo).map CacheItem.expireAt

-- What an event does to an entry

namespace SLPServer

theorem SameTables.cached? {next : SLPServer} (same : server.SameTables next)
    (address : Int)
    : next.cached? address = server.cached? address := by
  simp only [SLPServer.cached?, same.ipCache, same.rinfo]

theorem SameTables.expiry? {next : SLPServer} (same : server.SameTables next)
    (rinfo : AddressInfo)
    : next.expiry? rinfo = server.expiry? rinfo := by
  simp only [SLPServer.expiry?, same.manager]

/-- Cached peers are `Peer` objects the server has made, and no entry expires within the first
30 seconds of the clock.
-/
structure Sound (server : SLPServer) : Prop where
  made : ∀ address item, server.ipCache.get? address = some item → item.peer < server.peerCount
  cached : ∀ address item, server.ipCache.get? address = some item → timeout ≤ item.expireAt
  registered : ∀ rinfo item, server.manager.get? rinfo = some item → timeout ≤ item.expireAt

theorem Sound.of_sameTables {next : SLPServer} (sound : server.Sound)
    (same : server.SameTables next)
    : next.Sound := by
  obtain ⟨manager, ipCache, _, peerCount⟩ := same
  constructor
  · rw [ipCache, peerCount]
    exact sound.made
  · rw [ipCache]
    exact sound.cached
  · rw [manager]
    exact sound.registered

theorem Sound.get (sound : server.Sound) (now : Nat) (rinfo : AddressInfo)
    : (server.get now rinfo).1.Sound := by
  obtain ⟨manager, ipCache, more, _⟩ := server.get_tables now rinfo
  constructor
  · rw [ipCache]
    exact fun address item cached => (sound.made address item cached).trans_le more
  · rw [ipCache]
    exact sound.cached
  · intro address item registered
    rw [manager, OrderedMap.get?_set] at registered
    split at registered
    · cases registered
      exact Nat.le_add_left timeout now
    · exact sound.registered address item registered

theorem Sound.learn {server : SLPServer} (sound : server.Sound) (now : Nat)
    {peer : PeerId} (made : peer < server.peerCount) (src : Int)
    : (server.learn now peer src).Sound := by
  refine ⟨?_, ?_, sound.registered⟩
  · intro address item cached
    rw [SLPServer.learn, OrderedMap.get?_set] at cached
    split at cached
    · cases cached
      exact made
    · exact sound.made address item cached
  · intro address item cached
    rw [SLPServer.learn, OrderedMap.get?_set] at cached
    split at cached
    · cases cached
      exact Nat.le_add_left timeout now
    · exact sound.cached address item cached

theorem learn_cached? (server : SLPServer) (now : Nat) (peer : PeerId)
    (src address : Int)
    : (server.learn now peer src).cached? address
      = if address = src then some ((server.peers peer).rinfo, now + timeout)
        else server.cached? address := by
  unfold learn cached?
  rw [OrderedMap.get?_set]
  split <;> rfl

theorem get_cached? (sound : server.Sound) (now : Nat) (rinfo : AddressInfo)
    (address : Int)
    : (server.get now rinfo).1.cached? address = server.cached? address := by
  obtain ⟨_, ipCache, _, peers⟩ := server.get_tables now rinfo
  unfold cached?
  rw [ipCache]
  cases found : server.ipCache.get? address with
  | none => rfl
  | some item => simp only [map_some, peers item.peer (sound.made address item found)]

theorem get_expiry? (server : SLPServer) (now : Nat) (rinfo address : AddressInfo)
    : (server.get now rinfo).1.expiry? address
      = if address = rinfo then some (now + timeout) else server.expiry? address := by
  unfold expiry?
  rw [(server.get_tables now rinfo).1, OrderedMap.get?_set]
  split <;> rfl

end SLPServer

/-- A map over a table that is cleared of what has expired. -/
theorem clearCacheItem_map {κ α : Type} [DecidableEq κ] (map : OrderedMap κ CacheItem)
    (now : Nat) (key : κ) (read : CacheItem → α) (value : α)
    : ((clearCacheItem map now).get? key).map read = some value
      ↔ ∃ item, map.get? key = some item ∧ ¬ item.expireAt < now ∧ read item = value := by
  simp only [map_eq_some_iff, clearCacheItem, OrderedMap.get?_retain, decide_eq_true_eq,
    and_assoc]

theorem SLPServer.clearExpire_cached? (server : SLPServer) (now : Nat) (address : Int)
    (rinfo : AddressInfo) (expireAt : Nat)
    : (server.clearExpire now).cached? address = some (rinfo, expireAt)
      ↔ server.cached? address = some (rinfo, expireAt) ∧ ¬ expireAt < now := by
  unfold cached? clearExpire
  rw [clearCacheItem_map, map_eq_some_iff]
  constructor
  · rintro ⟨item, found, fresh, rfl, rfl⟩
    exact ⟨⟨item, found, rfl⟩, fresh⟩
  · rintro ⟨⟨item, found, equal⟩, fresh⟩
    cases equal
    exact ⟨item, found, fresh, rfl⟩

theorem SLPServer.clearExpire_expiry? (server : SLPServer) (now : Nat) (rinfo : AddressInfo)
    (expireAt : Nat)
    : (server.clearExpire now).expiry? rinfo = some expireAt
      ↔ server.expiry? rinfo = some expireAt ∧ ¬ expireAt < now := by
  unfold expiry? clearExpire
  rw [clearCacheItem_map, map_eq_some_iff]
  constructor
  · rintro ⟨item, found, fresh, rfl⟩
    exact ⟨⟨item, found, rfl⟩, fresh⟩
  · rintro ⟨⟨item, found, rfl⟩, fresh⟩
    exact ⟨item, found, fresh, rfl⟩

/-- A message with addresses registers its sender. -/
theorem registers_of_addresses {pair : Int × Int} (relayable : addresses? msg = some pair)
    : Registers msg := by
  cases msg with
  | nil => cases relayable
  | cons firstByte payload =>
    rintro ⟨ping, _⟩
    obtain ⟨_, ⟨type, _⟩ | ⟨type, _⟩⟩ := addresses?_cons.mp relayable
    · cases ping.symm.trans type
    · cases ping.symm.trans type

/-- The server after a history of events, with the facts about its `Peer` objects. -/
theorem serverAfter_get_peer (auth : Bool) (history : List Event) (now : Nat)
    (rinfo : AddressInfo)
    : ((serverAfter auth history).get now rinfo).2
        < ((serverAfter auth history).get now rinfo).1.peerCount
      ∧ (((serverAfter auth history).get now rinfo).1.peers
          ((serverAfter auth history).get now rinfo).2).rinfo = rinfo :=
  SLPServer.get_peer (fun _ => serverAfter_registered auth history) now

theorem serverAfter_sound (auth : Bool) (history : List Event)
    : (serverAfter auth history).Sound := by
  induction history using List.reverseRecOn with
  | nil => constructor <;> (intro _ _ impossible; cases impossible)
  | append_singleton history event ih =>
    have updates := (serverAfter auth history).step_updates auth event
    rw [serverAfter_concat]
    generalize (SLPServer.step auth (serverAfter auth history) event).1 = next at updates ⊢
    cases updates with
    | keep _ same => exact ih.of_sameTables same
    | @contact now _ rinfo _ _ _ same => exact (ih.get now rinfo).of_sameTables same
    | @learn now _ rinfo _ src _ _ _ same =>
      have made := (serverAfter_get_peer auth history now rinfo).1
      exact ((ih.get now rinfo).learn now made src).of_sameTables same
    | drop =>
      refine ⟨ih.made, ih.cached, ?_⟩
      intro address item registered
      rw [SLPServer.delete, OrderedMap.get?_delete] at registered
      split at registered
      · cases registered
      · exact ih.registered address item registered
    | expire =>
      constructor
      · exact fun address item cached =>
          ih.made address item (OrderedMap.get?_retain.mp cached).1
      · exact fun address item cached =>
          ih.cached address item (OrderedMap.get?_retain.mp cached).1
      · exact fun address item registered =>
          ih.registered address item (OrderedMap.get?_retain.mp registered).1

-- The tables and the history

theorem Event.Silent.packetFrom (silent : event.Silent) (address : Int)
    : packetFrom address event = none := by
  cases event with
  | message now msg rinfo =>
    cases addressed : addresses? msg with
    | none => simp [Server.packetFrom, addressed]
    | some pair => exact absurd (registers_of_addresses addressed) silent
  | filled | verified | timedOut | sendError | tick => rfl

theorem Event.Silent.contactOf (silent : event.Silent) (rinfo : AddressInfo)
    : contactOf rinfo event = none := by
  cases event with
  | message now msg sender => exact if_neg fun contact => silent contact.2
  | filled | verified | timedOut | sendError | tick => rfl

theorem Event.Silent.not_late (silent : event.Silent) (time : Nat) : ¬ Late time event := by
  cases event with
  | tick => exact silent.elim
  | message | filled | verified | timedOut | sendError => exact id

variable (history : List Event)

/-- One event changes what is cached for an address as it changes what was learned. -/
theorem serverAfter_concat_cached? (event : Event) (address : Int) (origin : AddressInfo × Nat)
    : (serverAfter false (history ++ [event])).cached? address
        = some (origin.1, origin.2 + timeout)
      ↔ packetFrom address event = some origin
        ∨ (packetFrom address event = none
          ∧ ¬ Late origin.2 event
          ∧ (serverAfter false history).cached? address
            = some (origin.1, origin.2 + timeout)) := by
  have sound := serverAfter_sound false history
  have updates := (serverAfter false history).step_updates false event
  rw [serverAfter_concat]
  generalize (SLPServer.step false (serverAfter false history) event).1 = next at updates ⊢
  cases updates with
  | keep silent same => simp [same.cached?, silent.packetFrom, silent.not_late]
  | contact _ unaddressed same =>
    rw [same.cached?, SLPServer.get_cached? sound]
    simp [packetFrom, unaddressed, Late]
  | @learn now msg rinfo _ src dst _ relayable same =>
    have own := (serverAfter_get_peer false history now rinfo).2
    rw [same.cached?, SLPServer.learn_cached?, SLPServer.get_cached? sound, own]
    by_cases here : address = src
    · simp [packetFrom, relayable, here, Prod.ext_iff]
    · have other : ¬ src = address := fun equal => here equal.symm
      simp [packetFrom, relayable, here, other, Late]
  | drop => simp [packetFrom, Late, SLPServer.cached?, SLPServer.delete]
  | expire =>
    rw [SLPServer.clearExpire_cached?, and_comm]
    simp [packetFrom, Late]

/-- The cache holds what was learned, until 30 seconds behind it. -/
theorem learnedFrom_iff_cached (address : Int) (origin : AddressInfo × Nat)
    : LearnedFrom history address origin
      ↔ (serverAfter false history).cached? address = some (origin.1, origin.2 + timeout) := by
  refine lastMark_iff_of_step
    (fun history origin =>
      (serverAfter false history).cached? address = some (origin.1, origin.2 + timeout))
    ?_ (fun history event => serverAfter_concat_cached? history event address) history origin
  intro origin impossible
  cases impossible

/-- One event changes the registration of an address as it changes its last contact. -/
theorem serverAfter_concat_expiry? (event : Event) (rinfo : AddressInfo) (time : Nat)
    : (serverAfter false (history ++ [event])).expiry? rinfo = some (time + timeout)
      ↔ contactOf rinfo event = some time
        ∨ (contactOf rinfo event = none
          ∧ ¬ (event = .sendError rinfo ∨ Late time event)
          ∧ (serverAfter false history).expiry? rinfo = some (time + timeout)) := by
  have renewed (now : Nat) (msg : Bytes) (sender : AddressInfo) (registers : Registers msg)
      : ((serverAfter false history).get now sender).1.expiry? rinfo = some (time + timeout)
        ↔ contactOf rinfo (.message now msg sender) = some time
          ∨ (contactOf rinfo (.message now msg sender) = none
            ∧ ¬ (Event.message now msg sender = .sendError rinfo
              ∨ Late time (.message now msg sender))
            ∧ (serverAfter false history).expiry? rinfo = some (time + timeout)) := by
    rw [SLPServer.get_expiry?]
    by_cases same : rinfo = sender
    · simp [contactOf, same, registers]
    · have differs : ¬ sender = rinfo := fun equal => same equal.symm
      simp [contactOf, same, differs, Late]
  have updates := (serverAfter false history).step_updates false event
  rw [serverAfter_concat]
  generalize (SLPServer.step false (serverAfter false history) event).1 = next at updates ⊢
  cases updates with
  | keep silent same =>
    have other : event ≠ .sendError rinfo := by
      rintro rfl
      exact silent
    simp [same.expiry?, silent.contactOf, silent.not_late, other]
  | @contact now msg sender _ registers _ same =>
    rw [same.expiry?]
    exact renewed now msg sender registers
  | @learn now msg sender _ _ _ registers _ same =>
    rw [same.expiry?]
    exact renewed now msg sender registers
  | @drop address =>
    by_cases same : rinfo = address
    · simp [contactOf, SLPServer.expiry?, SLPServer.delete, OrderedMap.get?_delete, same]
    · have differs : ¬ address = rinfo := fun equal => same equal.symm
      simp [contactOf, Late, SLPServer.expiry?, SLPServer.delete, OrderedMap.get?_delete, same,
        differs]
  | expire =>
    rw [SLPServer.clearExpire_expiry?, and_comm]
    simp [contactOf, Late]

/-- An address is registered until 30 seconds behind its last contact. -/
theorem registeredSince_iff_expiry (rinfo : AddressInfo) (time : Nat)
    : RegisteredSince history rinfo time
      ↔ (serverAfter false history).expiry? rinfo = some (time + timeout) := by
  refine lastMark_iff_of_step
    (fun history time => (serverAfter false history).expiry? rinfo = some (time + timeout))
    ?_ (fun history event => serverAfter_concat_expiry? history event rinfo) history time
  intro time impossible
  cases impossible

/-- An address is learned exactly when it is cached. -/
theorem exists_learnedFrom_iff (address : Int)
    : (∃ origin, LearnedFrom history address origin)
      ↔ (serverAfter false history).cached? address ≠ none := by
  simp only [learnedFrom_iff_cached]
  constructor
  · rintro ⟨origin, cached⟩ missing
    cases missing.symm.trans cached
  · intro present
    obtain ⟨entry, cached⟩ := ne_none_iff_exists'.mp present
    obtain ⟨item, found, rfl⟩ := map_eq_some_iff.mp cached
    have late := (serverAfter_sound false history).cached address item found
    refine ⟨(((serverAfter false history).peers item.peer).rinfo, item.expireAt - timeout), ?_⟩
    rw [cached, Nat.sub_add_cancel late]

/-- An address has a registration exactly when the manager has an entry for it. -/
theorem exists_registeredSince_iff (rinfo : AddressInfo)
    : (∃ time, RegisteredSince history rinfo time)
      ↔ rinfo ∈ (serverAfter false history).manager.entries.map Prod.fst := by
  simp only [registeredSince_iff_expiry, SLPServer.expiry?, map_eq_some_iff,
    OrderedMap.get?_eq_some, List.mem_map]
  constructor
  · rintro ⟨time, item, member, _⟩
    exact ⟨(rinfo, item), member, rfl⟩
  · rintro ⟨⟨address, item⟩, member, rfl⟩
    have late := (serverAfter_sound false history).registered address item
      (OrderedMap.get?_eq_some.mpr member)
    exact ⟨item.expireAt - timeout, item, member, (Nat.sub_add_cancel late).symm⟩

-- Where packets go

/-- `forward` sends as the server it leaves behind says. -/
theorem SLPServer.forward_sends (server : SLPServer) (now : Nat) (peer : PeerId)
    (type : ForwarderType) (payload : Bytes) (src dst : Int)
    : (server.forward now peer type payload src dst).2
      = match (server.forward now peer type payload src dst).1.ipCache.get? dst with
        | some item =>
          [(server.forward now peer type payload src dst).1.sendTo item.peer type payload]
        | none =>
          (server.forward now peer type payload src dst).1.sendBroadcast peer type payload := by
  rw [forward_learns]
  unfold forward
  dsimp only
  cases (server.ipCache.set src ⟨now + timeout, peer⟩).get? dst with
  | some item => rfl
  | none => rfl

/-- A broadcast names every registered address but one. -/
theorem SLPServer.sendBroadcast_eq
    (own : ∀ rinfo peer, server.Registered rinfo peer → (server.peers peer).rinfo = rinfo)
    (except : PeerId) (type : ForwarderType) (payload : Bytes)
    : server.sendBroadcast except type payload
      = ((server.manager.entries.map Prod.fst).filter
          (fun rinfo => rinfo ≠ (server.peers except).rinfo)).map
          (fun rinfo => ⟨rinfo, type.toByte :: payload⟩) := by
  unfold sendBroadcast all sendTo
  rw [List.filter_map, List.map_map, List.map_map]
  apply List.map_congr_left
  intro entry member
  have registered : server.Registered entry.1 entry.2.peer :=
    ⟨entry.2, OrderedMap.get?_eq_some.mpr (List.mem_of_mem_filter member), rfl⟩
  simp only [Function.comp_apply, own entry.1 entry.2.peer registered]

/-- Without an auth provider an accepted packet is forwarded behind `get`. -/
theorem SLPServer.onMessage_forward (server : SLPServer) (now : Nat) (rinfo : AddressInfo)
    {src dst : Int} (relayable : addresses? msg = some (src, dst))
    : ∃ type payload,
        retyped msg = ForwarderType.toByte type :: payload
        ∧ server.onMessage false now msg rinfo
          = (server.get now rinfo).1.forward now (server.get now rinfo).2 type payload src
              dst := by
  cases msg with
  | nil => cases relayable
  | cons firstByte payload =>
    rw [server.onMessage_of_registers false now rinfo (registers_of_addresses relayable)]
    rcases (server.get now rinfo).1.onPacket_cases now (server.get now rinfo).2 firstByte
      payload with ⟨other, _⟩ | ⟨_, _, type, equal, octets, handled⟩
    · cases other.symm.trans relayable
    · cases equal.symm.trans relayable
      exact ⟨type, payload, octets.symm, by simpa using handled⟩

/-- An accepted packet goes to the cached peer, else to every other registered address. -/
theorem serverAfter_message_sent {now : Nat} {rinfo : AddressInfo} {src dst : Int}
    (relayable : addresses? msg = some (src, dst))
    : ((serverAfter false history).step false (.message now msg rinfo)).2
      = match (serverAfter false (history ++ [.message now msg rinfo])).cached? dst with
        | some (target, _) => [⟨target, retyped msg⟩]
        | none =>
          (((serverAfter false (history ++ [.message now msg rinfo])).manager.entries.map
            Prod.fst).filter (fun address => address ≠ rinfo)).map
            (fun address => ⟨address, retyped msg⟩) := by
  have sender := (serverAfter_get_peer false history now rinfo).2
  have own (address : AddressInfo) (peer : PeerId)
      (known : (serverAfter false (history ++ [.message now msg rinfo])).Registered address peer) :=
    (serverAfter_registered false _ known).2
  obtain ⟨type, payload, octets, handled⟩ :=
    (serverAfter false history).onMessage_forward now rinfo relayable
  rw [serverAfter_concat] at own ⊢
  simp only [SLPServer.step, handled] at own ⊢
  rw [SLPServer.forward_sends, octets]
  unfold SLPServer.cached?
  cases (SLPServer.forward _ _ _ _ _ _ _).1.ipCache.get? dst with
  | some item => rfl
  | none =>
    rw [SLPServer.sendBroadcast_eq own]
    simp only [SLPServer.forward_learns, sender, map_none]

/-- Without an auth provider an accepted packet goes, with its type octet written anew, to the
address that last sent a packet from its destination, this one counted, and else once to every
registered address but the sender's. Witness: the two tables hold what the history says.
-/
theorem relay_is_learning_switch (history : List Event) (now : Nat) (msg : Bytes)
    (rinfo : AddressInfo) (src dst : Int) (relayable : addresses? msg = some (src, dst))
    : (∀ origin,
        LearnedFrom (history ++ [.message now msg rinfo]) dst origin
        → ((serverAfter false history).step false (.message now msg rinfo)).2
          = [⟨origin.1, retyped msg⟩])
      ∧ ((¬ ∃ origin, LearnedFrom (history ++ [.message now msg rinfo]) dst origin)
        → ∃ targets : List AddressInfo,
            ((serverAfter false history).step false (.message now msg rinfo)).2
              = targets.map (fun target => ⟨target, retyped msg⟩)
            ∧ targets.Nodup
            ∧ ∀ target,
                target ∈ targets
                ↔ target ≠ rinfo
                  ∧ ∃ time,
                      RegisteredSince (history ++ [.message now msg rinfo]) target time) := by
  rw [serverAfter_message_sent history relayable]
  constructor
  · intro origin learned
    rw [(learnedFrom_iff_cached _ _ _).mp learned]
  · intro unlearned
    rw [exists_learnedFrom_iff, not_not] at unlearned
    rw [unlearned]
    refine ⟨_, rfl, (OrderedMap.nodup _).filter _, ?_⟩
    intro target
    rw [exists_registeredSince_iff, List.mem_filter, decide_eq_true_eq, and_comm]

/-- The answer of 10.13.0.2 goes to the address 10.13.0.1 wrote from. -/
theorem relay_is_learning_switch_answer
    : ((serverAfter false
          [.message 0 (1 :: (List.replicate 12 0 ++ [10, 13, 0, 1, 10, 13, 0, 2, 0]))
            ⟨"1.1.1.1", 1⟩]).step false
        (.message 5 (1 :: (List.replicate 12 0 ++ [10, 13, 0, 2, 10, 13, 0, 1, 0]))
          ⟨"2.2.2.2", 2⟩)).2
      = [⟨⟨"1.1.1.1", 1⟩,
          1 :: (List.replicate 12 0 ++ [10, 13, 0, 2, 10, 13, 0, 1, 0])⟩] := by
  refine (relay_is_learning_switch _ 5 _ ⟨"2.2.2.2", 2⟩ 168624130 168624129 (by decide)).1
    (⟨"1.1.1.1", 1⟩, 0) ⟨[], _, [_], rfl, by decide, ?_⟩
  intro later member
  rw [List.mem_singleton.mp member]
  exact ⟨by decide, id⟩

end SwitchLanPlay.Server
