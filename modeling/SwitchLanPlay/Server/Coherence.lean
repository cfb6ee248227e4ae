import SwitchLanPlay.Server.LearningSwitch

/-! The two tables of the relay refer to the same `Peer` objects, but a send error clears only
one of them: when every cached peer is the one registered under its address.
-/

namespace SwitchLanPlay.Server

open Foundation

variable {server : SLPServer} {history : List Event}

namespace SLPServer

/-- Every cached peer is the object registered under its own address. -/
def Coherent (server : SLPServer) : Prop :=
  ∀ address item,
    server.ipCache.get? address = some item
    → server.Registered (server.peers item.peer).rinfo item.peer

/-- The event drops no registration that the cache still refers to behind it: a send error is
for an address that no cached peer has, and a tick that expires a registration expires the
cached items of its address with it.
-/
def Spares (server : SLPServer) : Event → Prop
  | .sendError rinfo =>
    ∀ address item,
      server.ipCache.get? address = some item → (server.peers item.peer).rinfo ≠ rinfo
  | .tick now =>
    ∀ address item registration,
      server.ipCache.get? address = some item
      → server.manager.get? (server.peers item.peer).rinfo = some registration
      → registration.expireAt < now
      → item.expireAt < now
  | _ => True

theorem SameTables.coherent {next : SLPServer} (same : server.SameTables next)
    : next.Coherent ↔ server.Coherent := by
  simp only [SLPServer.Coherent, SLPServer.Registered, same.ipCache, same.manager, same.rinfo]

/-- `get` renews a registration or adds one for an address that no cached peer has. -/
theorem Coherent.get (coherent : server.Coherent) (sound : server.Sound) (now : Nat)
    (rinfo : AddressInfo)
    : (server.get now rinfo).1.Coherent := by
  obtain ⟨manager, ipCache, _, peers⟩ := server.get_tables now rinfo
  intro address item cached
  rw [ipCache] at cached
  obtain ⟨registration, found, same⟩ := coherent address item cached
  rw [peers item.peer (sound.made address item cached), SLPServer.Registered, manager,
    OrderedMap.get?_set]
  split
  · rename_i here
    refine ⟨_, rfl, ?_⟩
    rw [here] at found
    simp only [SLPServer.get, found, same]
  · exact ⟨registration, found, same⟩

theorem Coherent.learn {server : SLPServer} (coherent : server.Coherent) (now : Nat)
    {rinfo : AddressInfo} {peer : PeerId} (registered : server.Registered rinfo peer)
    (own : (server.peers peer).rinfo = rinfo) (src : Int)
    : (server.learn now peer src).Coherent := by
  intro address item cached
  rw [SLPServer.learn, OrderedMap.get?_set] at cached
  split at cached
  · cases cached
    exact own.symm ▸ registered
  · exact coherent address item cached

/-- A send error keeps a coherent server coherent when no cached peer has its address. -/
theorem Coherent.delete_iff (coherent : server.Coherent) (rinfo : AddressInfo)
    : (server.delete rinfo).Coherent ↔ server.Spares (.sendError rinfo) := by
  constructor
  · intro kept address item cached same
    obtain ⟨registration, found, _⟩ := kept address item cached
    simp only [delete, OrderedMap.get?_delete, same, if_true] at found
    cases found
  · intro spared address item cached
    obtain ⟨registration, found, same⟩ := coherent address item cached
    refine ⟨registration, ?_, same⟩
    simp only [delete, OrderedMap.get?_delete, if_neg (spared address item cached)]
    exact found

/-- A tick keeps a coherent server coherent when no cached item outlives its registration. -/
theorem Coherent.clearExpire_iff (coherent : server.Coherent) (now : Nat)
    : (server.clearExpire now).Coherent ↔ server.Spares (.tick now) := by
  constructor
  · intro kept address item registration cached found expired
    by_contra fresh
    obtain ⟨remaining, present, _⟩ := kept address item
      (OrderedMap.get?_retain.mpr ⟨cached, decide_eq_true fresh⟩)
    obtain ⟨same, unexpired⟩ := OrderedMap.get?_retain.mp present
    cases same.symm.trans found
    exact of_decide_eq_true unexpired expired
  · intro spared address item cached
    obtain ⟨present, fresh⟩ := OrderedMap.get?_retain.mp cached
    obtain ⟨registration, found, same⟩ := coherent address item present
    refine ⟨registration, OrderedMap.get?_retain.mpr ⟨found, decide_eq_true ?_⟩, same⟩
    intro expired
    exact of_decide_eq_true fresh (spared address item registration present found expired)

end SLPServer

/-- One event keeps the tables coherent exactly when it spares what is cached. -/
theorem serverAfter_concat_coherent (auth : Bool) (history : List Event) (event : Event)
    (coherent : (serverAfter auth history).Coherent)
    : (serverAfter auth (history ++ [event])).Coherent
      ↔ (serverAfter auth history).Spares event := by
  have sound := serverAfter_sound auth history
  have updates := (serverAfter auth history).step_updates auth event
  rw [serverAfter_concat]
  generalize (SLPServer.step auth (serverAfter auth history) event).1 = next at updates ⊢
  cases updates with
  | keep silent same =>
    have spares : (serverAfter auth history).Spares event := by
      cases event with
      | sendError | tick => exact silent.elim
      | message | filled | verified | timedOut => trivial
    exact iff_of_true (same.coherent.mpr coherent) spares
  | @contact now _ rinfo _ _ _ same =>
    exact iff_of_true (same.coherent.mpr (coherent.get sound now rinfo)) trivial
  | @learn now _ rinfo _ src _ _ _ same =>
    have own := (serverAfter_get_peer auth history now rinfo).2
    have learned := (coherent.get sound now rinfo).learn now
      ((serverAfter auth history).get_registers now rinfo) own src
    exact iff_of_true (same.coherent.mpr learned) trivial
  | drop => exact coherent.delete_iff _
  | expire => exact coherent.clearExpire_iff _

/-- At every point of a run each cached peer is the one registered under its address exactly
when every send error was for an address that no cached peer had, and every tick that expired a
registration expired the cached items of its address too.
-/
theorem relay_coherent_iff (auth : Bool) (history : List Event)
    : (∀ before after, history = before ++ after → (serverAfter auth before).Coherent)
      ↔ ∀ before event after,
          history = before ++ event :: after → (serverAfter auth before).Spares event := by
  refine forall_fronts_iff (fun history => (serverAfter auth history).Coherent)
    (fun history event => (serverAfter auth history).Spares event) ?_
    (serverAfter_concat_coherent auth) history
  intro address item impossible
  cases impossible

/-- A send error for the sender of a packet leaves its peer cached but not registered, and the
next message of the same address registers another object.
-/
theorem sendError_not_coherent
    : ¬ (serverAfter false
          [.message 0 (1 :: (List.replicate 12 0 ++ [10, 13, 0, 1, 10, 13, 0, 2, 0]))
              ⟨"1.1.1.1", 1⟩,
            .sendError ⟨"1.1.1.1", 1⟩]).Coherent
      ∧ ¬ (serverAfter false
            [.message 0 (1 :: (List.replicate 12 0 ++ [10, 13, 0, 1, 10, 13, 0, 2, 0]))
                ⟨"1.1.1.1", 1⟩,
              .sendError ⟨"1.1.1.1", 1⟩,
              .message 5 [0] ⟨"1.1.1.1", 1⟩]).Coherent := by
  constructor
  · intro coherent
    obtain ⟨registration, found, _⟩ := coherent 168624129 ⟨30000, 0⟩ (by decide)
    cases found
  · intro coherent
    obtain ⟨registration, found, same⟩ := coherent 168624129 ⟨30000, 0⟩ (by decide)
    cases found
    cases same

end SwitchLanPlay.Server
