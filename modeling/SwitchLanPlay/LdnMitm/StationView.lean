import SwitchLanPlay.LdnMitm.Session

/-! The network that a connected station reports and the one its host sent last. The station's
code and the host's code write the same record.
-/

namespace SwitchLanPlay.LdnMitm

open Foundation

variable {event : LanEvent}

/-- The network of the last `SyncNetwork` packet that a run receives, or else `last`. -/
def LANDiscovery.lastSynced (lan : LANDiscovery) (last : Option NetworkInfo)
    : List LanEvent → Option NetworkInfo
  | [] => last
  | event :: rest =>
    match lan.step event with
    | none => last
    | some (next, _) => next.lastSynced (next.view.synced.getLast?.or last) rest

/-- The events on which a host writes its network: data to advertise, and whatever happens to a
station's connection.
-/
def LanEvent.Writes : LanEvent → Prop
  | .call (.setAdvertiseData data) => data.length % 65536 ≤ advertiseDataSizeMax
  | .poll (.station _) _ => True
  | _ => False

/-- Whatever a host would write in a connected station is followed by a `SyncNetwork` packet. -/
def LANDiscovery.Resynced (lan : LANDiscovery) : List LanEvent → Prop
  | [] => True
  | event :: rest =>
    ∀ next answer,
      lan.step event = some (next, answer)
      → (lan.state = .stationConnected → event.Writes → (next.lastSynced none rest).isSome)
        ∧ next.Resynced rest

def View.Follows (view : View) (last : Option NetworkInfo) : Prop :=
  view.state = .stationConnected → last = some view.networkInfo

/-- A step takes over at most one network, which it then has. -/
theorem View.Moves.synced {view next : View} (moves : view.begun.Moves event next)
    : next.synced = [] ∨ next.synced = [next.networkInfo] := by
  cases moves with
  | sync => exact .inr rfl
  | _ => exact .inl rfl

/-- Without a new network, a station follows the old one unless something else is written. -/
theorem View.Follows.moves {view next : View} {last : Option NetworkInfo}
    (follows : view.Follows last) (unwritten : view.state = .stationConnected → ¬ event.Writes)
    (moves : view.begun.Moves event next) (silent : next.synced = [])
    : next.Follows last := by
  cases moves with
  | stay | prepare | link | scan | resume => exact follows
  | start | stop | halt | destroy | disconnect | host | lostHost | lostSignal => exact nofun
  | enter _ idle =>
    intro connected
    rcases idle with rfl | rfl | rfl <;> cases connected
  | draft role => exact fun connected => nomatch role.symm.trans connected
  | advertise _ fits => exact fun connected => absurd fits (unwritten connected)
  | list => exact fun connected => absurd trivial (unwritten connected)
  | sync => cases silent

theorem LANDiscovery.lastSynced_cons {lan next : LANDiscovery} {answer : Answer}
    (stepped : lan.step event = some (next, answer)) (last : Option NetworkInfo)
    (rest : List LanEvent)
    : lan.lastSynced last (event :: rest)
      = next.lastSynced (next.view.synced.getLast?.or last) rest := by
  rw [lastSynced, stepped]

/-- A run that reaches a connected station received its network last. Witness: by induction over
the history; behind each step the station has the network received last, or another one follows.
-/
theorem LANDiscovery.lastSynced_eq {lan final : LANDiscovery} {history : List LanEvent}
    {last : Option NetworkInfo}
    (follows : lan.view.Follows last ∨ (lan.lastSynced none history).isSome)
    (resynced : lan.Resynced history) (reached : discovery.run (some lan) history = some final)
    (connected : final.state = .stationConnected)
    : lan.lastSynced last history = some final.networkInfo := by
  induction history generalizing lan last with
  | nil =>
    cases reached
    exact (follows.resolve_right nofun) connected
  | cons event rest ih =>
    obtain ⟨next, answer, stepped, reached⟩ := Machine.failing_run_cons_eq_some.mp reached
    obtain ⟨followed, resynced⟩ := resynced next answer stepped
    have moves := step_moves stepped
    rw [lastSynced_cons stepped]
    refine ih ?_ resynced reached
    rcases moves.synced with silent | synced
    · rw [lastSynced_cons stepped, silent] at follows
      rw [silent]
      rcases follows with follows | later
      · by_cases written : lan.state = .stationConnected ∧ event.Writes
        · exact .inr (followed written.1 written.2)
        · refine .inl (follows.moves ?_ moves silent)
          exact fun connected writes => written ⟨connected, writes⟩
      · exact .inr later
    · rw [synced]
      exact .inl (fun _ => rfl)

/-- Events on which a host writes nothing need no packet behind them. -/
theorem LANDiscovery.resynced_of_unwritten (lan : LANDiscovery) {history : List LanEvent}
    (unwritten : ∀ event ∈ history, ¬ event.Writes)
    : lan.Resynced history := by
  induction history generalizing lan with
  | nil => trivial
  | cons event rest ih =>
    rw [List.forall_mem_cons] at unwritten
    exact fun next _ _ =>
      ⟨fun _ writes => absurd writes unwritten.1, ih next unwritten.2⟩

def stationJoins : List LanEvent :=
  [
    .call (.initializeLan 1 .succeeding),
    .call .openStation,
    .call (.connect (NetworkInfo.zero.withNodeCount 1) .anonymous 0 .succeeding),
    .poll .tcp (.readable (.ok (sendPacket .syncNetwork NetworkInfo.zero.toBytes)) false),
    .resume ⟨id, fun _ => .rfl⟩,
    .resume ⟨id, fun _ => .rfl⟩
  ]

end SwitchLanPlay.LdnMitm
