import SwitchLanPlay.LdnMitm.Session

/-! What a scan finds. The answers of one window are kept by the BSSID they name, the first for
each, while a host is known by its `NetworkId` and may answer again.
-/

namespace SwitchLanPlay.LdnMitm

open List
open Foundation

variable {lan : LANDiscovery} {results : OrderedMap (Block 6) NetworkInfo}

/-- The discovery reads its UDP socket, with nothing left from earlier packets. -/
structure LANDiscovery.Listens (lan : LANDiscovery) (results : OrderedMap (Block 6) NetworkInfo)
    : Prop where
  initialized : lan.initialized = true
  udp : lan.udp = some ⟨true, .empty, results⟩

def scanRespEvent (info : NetworkInfo) : LanEvent :=
  .poll .udp (.readable (.ok (sendPacket .scanResp info.toBytes)) false)

def scanWindow (filter : ScanFilter) (count : Nat) (answers : List NetworkInfo) : List LanEvent :=
  .call (.scan filter count true) :: answers.map scanRespEvent

def matchingHosts (filter : ScanFilter) (answers : List NetworkInfo) : List NetworkInfo :=
  (latest NetworkInfo.networkId answers).filter (scanFilterMatchesNetwork (some filter))

abbrev NetworkInfo.bssid (info : NetworkInfo) : Block 6 := info.common.bssid

-- The map of results

theorem get?_insertNew (results : OrderedMap (Block 6) NetworkInfo) (info : NetworkInfo)
    (bssid : Block 6)
    : (insertNew results info).get? bssid
      = (results.get? bssid).or (if info.bssid = bssid then some info else none) := by
  unfold insertNew
  split
  · rename_i present
    split
    · rename_i same
      subst same
      exact (Option.or_of_isSome present).symm
    · rw [Option.or_none]
  · rename_i absent
    rw [OrderedMap.get?_set]
    by_cases same : info.bssid = bssid
    · subst same
      rw [Option.not_isSome_iff_eq_none] at absent
      rw [if_pos rfl, if_pos rfl, absent, Option.none_or]
    · rw [if_neg (Ne.symm same), if_neg same, Option.or_none]

/-- The map holds the first answer for each BSSID. -/
theorem get?_foldl_insertNew (answers : List NetworkInfo)
    (results : OrderedMap (Block 6) NetworkInfo) (bssid : Block 6)
    : (answers.foldl insertNew results).get? bssid
      = (results.get? bssid).or (firstOf? NetworkInfo.bssid answers bssid) := by
  induction answers generalizing results with
  | nil => exact (Option.or_none ..).symm
  | cons info answers ih => rw [foldl_cons, ih, get?_insertNew, Option.or_assoc, firstOf?_cons]

def scanResults (answers : List NetworkInfo) : List NetworkInfo :=
  (answers.foldl insertNew .empty).entries.map Prod.snd

theorem mem_scanResults {answers : List NetworkInfo} {info : NetworkInfo}
    : info ∈ scanResults answers ↔ firstOf? NetworkInfo.bssid answers info.bssid = some info := by
  have kept (bssid : Block 6)
      : (bssid, info) ∈ (answers.foldl insertNew .empty).entries
        ↔ firstOf? NetworkInfo.bssid answers bssid = some info := by
    rw [← OrderedMap.get?_eq_some, get?_foldl_insertNew, OrderedMap.get?_empty, Option.none_or]
  simp only [scanResults, mem_map, Prod.exists, exists_eq_right, kept]
  constructor
  · rintro ⟨bssid, found⟩
    rw [key_of_firstOf? found]
    exact found
  · exact fun found => ⟨info.bssid, found⟩

theorem nodup_scanResults (answers : List NetworkInfo) : (scanResults answers).Nodup := by
  refine List.Nodup.of_map NetworkInfo.bssid ?_
  have keys
      : (scanResults answers).map NetworkInfo.bssid
        = (answers.foldl insertNew .empty).entries.map Prod.fst := by
    rw [scanResults, map_map]
    refine map_congr_left ?_
    rintro ⟨bssid, info⟩ kept
    rw [← OrderedMap.get?_eq_some, get?_foldl_insertNew, OrderedMap.get?_empty,
      Option.none_or] at kept
    have same := key_of_firstOf? kept
    exact same
  rw [keys]
  exact (answers.foldl insertNew .empty).nodup

theorem collectScan_eq (filter : ScanFilter) (count : Nat) (items : List NetworkInfo)
    : collectScan filter count items
      = (items.filter (scanFilterMatchesNetwork (some filter))).take count := by
  induction items generalizing count with
  | nil => simp [collectScan]
  | cons info rest ih =>
    rw [collectScan]
    split
    · rename_i full
      rw [full, take_zero]
    · rename_i room
      obtain ⟨left, rfl⟩ := Nat.exists_eq_succ_of_ne_zero room
      split
      · rename_i matches_
        rw [filter_cons_of_pos matches_, take_succ_cons, ih]
        rfl
      · rename_i other
        rw [filter_cons_of_neg other, ih]

-- The window

theorem LANDiscovery.step_scan (idle : lan.pending = none) (listens : lan.Listens results)
    (filter : ScanFilter) (count : Nat)
    : ∃ next,
        lan.step (.call (.scan filter count true)) = some (next, .none)
        ∧ next.Listens .empty
        ∧ next.pending = some (.scan filter count) := by
  refine
    ⟨({
        lan with
        effects := []
        udp := some ⟨true, .empty, .empty⟩
        pending := some (.scan filter count)
      } : LANDiscovery).emit (.broadcast (sendPacket .scan (ScanFilter.layout filter).val)), ?_,
      ⟨listens.initialized, rfl⟩, rfl⟩
  unfold LANDiscovery.step
  dsimp only
  rw [if_neg (by simp [idle]), handle, startScan, listens.udp]
  rfl

theorem LANDiscovery.step_scanResp (listens : lan.Listens results) (info : NetworkInfo)
    : ∃ next,
        lan.step (scanRespEvent info) = some (next, .none)
        ∧ next.Listens (insertNew results info)
        ∧ next.pending = lan.pending := by
  have read : ({ lan with effects := [] } : LANDiscovery).udpOnRead ⟨true, .empty, results⟩
          (.ok (sendPacket .scanResp info.toBytes))
        = ({
            lan with
            effects := []
            udp := some ⟨true, .empty, insertNew results info⟩
          }, 0) := by
    unfold udpOnRead
    rw [recvPacket_network]
    dsimp only
    rw [udpCallback, if_neg (by decide), if_pos rfl, info.read?_toBytes]
  have open_ : lan.udp.filter LDUdpSocket.isOpen = some ⟨true, .empty, results⟩ := by
    rw [listens.udp]
    rfl
  refine
    ⟨{ lan with effects := [], udp := some ⟨true, .empty, insertNew results info⟩ },
      step_poll ?_, ⟨listens.initialized, rfl⟩, rfl⟩
  unfold poll
  rw [if_neg (not_not.mpr listens.initialized)]
  dsimp only
  rw [open_]
  dsimp only
  rw [read]
  rfl

/-- The answers are put into the map one after the other. -/
theorem discovery_run_scanResps (listens : lan.Listens results) (answers : List NetworkInfo)
    : ∃ next,
        discovery.run (some lan) (answers.map scanRespEvent) = some next
        ∧ next.Listens (answers.foldl insertNew results)
        ∧ next.pending = lan.pending := by
  refine Machine.failing_run_map scanRespEvent
    (fun answers (next : LANDiscovery) =>
      next.Listens (answers.foldl insertNew results) ∧ next.pending = lan.pending)
    ⟨listens, rfl⟩ ?_ answers
  rintro answers middle info ⟨listens, kept⟩
  obtain ⟨next, stepped, listens, same⟩ := LANDiscovery.step_scanResp listens info
  refine ⟨next, .none, stepped, ?_, same.trans kept⟩
  rw [foldl_concat]
  exact listens

/-- At its end a scan returns what it kept, in some order. -/
theorem LANDiscovery.step_resume_returnsScan {filter : ScanFilter} {count : Nat}
    (listens : lan.Listens results) (scanning : lan.pending = some (.scan filter count))
    (order : MapOrder)
    : (lan.step (.resume order)).map Prod.snd
      = some (.networks (collectScan filter count (order.val (results.entries.map Prod.snd)))) := by
  simp only [LANDiscovery.step, resume, scanning, finishScan, listens.udp]
  rfl

/-- The two ways to select answers agree on those that match if and only if each of them is the
first for its BSSID exactly if it is the last of its host.
-/
theorem scanResults_perm_matchingHosts_iff (filter : ScanFilter) (answers : List NetworkInfo)
    : ((scanResults answers).filter (scanFilterMatchesNetwork (some filter))).Perm
          (matchingHosts filter answers)
      ↔ ∀ info ∈ answers,
          scanFilterMatchesNetwork (some filter) info
          → (firstOf? NetworkInfo.bssid answers info.bssid = some info
            ↔ lastOf? NetworkInfo.networkId answers info.networkId = some info) := by
  have kept := (nodup_scanResults answers).filter (scanFilterMatchesNetwork (some filter))
  have hosts := (nodup_latest NetworkInfo.networkId answers).filter
    (scanFilterMatchesNetwork (some filter))
  rw [matchingHosts, perm_ext_iff_of_nodup kept hosts]
  simp only [mem_filter, mem_scanResults, mem_latest]
  constructor
  · intro same info _ matches_
    have agree := same info
    rwa [and_iff_left matches_, and_iff_left matches_] at agree
  · intro agree info
    refine and_congr_left (fun matches_ => ?_)
    constructor
    · exact fun first => (agree info (mem_of_firstOf? first) matches_).mp first
    · exact fun last => (agree info (mem_of_lastOf? last) matches_).mpr last

/-- If there is room for what the matching hosts sent last, a scan returns exactly that, whatever
the order of the map, if and only if there is no room at all, or each matching answer is the first
for its BSSID exactly if it is the last of its host.
-/
theorem scan_finds_hosts_iff {lan : LANDiscovery} {results : OrderedMap (Block 6) NetworkInfo}
    (idle : lan.pending = none) (listens : lan.Listens results) (filter : ScanFilter)
    (count : Nat) (answers : List NetworkInfo)
    (fits : (matchingHosts filter answers).length ≤ count)
    : ∃ waiting,
        discovery.run (some lan) (scanWindow filter count answers) = some waiting
        ∧ ((∀ order,
              ∃ infos,
                (waiting.step (.resume order)).map Prod.snd = some (.networks infos)
                ∧ infos.Perm (matchingHosts filter answers))
          ↔ count = 0
            ∨ ∀ info ∈ answers,
                scanFilterMatchesNetwork (some filter) info
                → (firstOf? NetworkInfo.bssid answers info.bssid = some info
                  ↔ lastOf? NetworkInfo.networkId answers info.networkId = some info)) := by
  obtain ⟨started, scanned, ready, scanning⟩ := LANDiscovery.step_scan idle listens filter count
  obtain ⟨waiting, reached, kept, same⟩ := discovery_run_scanResps ready answers
  have returned (order : MapOrder) :=
    LANDiscovery.step_resume_returnsScan kept (same.trans scanning) order
  refine ⟨waiting, Machine.failing_run_cons_eq_some.mpr ⟨started, .none, scanned, reached⟩, ?_⟩
  rw [← scanResults_perm_matchingHosts_iff,
    ← forall_walk_take_perm_iff (nodup_scanResults answers) _ fits]
  refine forall_congr' (fun order => ?_)
  rw [← collectScan_eq]
  constructor
  · rintro ⟨infos, answered, perm⟩
    rw [returned, Option.some.injEq, Answer.networks.injEq] at answered
    exact answered ▸ perm
  · exact fun perm => ⟨_, returned order, perm⟩

def ScanFilter.any : ScanFilter := ⟨zeroBlock 32, 0, zeroBlock 6, zeroBlock 34, zeroBlock 16, 0⟩

/-- The network of a host with the session. All hosts have the same BSSID. -/
def NetworkInfo.ofSession (session : UInt8) : NetworkInfo :=
  { NetworkInfo.zero with networkId := ⟨replicate 31 0 ++ [session], by simp⟩ }

theorem openedStation_listens
    : ∃ lan,
        discovery.run (some (LANDiscovery.fresh (fun _ => 0) (fun _ => 0) 0 1500)) openedStation
          = some lan
        ∧ lan.pending = none
        ∧ lan.Listens .empty := ⟨_, rfl, rfl, rfl, rfl⟩

/-- A host that answers twice with the same network is found once. -/
theorem scan_finds_hosts_iff_twice
    : ∃ lan waiting,
        discovery.run (some (LANDiscovery.fresh (fun _ => 0) (fun _ => 0) 0 1500)) openedStation
          = some lan
        ∧ discovery.run (some lan) (scanWindow .any 1 [.ofSession 1, .ofSession 1]) = some waiting
        ∧ matchingHosts .any [.ofSession 1, .ofSession 1] = [.ofSession 1]
        ∧ ∀ order,
            ∃ infos,
              (waiting.step (.resume order)).map Prod.snd = some (.networks infos)
              ∧ infos.Perm (matchingHosts .any [.ofSession 1, .ofSession 1]) := by
  have hosts : matchingHosts .any [.ofSession 1, .ofSession 1] = [.ofSession 1] := by
    decide +kernel
  obtain ⟨lan, opened, idle, listens⟩ := openedStation_listens
  obtain ⟨waiting, reached, finds⟩ := scan_finds_hosts_iff idle listens .any 1
    [.ofSession 1, .ofSession 1] (by rw [hosts, List.length_singleton])
  refine ⟨lan, waiting, opened, reached, hosts, finds.mpr (.inr ?_)⟩
  decide +kernel

/-- Of two hosts with the same BSSID, the one that answers first hides the other. -/
theorem same_bssid_hides_host
    : ∃ lan waiting,
        discovery.run (some (LANDiscovery.fresh (fun _ => 0) (fun _ => 0) 0 1500)) openedStation
          = some lan
        ∧ discovery.run (some lan) (scanWindow .any 2 [.ofSession 1, .ofSession 2]) = some waiting
        ∧ matchingHosts .any [.ofSession 1, .ofSession 2] = [.ofSession 1, .ofSession 2]
        ∧ ∀ order,
            (waiting.step (.resume order)).map Prod.snd = some (.networks [.ofSession 1]) := by
  obtain ⟨lan, opened, idle, listens⟩ := openedStation_listens
  obtain ⟨started, scanned, ready, scanning⟩ := LANDiscovery.step_scan idle listens .any 2
  obtain ⟨waiting, reached, kept, same⟩ :=
    discovery_run_scanResps ready [.ofSession 1, .ofSession 2]
  have results : scanResults [.ofSession 1, .ofSession 2] = [.ofSession 1] := by decide +kernel
  refine ⟨lan, waiting, opened,
    Machine.failing_run_cons_eq_some.mpr ⟨started, .none, scanned, reached⟩, by decide +kernel, ?_⟩
  intro order
  have walked := List.perm_singleton.mp (order.property [.ofSession 1])
  rw [LANDiscovery.step_resume_returnsScan kept (same.trans scanning) order]
  change some (Answer.networks (collectScan _ _ (order.val (scanResults _)))) = _
  rw [results, walked]
  rfl

end SwitchLanPlay.LdnMitm
