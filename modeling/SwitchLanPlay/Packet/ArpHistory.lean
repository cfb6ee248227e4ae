import SwitchLanPlay.Foundation.LeaseHistory
import SwitchLanPlay.Packet.Arp

/-! The ARP cache after a history of `arp_set` calls. A lookup answers with the last call for the
address, but a call may leave an older entry of its address behind, and `arp_for_each` visits both.
-/

namespace SwitchLanPlay.Packet

open List
open Foundation

variable {now : Nat} {ctx : PacketCtx}

/-- A call of `arp_set`: its time, the IP address as key and the MAC address as value. -/
abbrev ArpSetCall := LeaseRequest Ipv4Addr MacAddr

def arpSetResult (ctx : PacketCtx) (now : Nat) (ip : Ipv4Addr) : Bool :=
  (leaseSlot? noneIp ctx.arpList now ip).isSome

def arpSetting : Machine PacketCtx ArpSetCall Bool where
  step ctx call := (arpSet ctx call.time call.value call.key, arpSetResult ctx call.time call.key)

def succeededSets (ctx : PacketCtx) (calls : List ArpSetCall) : List ArpSetCall :=
  arpSetting.inputsWith id ctx calls

/-- `arp_set` enters leases of the same length into the table of the context. -/
theorem arpSetting_run (ctx : PacketCtx) (calls : List ArpSetCall)
    : (arpSetting.run ctx calls).arpTtl = ctx.arpTtl
      ∧ (arpSetting.run ctx calls).arpList
        = (leasing noneIp ctx.arpTtl).run ctx.arpList calls
      ∧ succeededSets ctx calls = entered noneIp ctx.arpTtl ctx.arpList calls := by
  unfold succeededSets entered
  induction calls using reverseRecOn with
  | nil => exact ⟨rfl, rfl, rfl⟩
  | append_singleton calls call ih =>
    obtain ⟨ttl, list, met⟩ := ih
    rw [Machine.run_concat, Machine.run_concat, Machine.inputsWith_concat,
      Machine.inputsWith_concat, met, ← list]
    generalize arpSetting.run ctx calls = current at ttl ⊢
    refine ⟨ttl, ?_, rfl⟩
    rw [← ttl]
    exact arpSet_arpList current call.time call.value call.key

theorem arpListInit_key (index : Fin arpCacheLen) : (arpListInit index).key = noneIp := rfl

/-- The cache after a chronological history. -/
theorem arpSetting_settled (fresh : ctx.arpList = arpListInit) {calls : List ArpSetCall}
    (ordered : Chronological calls) (passed : ∀ call ∈ calls, call.time ≤ now)
    : Settled noneIp ctx.arpTtl (succeededSets ctx calls) now
        (arpSetting.run ctx calls).arpList := by
  obtain ⟨_, list, met⟩ := arpSetting_run ctx calls
  rw [list, met, fresh]
  exact settled_run arpListInit_key ordered passed

/-- The lookups of an address succeed as long as the last successful `arp_set` for it has not run
out, with the MAC address of that call.
-/
theorem arp_lookup_iff {ctx : PacketCtx} (fresh : ctx.arpList = arpListInit)
    {calls : List ArpSetCall} (ordered : Chronological calls) {now : Nat}
    (passed : ∀ call ∈ calls, call.time ≤ now) {ip : Ipv4Addr} (address : ip ≠ noneIp)
    : (∀ mac,
        (arpGetMacByIp (arpSetting.run ctx calls) now ip).1 = some mac
        ↔ ∃ call,
            lastOf? LeaseRequest.key (succeededSets ctx calls) ip = some call
            ∧ call.time + ctx.arpTtl > now
            ∧ call.value = mac)
      ∧ (arpHasIp (arpSetting.run ctx calls) now ip = true
        ↔ ∃ call,
            lastOf? LeaseRequest.key (succeededSets ctx calls) ip = some call
            ∧ call.time + ctx.arpTtl > now) := by
  have found := (arpSetting_settled fresh ordered passed).findLease_eq address
  unfold arpGetMacByIp arpHasIp
  rw [found]
  cases lastOf? LeaseRequest.key (succeededSets ctx calls) ip with
  | none => simp
  | some call =>
    by_cases running : now < call.time + ctx.arpTtl
    · have runs : (call.lease ctx.arpTtl).runs now = true := decide_eq_true running
      rw [Option.map_some, Option.filter_some, if_pos runs]
      simp [running, LeaseRequest.lease]
    · have past : ¬ (call.lease ctx.arpTtl).runs now = true :=
        fun runs => running (of_decide_eq_true runs)
      rw [Option.map_some, Option.filter_some, if_neg past]
      simpa using running

-- Visits of `arp_for_each`

/-- How often `arp_for_each` calls its callback for an address, told by a callback that sends one
empty frame for each such call and never stops the loop.
-/
def callCount (ctx : PacketCtx) (now : Nat) (ip : Ipv4Addr) (mac : MacAddr) : Nat :=
  (arpForEach ctx now (fun item =>
    (if item.key = ip ∧ item.value = mac then [[]] else [], 0))).length

/-- The callback is called once for each address that can be looked up, with the MAC address that
is looked up, and for nothing else.
-/
def VisitsLiveOnce (ctx : PacketCtx) (now : Nat) : Prop :=
  ∀ ip mac,
    callCount ctx now ip mac
    = if ip ≠ noneIp ∧ (arpGetMacByIp ctx now ip).1 = some mac then 1 else 0

theorem callCount_eq (ctx : PacketCtx) (now : Nat) (ip : Ipv4Addr) (mac : MacAddr)
    : callCount ctx now ip mac
      = (runningLeases ctx.arpList now).countP (fun item => item.key = ip ∧ item.value = mac) := by
  unfold callCount
  rw [arpForEach_eq]
  induction runningLeases ctx.arpList now with
  | nil => rfl
  | cons item rest ih =>
    rw [flatMap_cons, length_append, ih, countP_cons, Nat.add_comm]
    by_cases same : item.key = ip ∧ item.value = mac <;> simp [same]

theorem arpGetMacByIp_mac (ctx : PacketCtx) (now : Nat) (ip : Ipv4Addr)
    : (arpGetMacByIp ctx now ip).1 = (findLease ctx.arpList now ip).map Lease.value := by
  unfold arpGetMacByIp
  cases findLease ctx.arpList now ip <;> rfl

/-- `arp_for_each` visits what it should exactly when no entry for 0.0.0.0 runs and no address has
two running entries.
-/
theorem visitsLiveOnce_iff (ctx : PacketCtx) (now : Nat)
    : VisitsLiveOnce ctx now
      ↔ (∀ index, (ctx.arpList index).key = noneIp → (ctx.arpList index).expireAt ≤ now)
        ∧ ¬ Doubled noneIp ctx.arpList now := by
  simp only [VisitsLiveOnce, callCount_eq, arpGetMacByIp_mac]
  exact walk_once_iff noneIp ctx.arpList now

/-- An `arp_set` before `now` went to a slot in front of an entry of its address that still runs. -/
def RenewedInFront (ctx : PacketCtx) (calls : List ArpSetCall) (now : Nat) : Prop :=
  ∃ before call after,
    calls = before ++ call :: after
    ∧ call.key ≠ noneIp
    ∧ Overtakes noneIp (arpSetting.run ctx before).arpList now call

theorem doubled_iff_renewedInFront (fresh : ctx.arpList = arpListInit) {calls : List ArpSetCall}
    (ordered : Chronological calls) (passed : ∀ call ∈ calls, call.time ≤ now)
    : Doubled noneIp (arpSetting.run ctx calls).arpList now ↔ RenewedInFront ctx calls now := by
  unfold RenewedInFront
  simp only [(arpSetting_run ctx _).2.1, fresh]
  exact doubled_run_iff arpListInit_key ordered passed

/-- With one visit for each live address, the loop runs over a list of them without repetition. -/
theorem VisitsLiveOnce.exists_live (once : VisitsLiveOnce ctx now)
    : ∃ live : List (Ipv4Addr × MacAddr),
        live.Nodup
        ∧ (∀ ip mac,
            (ip, mac) ∈ live ↔ ip ≠ noneIp ∧ (arpGetMacByIp ctx now ip).1 = some mac)
        ∧ ∀ send : MacAddr → List Bytes,
            arpForEach ctx now (fun item => (send item.value, 0))
            = live.flatMap (fun console => send console.2) := by
  let live := (runningLeases ctx.arpList now).map (fun item => (item.key, item.value))
  have count (ip : Ipv4Addr) (mac : MacAddr) : live.count (ip, mac) = callCount ctx now ip mac := by
    rw [callCount_eq, count, countP_map]
    congr 1
    ext item
    rw [Bool.eq_iff_iff]
    simp
  refine ⟨live, ?_, ?_, ?_⟩
  · rw [nodup_iff_count_le_one]
    rintro ⟨ip, mac⟩
    rw [count, once]
    split <;> omega
  · intro ip mac
    rw [← count_pos_iff, count, once]
    split <;> simp [*]
  · intro send
    rw [arpForEach_eq, flatMap_map]

-- A renewal

def freshCtx : PacketCtx := packetInit 2048 ⟨10, 13, 37, 1⟩ ⟨10, 13, 0, 0⟩ ⟨255, 255, 0, 0⟩ 30

/-- Two consoles: the entry of the first has run out when the second is heard again, with `mac`. -/
def renewalCalls (mac : MacAddr) : List ArpSetCall :=
  [⟨0, ⟨10, 13, 0, 8⟩, ⟨2, 0, 0, 0, 0, 8⟩⟩, ⟨10, ⟨10, 13, 0, 9⟩, ⟨2, 0, 0, 0, 0, 9⟩⟩,
    ⟨31, ⟨10, 13, 0, 9⟩, mac⟩]

theorem renewalCalls_chronological (mac : MacAddr) : Chronological (renewalCalls mac) := by
  simp [Chronological, renewalCalls]

theorem renewalCalls_passed (mac : MacAddr) (passed : 31 ≤ now)
    : ∀ call ∈ renewalCalls mac, call.time ≤ now := by
  simp only [renewalCalls, forall_mem_cons]
  exact ⟨by omega, by omega, passed, by simp⟩

theorem arp_lookup_iff_renewal
    : (arpGetMacByIp (arpSetting.run freshCtx (renewalCalls ⟨2, 0, 0, 0, 0, 10⟩)) 39
          ⟨10, 13, 0, 9⟩).1
        = some ⟨2, 0, 0, 0, 0, 10⟩
      ∧ arpHasIp (arpSetting.run freshCtx (renewalCalls ⟨2, 0, 0, 0, 0, 10⟩)) 39 ⟨10, 13, 0, 9⟩
        = true := by
  obtain ⟨mac, known⟩ :=
    @arp_lookup_iff freshCtx rfl (renewalCalls ⟨2, 0, 0, 0, 0, 10⟩)
      (renewalCalls_chronological _) 39 (renewalCalls_passed _ (by decide)) ⟨10, 13, 0, 9⟩
      (by decide)
  have last
      : lastOf? LeaseRequest.key
          (succeededSets freshCtx (renewalCalls ⟨2, 0, 0, 0, 0, 10⟩)) ⟨10, 13, 0, 9⟩
        = some ⟨31, ⟨10, 13, 0, 9⟩, ⟨2, 0, 0, 0, 0, 10⟩⟩ := by
    decide +kernel
  exact ⟨(mac _).mpr ⟨_, last, by decide, rfl⟩, known.mpr ⟨_, last, by decide⟩⟩

end SwitchLanPlay.Packet
