import SwitchLanPlay.Foundation.Machine
import SwitchLanPlay.Sysmodule.LobbyCache

/-! Expiry of cached lobbies. The receive thread stamps a lobby under the lock of the cache; the
capture thread reads the clock before it takes that lock, so it can find a stamp that is later
than its own time.
-/

namespace SwitchLanPlay.Sysmodule

open Option
open Foundation

variable {now timestamp : UInt64} {threads : LobbyThreads}

def lobbyReinjectIntervalNs : UInt64 := 500000000

def lobbyExpiryNs : UInt64 := 30000000000

/-- `armTicksToNs`, with the product cut to 64 bits. -/
def armTicksToNs (ticks : UInt64) : UInt64 := ticks * 625 / 12

/-- The cache with `g_last_lobby_reinject`, the time the capture thread has read when it waits for
the lock in `lobby_cache_reinject_if_due`, and the last value of the system tick.
-/
structure LobbyThreads where
  cache : LobbyCache
  lastReinject : UInt64
  waiting : Option UInt64
  clock : UInt64

/-- What the threads do, at a system tick: the receive thread stores a packet; the capture thread
reads the clock, and then goes through the cache.
-/
inductive LobbyEvent where
  | store (tick : UInt64) (enabled : Bool) (payload : Bytes)
  | readClock (tick : UInt64) (enabled injectOpen : Bool)
  | reinject (tick : UInt64)

def LobbyEvent.tick : LobbyEvent → UInt64
  | .store tick _ _ => tick
  | .readClock tick _ _ => tick
  | .reinject tick => tick

structure LobbyOutput where
  dropped : List CachedLobby
  sent : List Bytes
deriving DecidableEq, Repr

def LobbyOutput.none : LobbyOutput := ⟨[], []⟩

def CachedLobby.isExpired (lobby : CachedLobby) (now : UInt64) : Bool :=
  lobby.valid && lobbyExpiryNs < armTicksToNs (now - lobby.timestamp)

def LobbyCache.reinject (cache : LobbyCache) (now : UInt64) : LobbyCache × LobbyOutput :=
  let entries := (List.finRange lobbyCacheSize).map cache.lobbies
  ({
      cache with
      lobbies := fun i =>
        if (cache.lobbies i).isExpired now then { cache.lobbies i with valid := false }
        else cache.lobbies i
    },
    {
      dropped := entries.filter (fun lobby => lobby.isExpired now)
      sent := (entries.filter (fun lobby => lobby.valid && !lobby.isExpired now)).map
        CachedLobby.data
    })

def LobbyThreads.readClock (threads : LobbyThreads) (now : UInt64) (enabled injectOpen : Bool)
    : LobbyThreads :=
  if !threads.cache.ready || !enabled then threads
  else if !injectOpen then threads
  else if threads.lastReinject ≠ 0
      ∧ armTicksToNs (now - threads.lastReinject) < lobbyReinjectIntervalNs then threads
  else { threads with lastReinject := now, waiting := some now }

/-- What a thread does; the capture thread does one thing after the other. -/
def LobbyThreads.perform (threads : LobbyThreads)
    : LobbyEvent → Option (LobbyThreads × LobbyOutput)
  | .store tick enabled payload =>
    some ({ threads with cache := threads.cache.storeIfScanresp enabled tick payload }, .none)
  | .readClock tick enabled injectOpen =>
    if threads.waiting.isSome then none
    else some (threads.readClock tick enabled injectOpen, .none)
  | .reinject _ =>
    threads.waiting.map fun now =>
      let outcome := threads.cache.reinject now
      ({ threads with cache := outcome.1, waiting := none }, outcome.2)

/-- One step of a thread. The system tick never goes back. -/
def LobbyThreads.step (threads : LobbyThreads) (event : LobbyEvent)
    : Option (LobbyThreads × LobbyOutput) :=
  if event.tick < threads.clock then none
  else { threads with clock := event.tick }.perform event

def lobbyMachine : Machine (Option LobbyThreads) LobbyEvent LobbyOutput :=
  Machine.failing LobbyThreads.step .none

def LobbyThreads.init : LobbyThreads := ⟨.init, 0, none, 0⟩

/-- At least 30 seconds lie between two ticks of 19.2 MHz. -/
def ThirtySeconds (start stop : UInt64) : Prop :=
  lobbyExpiryNs.toNat * 12 ≤ 625 * (stop.toNat - start.toNat)

instance (start stop : UInt64) : Decidable (ThirtySeconds start stop) := by
  unfold ThirtySeconds
  infer_instance

/-- The stamp is so far behind `now` that the product for its age, cut to 64 bits, is small again.
Such a lag is decades long.
-/
def LagWraps (now timestamp : UInt64) : Prop :=
  (2 ^ 64 - 625 * (timestamp.toNat - now.toNat) % 2 ^ 64) % 2 ^ 64
  < 12 * (lobbyExpiryNs.toNat + 1)

-- The age of an entry

/-- The test of the loop as a bound on the product, before its division. -/
theorem expiry_lt_armTicksToNs_iff (age : UInt64)
    : lobbyExpiryNs < armTicksToNs age ↔ 12 * (lobbyExpiryNs.toNat + 1) ≤ (age * 625).toNat := by
  have divisor : (12 : UInt64).toNat = 12 := rfl
  rw [UInt64.lt_iff_toNat_lt, armTicksToNs, UInt64.toNat_div, divisor]
  omega

/-- An entry that was stamped no later than the clock was read is that old. -/
theorem thirtySeconds_of_expired (stamped : timestamp ≤ now)
    (expired : lobbyExpiryNs < armTicksToNs (now - timestamp))
    : ThirtySeconds timestamp now := by
  have bound := (expiry_lt_armTicksToNs_iff _).mp expired
  have factor : (625 : UInt64).toNat = 625 := rfl
  rw [UInt64.toNat_mul, UInt64.toNat_sub_of_le _ _ stamped, factor] at bound
  have cut := Nat.mod_le ((now.toNat - timestamp.toNat) * 625) (2 ^ 64)
  have whole := bound.trans cut
  unfold ThirtySeconds
  omega

/-- An entry that was stamped later counts as expired, unless its lag wraps. -/
theorem expired_iff_of_stamped_later (later : now ≤ timestamp)
    : lobbyExpiryNs < armTicksToNs (now - timestamp) ↔ ¬ LagWraps now timestamp := by
  have factor : (625 : UInt64).toNat = 625 := rfl
  have lag : (now - timestamp) * 625 = -(625 * (timestamp - now)) := by
    rw [UInt64.mul_comm, ← UInt64.neg_sub, UInt64.mul_neg]
  have product : (625 * (timestamp - now)).toNat
      = 625 * (timestamp.toNat - now.toNat) % 2 ^ 64 := by
    rw [UInt64.toNat_mul, factor, UInt64.toNat_sub_of_le _ _ later]
  rw [expiry_lt_armTicksToNs_iff, lag, UInt64.toNat_neg, product]
  exact Nat.not_lt.symm

-- One turn through the cache

/-- A step leaves every valid entry valid that is not yet 30 seconds old. -/
def LobbyThreads.KeepsFresh (threads : LobbyThreads) (event : LobbyEvent) : Prop :=
  ∀ next output,
    threads.step event = some (next, output)
    → ∀ i,
        (threads.cache.lobbies i).valid = true
        → (next.cache.lobbies i).valid = false
        → ThirtySeconds (threads.cache.lobbies i).timestamp event.tick

/-- When the capture thread goes through the cache, no entry was stamped after the thread had read
the clock, but for those that are that old by now and those whose lag wraps.
-/
def LobbyThreads.StampedInOrder (threads : LobbyThreads) : LobbyEvent → Prop
  | .reinject tick =>
    ∀ now,
      threads.waiting = some now
      → threads.clock ≤ tick
      → ∀ i,
          (threads.cache.lobbies i).valid = true
          → (threads.cache.lobbies i).timestamp ≤ now
            ∨ ThirtySeconds (threads.cache.lobbies i).timestamp tick
            ∨ LagWraps now (threads.cache.lobbies i).timestamp
  | .store _ _ _ => True
  | .readClock _ _ _ => True

/-- The capture thread waits with a time that is not ahead of the clock. -/
def LobbyThreads.WaitsBehind (threads : LobbyThreads) : Prop :=
  ∀ now, threads.waiting = some now → now ≤ threads.clock

/-- Storing leaves an entry alone, or puts the packet with the tick in its place. -/
theorem LobbyCache.storeIfScanresp_lobbies (cache : LobbyCache) (enabled : Bool) (tick : UInt64)
    (payload : Bytes) (i : Fin lobbyCacheSize)
    : (cache.storeIfScanresp enabled tick payload).lobbies i = cache.lobbies i
      ∨ (cache.storeIfScanresp enabled tick payload).lobbies i = ⟨true, payload, tick⟩ := by
  unfold storeIfScanresp
  dsimp only
  repeat' split
  any_goals exact Or.inl rfl
  dsimp only
  rw [Function.update_apply]
  split
  · exact Or.inr rfl
  · exact Or.inl rfl

theorem LobbyThreads.readClock_cache (threads : LobbyThreads) (now : UInt64)
    (enabled injectOpen : Bool)
    : (threads.readClock now enabled injectOpen).cache = threads.cache := by
  unfold readClock
  repeat' split
  all_goals rfl

/-- A turn through the cache clears the valid entries that count as expired. -/
theorem LobbyCache.reinject_valid_eq_false_iff {cache : LobbyCache} {i : Fin lobbyCacheSize}
    (valid : (cache.lobbies i).valid = true) (now : UInt64)
    : ((cache.reinject now).1.lobbies i).valid = false
      ↔ lobbyExpiryNs < armTicksToNs (now - (cache.lobbies i).timestamp) := by
  have expired : (cache.lobbies i).isExpired now = true
      ↔ lobbyExpiryNs < armTicksToNs (now - (cache.lobbies i).timestamp) := by
    rw [CachedLobby.isExpired, valid, Bool.true_and, decide_eq_true_iff]
  rw [← expired]
  simp only [reinject]
  by_cases counts : (cache.lobbies i).isExpired now = true
  · rw [if_pos counts]
    exact iff_of_true rfl counts
  · rw [if_neg counts, valid]
    exact iff_of_false Bool.true_eq_false.mp counts

/-- The test of the loop against the age at the time of the turn. -/
theorem thirtySeconds_iff_ordered {tick : UInt64} (behind : now ≤ tick)
    : (lobbyExpiryNs < armTicksToNs (now - timestamp) → ThirtySeconds timestamp tick)
      ↔ timestamp ≤ now ∨ ThirtySeconds timestamp tick ∨ LagWraps now timestamp := by
  have behind := UInt64.le_iff_toNat_le.mp behind
  by_cases stamped : timestamp ≤ now
  · refine iff_of_true ?_ (Or.inl stamped)
    intro expired
    have aged := thirtySeconds_of_expired stamped expired
    unfold ThirtySeconds at aged ⊢
    omega
  · have later : now ≤ timestamp := (UInt64.le_total now timestamp).resolve_right stamped
    rw [expired_iff_of_stamped_later later]
    tauto

theorem LobbyThreads.step_eq_some_iff {next : LobbyThreads} {event : LobbyEvent}
    {output : LobbyOutput}
    : threads.step event = some (next, output)
      ↔ threads.clock ≤ event.tick
        ∧ { threads with clock := event.tick }.perform event = some (next, output) := by
  unfold LobbyThreads.step
  by_cases back : event.tick < threads.clock
  · rw [if_pos back]
    exact iff_of_false (some_ne_none _).symm (fun both => UInt64.not_lt.mpr both.1 back)
  · rw [if_neg back]
    exact (and_iff_right (UInt64.not_lt.mp back)).symm

/-- One step keeps the fresh entries exactly when the stamps are in order. -/
theorem LobbyThreads.keepsFresh_iff (behind : threads.WaitsBehind) (event : LobbyEvent)
    : threads.KeepsFresh event ↔ threads.StampedInOrder event := by
  unfold LobbyThreads.KeepsFresh
  simp only [step_eq_some_iff]
  cases event with
  | store tick enabled payload =>
    refine iff_of_true ?_ trivial
    rintro next output ⟨_, performed⟩ i valid cleared
    cases performed
    dsimp only at cleared
    rcases threads.cache.storeIfScanresp_lobbies enabled tick payload i with kept | stored
    · rw [kept, valid] at cleared
      cases cleared
    · rw [stored] at cleared
      cases cleared
  | readClock tick enabled injectOpen =>
    refine iff_of_true ?_ trivial
    rintro next output ⟨_, performed⟩ i valid cleared
    simp only [perform] at performed
    split at performed
    · cases performed
    · cases performed
      rw [readClock_cache, valid] at cleared
      cases cleared
  | reinject tick =>
    simp only [LobbyThreads.StampedInOrder, perform]
    constructor
    · intro fresh now waiting clock i valid
      refine (thirtySeconds_iff_ordered (UInt64.le_trans (behind now waiting) clock)).mp ?_
      intro expired
      refine fresh _ _ ⟨clock, map_eq_some_iff.mpr ⟨now, waiting, rfl⟩⟩ i valid ?_
      exact (LobbyCache.reinject_valid_eq_false_iff valid now).mpr expired
    · rintro ordered next output ⟨clock, performed⟩ i valid cleared
      obtain ⟨now, waiting, same⟩ := map_eq_some_iff.mp performed
      cases same
      have expired := (LobbyCache.reinject_valid_eq_false_iff valid now).mp cleared
      exact (thirtySeconds_iff_ordered (UInt64.le_trans (behind now waiting) clock)).mpr
        (ordered now waiting clock i valid) expired

-- Runs

theorem LobbyThreads.readClock_waitsBehind (idle : ¬ threads.waiting.isSome = true)
    (read : now ≤ threads.clock) (enabled injectOpen : Bool)
    : (threads.readClock now enabled injectOpen).WaitsBehind := by
  have unchanged : threads.WaitsBehind := by
    intro time waiting
    rw [waiting] at idle
    exact absurd rfl idle
  unfold readClock
  split
  · exact unchanged
  · split
    · exact unchanged
    · split
      · exact unchanged
      · rintro time ⟨⟩
        exact read

/-- No run makes the capture thread wait with a time ahead of the clock. -/
theorem lobbyMachine_waitsBehind {history : List LobbyEvent}
    (reached : lobbyMachine.run (some .init) history = some threads)
    : threads.WaitsBehind := by
  refine Machine.failing_run_invariant LobbyThreads.WaitsBehind ?_ ?_ reached
  · intro threads event next output behind stepped
    obtain ⟨clock, performed⟩ := LobbyThreads.step_eq_some_iff.mp stepped
    cases event with
    | store tick enabled payload =>
      cases performed
      intro now waiting
      exact UInt64.le_trans (behind now waiting) clock
    | readClock tick enabled injectOpen =>
      simp only [LobbyThreads.perform] at performed
      split at performed
      · cases performed
      · rename_i idle
        cases performed
        refine LobbyThreads.readClock_waitsBehind ?_ ?_ enabled injectOpen
        · exact idle
        · exact UInt64.le_refl tick
    | reinject tick =>
      obtain ⟨now, _, same⟩ := map_eq_some_iff.mp performed
      cases same
      intro now waiting
      cases waiting
  · intro now waiting
    cases waiting

/-- An entry that a turn through the cache leaves valid is left alone. -/
theorem LobbyCache.reinject_lobbies_of_valid {cache : LobbyCache} {i : Fin lobbyCacheSize}
    (valid : ((cache.reinject now).1.lobbies i).valid = true)
    : (cache.reinject now).1.lobbies i = cache.lobbies i := by
  simp only [reinject] at valid ⊢
  by_cases counts : (cache.lobbies i).isExpired now = true
  · rw [if_pos counts] at valid
    cases valid
  · rw [if_neg counts]

/-- Re-injection clears no entry before it is 30 seconds old exactly when, on every turn through
the cache, no younger entry was stamped after the capture thread had read the clock, wrapped lags
apart.
-/
theorem fresh_lobbies_survive_iff (history : List LobbyEvent)
    : (∀ before event after,
        history = before ++ event :: after
        → ∀ threads,
            lobbyMachine.run (some .init) before = some threads → threads.KeepsFresh event)
      ↔ ∀ before event after,
          history = before ++ event :: after
          → ∀ threads,
              lobbyMachine.run (some .init) before = some threads
              → threads.StampedInOrder event := by
  constructor
  · intro fresh before event after split threads reached
    exact (LobbyThreads.keepsFresh_iff (lobbyMachine_waitsBehind reached) event).mp
      (fresh before event after split threads reached)
  · intro ordered before event after split threads reached
    exact (LobbyThreads.keepsFresh_iff (lobbyMachine_waitsBehind reached) event).mpr
      (ordered before event after split threads reached)

def scanAnswer : Bytes :=
  LdnMitm.LANPacketHeader.toBytes ⟨ldnMagic, LdnMitm.LANPacketType.scanResp.toByte, 0, 0, 0⟩

/-- The capture thread reads the clock; the receive thread stores a lobby one tick later; the
capture thread goes through the cache.
-/
def storedMeanwhile : List LobbyEvent :=
  [.readClock 1000 true true, .store 1001 true scanAnswer, .reinject 1002]

/-- The lobby is dropped one tick after it was stored. -/
theorem new_lobby_dropped
    : ∃ threads next output,
        lobbyMachine.run (some .init) (storedMeanwhile.take 2) = some threads
        ∧ threads.step (.reinject 1002) = some (next, output)
        ∧ (threads.cache.lobbies ⟨0, by decide⟩).valid = true
        ∧ (threads.cache.lobbies ⟨0, by decide⟩).timestamp = 1001
        ∧ (next.cache.lobbies ⟨0, by decide⟩).valid = false
        ∧ output = ⟨[⟨true, scanAnswer, 1001⟩], []⟩
        ∧ ¬ ThirtySeconds 1001 1002 := by
  have stepped
      : ((lobbyMachine.run (some .init) (storedMeanwhile.take 2)).bind fun threads =>
          (threads.step (.reinject 1002)).map fun outcome =>
            (threads.cache.lobbies ⟨0, by decide⟩, (outcome.1.cache.lobbies ⟨0, by decide⟩).valid,
              outcome.2))
        = some (⟨true, scanAnswer, 1001⟩, false, ⟨[⟨true, scanAnswer, 1001⟩], []⟩) := by
    decide +kernel
  obtain ⟨threads, reached, stepped⟩ := Option.bind_eq_some_iff.mp stepped
  obtain ⟨⟨next, output⟩, stepped, found⟩ := Option.map_eq_some_iff.mp stepped
  obtain ⟨before, after, dropped⟩ := Prod.mk.inj found |>.imp_right Prod.mk.inj
  refine ⟨threads, next, output, reached, stepped, ?_, ?_, after, dropped, by decide⟩
  · rw [before]
  · rw [before]

end SwitchLanPlay.Sysmodule
