import SwitchLanPlay.Foundation.LastMark
import SwitchLanPlay.Sysmodule.LobbyExpiry

/-! Replacement in the lobby cache. One pass over the slots looks for the same lobby, a free slot
and the oldest entry. Over any run of the two threads a lobby has one entry, and an entry is given
up for another lobby only in a full cache, the oldest one first.
-/

namespace SwitchLanPlay.Sysmodule

open Function
open Foundation
open LdnMitm (LANPacketType readLANPacketHeader)

-- Lobbies by their identifier

theorem sameLobby_iff (cached payload : Bytes)
    : sameLobby cached payload = true
      ↔ ldnHeaderSize + 32 ≤ payload.length
        ∧ ldnHeaderSize + 32 ≤ cached.length
        ∧ slice cached ldnHeaderSize 32 = slice payload ldnHeaderSize 32 := by
  rw [sameLobby, decide_eq_true_iff]

theorem sameLobby_comm {left right : Bytes} (same : sameLobby left right = true)
    : sameLobby right left = true := by
  rw [sameLobby_iff] at same ⊢
  exact ⟨same.2.1, same.1, same.2.2.symm⟩

theorem sameLobby_trans {left middle right : Bytes} (first : sameLobby left middle = true)
    (second : sameLobby middle right = true)
    : sameLobby left right = true := by
  rw [sameLobby_iff] at first second ⊢
  exact ⟨second.1, first.2.1, first.2.2.trans second.2.2⟩

def LobbyCache.Unique (cache : LobbyCache) : Prop :=
  ∀ i j,
    (cache.lobbies i).valid = true
    → (cache.lobbies j).valid = true
    → sameLobby (cache.lobbies i).data (cache.lobbies j).data = true
    → i = j

def LobbyCache.Lacks (cache : LobbyCache) (payload : Bytes) : Prop :=
  ∀ i, (cache.lobbies i).valid = true → sameLobby (cache.lobbies i).data payload = false

def LobbyCache.Full (cache : LobbyCache) : Prop := ∀ i, (cache.lobbies i).valid = true

def LobbyCache.IsOldest (cache : LobbyCache) (i : Fin lobbyCacheSize) : Prop :=
  ∀ j, (cache.lobbies i).timestamp ≤ (cache.lobbies j).timestamp

structure IsStored (enabled : Bool) (payload : Bytes) : Prop where
  enabled : enabled = true
  header : ldnHeaderSize ≤ payload.length
  magic : (readLANPacketHeader payload).magic = ldnMagic
  type : (readLANPacketHeader payload).type = LANPacketType.scanResp.toByte
  fits : payload.length ≤ 2048

-- The search for a slot

inductive LobbyCache.Chooses (cache : LobbyCache) (payload : Bytes) (slot : Fin lobbyCacheSize)
    : Prop
  | same (valid : (cache.lobbies slot).valid = true)
      (lobby : sameLobby (cache.lobbies slot).data payload = true)
  | free (invalid : (cache.lobbies slot).valid = false) (lacks : cache.Lacks payload)
  | oldest (full : cache.Full) (lacks : cache.Lacks payload) (least : cache.IsOldest slot)

/-- What the search knows when it has passed the slots of `passed`. -/
structure LobbyScanned (cache : LobbyCache) (payload : Bytes)
    (passed : List (Fin lobbyCacheSize)) (slot : Option (Fin lobbyCacheSize))
    (oldestSlot : Fin lobbyCacheSize) (oldestTick : UInt64)
    : Prop where
  lacks
    : ∀ i ∈ passed,
        (cache.lobbies i).valid = true → sameLobby (cache.lobbies i).data payload = false
  free : ∀ i, slot = some i → (cache.lobbies i).valid = false
  full : slot = none → ∀ i ∈ passed, (cache.lobbies i).valid = true
  unset : oldestTick = 0 → ∀ i ∈ passed, (cache.lobbies i).valid = false
  stamp : oldestTick ≠ 0 → (cache.lobbies oldestSlot).timestamp = oldestTick
  least
    : ∀ i ∈ passed,
        (cache.lobbies i).valid = true → oldestTick ≤ (cache.lobbies i).timestamp

theorem LobbyScanned.nil (cache : LobbyCache) (payload : Bytes) (first : Fin lobbyCacheSize)
    : LobbyScanned cache payload [] none first 0 where
  lacks := by simp
  free := by simp
  full := by simp
  unset := by simp
  stamp unset := absurd rfl unset
  least := by simp

section Scan

variable {cache : LobbyCache} {payload : Bytes} {passed : List (Fin lobbyCacheSize)}
  {slot : Option (Fin lobbyCacheSize)} {oldestSlot i : Fin lobbyCacheSize} {oldestTick : UInt64}

/-- A slot that is not valid is taken down as free, if it is the first one. -/
theorem LobbyScanned.pass_invalid
    (scanned : LobbyScanned cache payload passed slot oldestSlot oldestTick)
    (invalid : (cache.lobbies i).valid = false)
    : LobbyScanned cache payload (passed ++ [i]) (slot <|> some i) oldestSlot oldestTick where
  lacks := forall_mem_concat.mpr ⟨scanned.lacks, fun valid => absurd valid (by simp [invalid])⟩
  free := by
    intro j chosen
    cases found : slot with
    | none =>
      rw [found] at chosen
      cases chosen
      exact invalid
    | some first =>
      rw [found] at chosen
      cases chosen
      exact scanned.free j found
  full none := by
    cases found : slot with
    | none =>
      rw [found] at none
      cases none
    | some first =>
      rw [found] at none
      cases none
  unset zero := forall_mem_concat.mpr ⟨scanned.unset zero, invalid⟩
  stamp := scanned.stamp
  least := forall_mem_concat.mpr ⟨scanned.least, fun valid => absurd valid (by simp [invalid])⟩

/-- An entry of another lobby is taken down if it is the oldest so far. -/
theorem LobbyScanned.pass_older
    (scanned : LobbyScanned cache payload passed slot oldestSlot oldestTick)
    (valid : (cache.lobbies i).valid = true)
    (other : sameLobby (cache.lobbies i).data payload = false)
    (stamped : (cache.lobbies i).timestamp ≠ 0)
    (older : oldestTick = 0 ∨ (cache.lobbies i).timestamp < oldestTick)
    : LobbyScanned cache payload (passed ++ [i]) slot i (cache.lobbies i).timestamp where
  lacks := forall_mem_concat.mpr ⟨scanned.lacks, fun _ => other⟩
  free := scanned.free
  full none := forall_mem_concat.mpr ⟨scanned.full none, valid⟩
  unset zero := absurd zero stamped
  stamp _ := rfl
  least := by
    refine forall_mem_concat.mpr ⟨?_, fun _ => UInt64.le_refl _⟩
    intro j member held
    rcases older with unset | earlier
    · exact absurd held (by simp [scanned.unset unset j member])
    · exact UInt64.le_trans (UInt64.le_of_lt earlier) (scanned.least j member held)

theorem LobbyScanned.pass_younger
    (scanned : LobbyScanned cache payload passed slot oldestSlot oldestTick)
    (valid : (cache.lobbies i).valid = true)
    (other : sameLobby (cache.lobbies i).data payload = false)
    (younger : ¬ (oldestTick = 0 ∨ (cache.lobbies i).timestamp < oldestTick))
    : LobbyScanned cache payload (passed ++ [i]) slot oldestSlot oldestTick where
  lacks := forall_mem_concat.mpr ⟨scanned.lacks, fun _ => other⟩
  free := scanned.free
  full none := forall_mem_concat.mpr ⟨scanned.full none, valid⟩
  unset zero := absurd (Or.inl zero) younger
  stamp := scanned.stamp
  least := forall_mem_concat.mpr ⟨scanned.least, fun _ => UInt64.not_lt.mp (not_or.mp younger).2⟩

/-- A search that has passed all slots has chosen one. -/
theorem LobbyScanned.chooses
    (scanned : LobbyScanned cache payload passed slot oldestSlot oldestTick)
    (all : ∀ i, i ∈ passed)
    : cache.Chooses payload (slot.getD oldestSlot) := by
  have lacks : cache.Lacks payload := fun i => scanned.lacks i (all i)
  cases found : slot with
  | some free => exact .free (scanned.free free found) lacks
  | none =>
    have full : cache.Full := fun i => scanned.full found i (all i)
    -- some entry was passed, so the oldest one is set
    have set : oldestTick ≠ 0 := by
      intro zero
      have invalid := scanned.unset zero oldestSlot (all oldestSlot)
      rw [full oldestSlot] at invalid
      cases invalid
    refine .oldest full lacks fun i => ?_
    rw [Option.getD_none, scanned.stamp set]
    exact scanned.least i (all i) (full i)

/-- The search chooses the slot of the lobby, else a free one, else the oldest. -/
theorem lobbyScan_chooses
    (stamped : ∀ i, (cache.lobbies i).valid = true → (cache.lobbies i).timestamp ≠ 0)
    {rest : List (Fin lobbyCacheSize)} (all : ∀ i, i ∈ passed ++ rest)
    (scanned : LobbyScanned cache payload passed slot oldestSlot oldestTick)
    : cache.Chooses payload (lobbyScan cache.lobbies payload rest slot oldestSlot oldestTick) := by
  induction rest generalizing passed slot oldestSlot oldestTick with
  | nil =>
    rw [List.append_nil] at all
    exact scanned.chooses all
  | cons i rest ih =>
    have next : ∀ j, j ∈ passed ++ [i] ++ rest := by
      simpa only [List.append_assoc, List.singleton_append] using all
    rw [lobbyScan]
    cases valid : (cache.lobbies i).valid with
    | false => exact ih next (scanned.pass_invalid valid)
    | true =>
      cases same : sameLobby (cache.lobbies i).data payload with
      | true => exact .same valid same
      | false =>
        by_cases older : oldestTick = 0 ∨ (cache.lobbies i).timestamp < oldestTick
        · simp only [Bool.not_true, Bool.false_eq_true, if_false, if_pos older]
          exact ih next (scanned.pass_older valid same (stamped i valid) older)
        · simp only [Bool.not_true, Bool.false_eq_true, if_false, if_neg older]
          exact ih next (scanned.pass_younger valid same older)

end Scan

-- A store

namespace LobbyCache

structure Sound (cache : LobbyCache) : Prop where
  ready : cache.ready = true
  stamped : ∀ i, (cache.lobbies i).valid = true → (cache.lobbies i).timestamp ≠ 0
  unique : cache.Unique

theorem init_sound : LobbyCache.init.Sound where
  ready := rfl
  stamped _ valid := absurd valid Bool.false_ne_true
  unique _ _ valid := absurd valid Bool.false_ne_true

/-- A packet that is stored is put into the slot that the search chooses. -/
theorem storeIfScanresp_chooses {cache : LobbyCache} (sound : cache.Sound)
    {enabled : Bool} {payload : Bytes} (stored : IsStored enabled payload) (tick : UInt64)
    : ∃ slot,
        cache.Chooses payload slot
        ∧ cache.storeIfScanresp enabled tick payload
          = { cache with lobbies := update cache.lobbies slot ⟨true, payload, tick⟩ } := by
  have chosen := @lobbyScan_chooses cache payload [] none ⟨0, by decide⟩ 0 sound.stamped
    (List.finRange lobbyCacheSize) List.mem_finRange (.nil cache payload _)
  refine ⟨_, chosen, ?_⟩
  have scanResp : ¬ ((readLANPacketHeader payload).magic ≠ ldnMagic
      ∨ (readLANPacketHeader payload).type ≠ LANPacketType.scanResp.toByte) :=
    not_or.mpr ⟨not_not_intro stored.magic, not_not_intro stored.type⟩
  unfold storeIfScanresp
  rw [sound.ready, stored.enabled, if_neg (by decide), if_neg (Nat.not_lt.mpr stored.header),
    if_neg scanResp, if_neg (Nat.not_lt.mpr stored.fits)]

/-- Other packets leave the cache alone. -/
theorem storeIfScanresp_other (cache : LobbyCache) {enabled : Bool} {payload : Bytes}
    (other : ¬ IsStored enabled payload) (tick : UInt64)
    : cache.storeIfScanresp enabled tick payload = cache := by
  unfold storeIfScanresp
  dsimp only
  split
  · rfl
  rename_i running
  split
  · rfl
  rename_i header
  split
  · rfl
  rename_i scanResp
  split
  · rfl
  rename_i fits
  rw [not_or, not_not, not_not] at scanResp
  have enabledOn : enabled = true := by
    cases enabled with
    | true => rfl
    | false => simp at running
  exact absurd ⟨enabledOn, Nat.not_lt.mp header, scanResp.1, scanResp.2, Nat.not_lt.mp fits⟩ other

/-- The lobby of a stored packet is in no other slot. -/
theorem Chooses.elsewhere {cache : LobbyCache} {payload : Bytes}
    {slot i : Fin lobbyCacheSize} (chooses : cache.Chooses payload slot) (unique : cache.Unique)
    (apart : i ≠ slot) (valid : (cache.lobbies i).valid = true)
    : sameLobby (cache.lobbies i).data payload = false := by
  cases chooses with
  | same held lobby =>
    rw [Bool.eq_false_iff]
    intro same
    exact apart (unique i slot valid held (sameLobby_trans same (sameLobby_comm lobby)))
  | free _ lacks => exact lacks i valid
  | oldest _ lacks _ => exact lacks i valid

theorem Sound.store {cache : LobbyCache} (sound : cache.Sound) (enabled : Bool)
    {tick : UInt64} (positive : tick ≠ 0) (payload : Bytes)
    : (cache.storeIfScanresp enabled tick payload).Sound := by
  by_cases stored : IsStored enabled payload
  · obtain ⟨slot, chooses, after⟩ := storeIfScanresp_chooses sound stored tick
    have elsewhere {i : Fin lobbyCacheSize} (apart : i ≠ slot)
        (valid : (cache.lobbies i).valid = true)
        : ¬ sameLobby (cache.lobbies i).data payload = true := by
      rw [chooses.elsewhere sound.unique apart valid]
      exact Bool.false_ne_true
    rw [after]
    refine ⟨sound.ready, ?_, ?_⟩
    · intro i valid
      by_cases here : i = slot
      · rw [here]
        dsimp only
        rwa [update_self]
      · dsimp only at valid ⊢
        rw [update_of_ne here] at valid ⊢
        exact sound.stamped i valid
    · intro i j validI validJ same
      dsimp only at validI validJ same
      by_cases hereI : i = slot
      · by_cases hereJ : j = slot
        · rw [hereI, hereJ]
        · rw [update_of_ne hereJ] at validJ same
          rw [hereI, update_self] at same
          exact absurd (sameLobby_comm same) (elsewhere hereJ validJ)
      · rw [update_of_ne hereI] at validI same
        by_cases hereJ : j = slot
        · rw [hereJ, update_self] at same
          exact absurd same (elsewhere hereI validI)
        · rw [update_of_ne hereJ] at validJ same
          exact sound.unique i j validI validJ same
  · rw [cache.storeIfScanresp_other stored]
    exact sound

/-- A turn through the cache only clears entries. -/
theorem Sound.reinject {cache : LobbyCache} (sound : cache.Sound) (now : UInt64)
    : (cache.reinject now).1.Sound := by
  have kept {i : Fin lobbyCacheSize} (valid : ((cache.reinject now).1.lobbies i).valid = true)
      : (cache.reinject now).1.lobbies i = cache.lobbies i := reinject_lobbies_of_valid valid
  refine ⟨sound.ready, ?_, ?_⟩
  · intro i valid
    have same := kept valid
    rw [same] at valid ⊢
    exact sound.stamped i valid
  · intro i j validI validJ same
    have left := kept validI
    have right := kept validJ
    rw [left] at validI same
    rw [right] at validJ same
    exact sound.unique i j validI validJ same

end LobbyCache

-- Runs

theorem LobbyThreads.step_sound {threads next : LobbyThreads} {event : LobbyEvent}
    {output : LobbyOutput} (sound : threads.cache.Sound) (positive : 0 < event.tick)
    (stepped : threads.step event = some (next, output))
    : next.cache.Sound := by
  obtain ⟨_, performed⟩ := step_eq_some_iff.mp stepped
  cases event with
  | store tick enabled payload =>
    cases performed
    exact sound.store enabled (UInt64.ne_of_lt positive).symm payload
  | readClock tick enabled injectOpen =>
    simp only [perform] at performed
    split at performed
    · cases performed
    · cases performed
      rw [readClock_cache]
      exact sound
  | reinject tick =>
    obtain ⟨now, _, same⟩ := Option.map_eq_some_iff.mp performed
    cases same
    exact sound.reinject now

theorem lobbyMachine_sound {history : List LobbyEvent} {threads : LobbyThreads}
    (positive : ∀ event ∈ history, 0 < event.tick)
    (reached : lobbyMachine.run (some .init) history = some threads)
    : threads.cache.Sound := by
  refine Machine.failing_run_induction
    (fun history (threads : LobbyThreads) =>
      (∀ event ∈ history, 0 < event.tick) → threads.cache.Sound)
    ?_ ?_ reached positive
  · intro _
    exact LobbyCache.init_sound
  · intro history threads event next output sound stepped positive
    obtain ⟨earlier, last⟩ := forall_mem_concat.mp positive
    exact LobbyThreads.step_sound (sound earlier) last stepped

/-- In every state that is reached with positive ticks each lobby has one entry, and whatever is
stored next is there afterwards. An entry of another lobby is given up only if the cache is full and
has no entry of the packet's lobby, and then it is one with the least timestamp.
-/
theorem lobby_replacement {history : List LobbyEvent} {threads : LobbyThreads}
    (positive : ∀ event ∈ history, 0 < event.tick)
    (reached : lobbyMachine.run (some .init) history = some threads)
    : threads.cache.Unique
      ∧ ∀ (enabled : Bool) (tick : UInt64) (payload : Bytes),
          let after := threads.cache.storeIfScanresp enabled tick payload
          (¬ IsStored enabled payload → after = threads.cache)
          ∧ (IsStored enabled payload
            → (∃ i, after.lobbies i = ⟨true, payload, tick⟩)
              ∧ (∀ i,
                  (threads.cache.lobbies i).valid = true
                  → after.lobbies i ≠ threads.cache.lobbies i
                  → sameLobby (threads.cache.lobbies i).data payload = true
                    ∨ (threads.cache.Full
                      ∧ threads.cache.Lacks payload
                      ∧ threads.cache.IsOldest i))
              ∧ (threads.cache.Full
                → threads.cache.Lacks payload
                → ∃ i,
                    threads.cache.IsOldest i
                    ∧ after.lobbies
                      = Function.update threads.cache.lobbies i ⟨true, payload, tick⟩)) := by
  have sound := lobbyMachine_sound positive reached
  refine ⟨sound.unique, fun enabled tick payload => ⟨fun other => ?_, fun stored => ?_⟩⟩
  · exact threads.cache.storeIfScanresp_other other tick
  obtain ⟨slot, chooses, after⟩ := LobbyCache.storeIfScanresp_chooses sound stored tick
  rw [after]
  refine ⟨⟨slot, Function.update_self ..⟩, ?_, ?_⟩
  · intro i valid changed
    have here : i = slot := by
      by_contra apart
      exact changed (Function.update_of_ne apart _ _)
    subst here
    cases chooses with
    | same _ lobby => exact .inl lobby
    | free invalid _ => exact absurd valid (by simp [invalid])
    | oldest full lacks least => exact .inr ⟨full, lacks, least⟩
  · intro full lacks
    refine ⟨slot, ?_, rfl⟩
    cases chooses with
    | same valid lobby => exact absurd lobby (by simp [lacks slot valid])
    | free invalid _ => exact absurd (full slot) (by simp [invalid])
    | oldest _ _ least => exact least

theorem lobby_replacement_storedMeanwhile
    : ∃ threads,
        lobbyMachine.run (some .init) storedMeanwhile = some threads ∧ threads.cache.Unique := by
  have ran : (lobbyMachine.run (some .init) storedMeanwhile).isSome = true := by decide +kernel
  obtain ⟨threads, reached⟩ := Option.isSome_iff_exists.mp ran
  exact ⟨threads, reached, (lobby_replacement (by decide) reached).1⟩

end SwitchLanPlay.Sysmodule
