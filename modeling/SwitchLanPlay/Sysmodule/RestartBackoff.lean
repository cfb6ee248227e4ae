import SwitchLanPlay.Foundation.Machine

/-! The loop of `main` that waits for LDN activity, runs the service and sleeps before it runs it
again.
-/

namespace SwitchLanPlay.Sysmodule

open Foundation

/-- A turn of the loop in `wait_for_ldn_activity`: `pgl_monitor_available`, `pgl_has_application`,
and `ldn_gate_is_active_for_start` behind `ldn_gate_poll`.
-/
structure WaitTurn where
  pglAvailable : Bool
  hasApplication : Bool
  activeForStart : Bool
deriving DecidableEq, Repr

/-- The loop in `wait_for_ldn_activity`; nothing if it has not returned yet. -/
def waitLoop : List WaitTurn → Option Bool
  | [] => none
  | turn :: turns =>
    if turn.pglAvailable && !turn.hasApplication then waitLoop turns
    else if turn.activeForStart then some true
    else waitLoop turns

def waitForLdnActivity (gateEnabled : Bool) (turns : List WaitTurn) : Option Bool :=
  if gateEnabled then waitLoop turns else some true

/-- A turn of the loop in `main`: whether the gate is enabled for `main` and for
`wait_for_ldn_activity`, the turns of the latter, and what `run_service` returns.
-/
structure MainTurn where
  gateEnabled : Bool
  stillEnabled : Bool
  waits : List WaitTurn
  service : Int
deriving DecidableEq, Repr

def doubleDelay : Nat → Nat → Nat
  | 0, delay => delay
  | turns + 1, delay => if delay < 60 then doubleDelay turns (delay * 2) else delay

def restartDelay (restartCount : Nat) : Nat :=
  let delay := doubleDelay (restartCount - 1) 3
  if 60 < delay then 60 else delay

/-- The end of a turn: `run_service` has ended for good, or was not called, or a sleep before it is
called again.
-/
inductive TurnEnd where
  | ended
  | notStarted
  | sleeps (seconds : Nat)
deriving DecidableEq, Repr

/-- A turn, with `restart_count`; nothing afterwards if `main` returns or still waits. -/
def mainStep (restartCount : Nat) (turn : MainTurn) : Option (Nat × TurnEnd) :=
  let runService (restartCount : Nat) : Option (Nat × TurnEnd) :=
    if turn.service = 0 then none
    else some (restartCount + 1, .sleeps (restartDelay (restartCount + 1)))
  if turn.gateEnabled then
    match waitForLdnActivity turn.stillEnabled turn.waits with
    | none => none
    | some false => some (restartCount, .notStarted)
    | some true => runService 0
  else runService 0

def mainLoop : Machine (Option Nat) MainTurn TurnEnd := .failing mainStep .ended

/-- A turn in which the service fails, with the gate enabled and active whenever it is asked. -/
structure MainTurn.FailsActive (turn : MainTurn) : Prop where
  gateEnabled : turn.gateEnabled = true
  stillEnabled : turn.stillEnabled = true
  active : ∀ wait ∈ turn.waits, wait.activeForStart = true
  asked : ∃ wait ∈ turn.waits, wait.pglAvailable = false ∨ wait.hasApplication = true
  fails : turn.service ≠ 0

theorem min_doubleDelay (turns delay : Nat)
    : min 60 (doubleDelay turns delay) = min 60 (delay * 2 ^ turns) := by
  induction turns generalizing delay with
  | zero => rw [doubleDelay, Nat.pow_zero, Nat.mul_one]
  | succ turns ih =>
    rw [doubleDelay]
    split
    · rw [ih, Nat.pow_succ, Nat.mul_right_comm, Nat.mul_assoc]
    · have := Nat.mul_le_mul_left delay (@Nat.one_le_two_pow (turns + 1))
      omega

/-- The delay is right for the number of restarts it is computed from. -/
theorem restartDelay_eq (restartCount : Nat)
    : restartDelay restartCount = min 60 (3 * 2 ^ (restartCount - 1)) := by
  rw [← min_doubleDelay, restartDelay]
  split <;> omega

theorem waitLoop_of_active {turns : List WaitTurn}
    (active : ∀ wait ∈ turns, wait.activeForStart = true)
    (asked : ∃ wait ∈ turns, wait.pglAvailable = false ∨ wait.hasApplication = true)
    : waitLoop turns = some true := by
  induction turns with
  | nil => simp at asked
  | cons turn turns ih =>
    rw [List.forall_mem_cons] at active
    rw [waitLoop, if_pos active.1]
    split
    · next blocked =>
        rw [Bool.and_eq_true, Bool.not_eq_true'] at blocked
        refine ih active.2 ?_
        obtain ⟨wait, member, passes⟩ := asked
        rcases List.mem_cons.mp member with rfl | later
        · simp [blocked] at passes
        · exact ⟨wait, later, passes⟩
    · rfl

/-- A fresh activation or not, the count starts again. -/
theorem MainTurn.FailsActive.step_eq {turn : MainTurn} (failing : turn.FailsActive)
    (restartCount : Nat)
    : mainLoop.step (some restartCount) turn = (some 1, .sleeps (restartDelay 1)) := by
  have stepped : mainStep restartCount turn = some (1, .sleeps (restartDelay 1)) := by
    rw [mainStep, if_pos failing.gateEnabled, waitForLdnActivity, if_pos failing.stillEnabled,
      waitLoop_of_active failing.active failing.asked]
    exact if_neg failing.fails
  simp [mainLoop, Machine.failing, stepped]

theorem run_isSome_of_failsActive {fails : List MainTurn}
    (failing : ∀ turn ∈ fails, turn.FailsActive) (restartCount : Nat)
    : (mainLoop.run (some restartCount) fails).isSome := by
  induction fails generalizing restartCount with
  | nil => rfl
  | cons turn fails ih =>
    rw [List.forall_mem_cons] at failing
    rw [Machine.run_cons, failing.1.step_eq]
    exact ih failing.2 1

/-- After failures in a row, the sleep is the one for their number if and only if there was one. -/
theorem backoff_grows_iff {history fails : List MainTurn} (some_ : fails ≠ [])
    (running : (mainLoop.run (some 0) history).isSome)
    (failing : ∀ turn ∈ fails, turn.FailsActive)
    : (mainLoop.outputs (some 0) (history ++ fails)).getLast?
        = some (.sleeps (min 60 (3 * 2 ^ (fails.length - 1))))
      ↔ fails.length = 1 := by
  obtain ⟨front, last, rfl⟩ := (List.eq_nil_or_concat' fails).resolve_left some_
  obtain ⟨earlier, ends⟩ := List.forall_mem_append.mp failing
  rw [List.forall_mem_singleton] at ends
  obtain ⟨started, begun⟩ := Option.isSome_iff_exists.mp running
  obtain ⟨restartCount, reached⟩ :=
    Option.isSome_iff_exists.mp (run_isSome_of_failsActive earlier started)
  rw [← List.append_assoc, Machine.outputs_concat, Machine.run_append, begun, reached,
    ends.step_eq, List.getLast?_concat, restartDelay_eq, List.length_append,
    List.length_singleton, Nat.add_sub_cancel, Nat.sub_self, Option.some.injEq,
    TurnEnd.sleeps.injEq]
  cases front with
  | nil => simp
  | cons turn front =>
    have := Nat.mul_le_mul_left 2 (@Nat.one_le_two_pow front.length)
    rw [List.length_cons, Nat.pow_succ]
    omega

def failedTurn : MainTurn := ⟨true, true, [⟨false, false, true⟩], -1⟩

theorem failsActive_failedTurn : failedTurn.FailsActive :=
  ⟨rfl, rfl, by decide, by decide, by decide⟩

theorem backoff_grows_iff_twoFailures
    : (mainLoop.outputs (some 0) ([] ++ [failedTurn, failedTurn])).getLast?
        = some (.sleeps (min 60 (3 * 2 ^ ([failedTurn, failedTurn].length - 1))))
      ↔ [failedTurn, failedTurn].length = 1 :=
  backoff_grows_iff (List.cons_ne_nil _ _) rfl
    (by simp [failsActive_failedTurn])

/-- The sleep after the second failure is the first one again. -/
theorem backoff_stays
    : mainLoop.outputs (some 0) [failedTurn, failedTurn] = [.sleeps 3, .sleeps 3] := by
  decide

end SwitchLanPlay.Sysmodule
