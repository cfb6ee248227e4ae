import SwitchLanPlay.Sysmodule.Capture

/-! The frame buffer of the packet context, shared without a lock: the receive thread of the relay
and the capture thread both put frames together in it, octet by octet, and pass it on to
`tap_send_packet`.
-/

namespace SwitchLanPlay.Sysmodule

open List Function
open Foundation
open Packet

variable {point : SendPoint} {event : SendEvent}

variable {shared : SharedBuffer} {call : EtherCall} {offset : Nat}
  {lastCopy : Nat → Option EtherCall} {octet : UInt8} {thread : FrameThread}

/-- The threads that send frames: `lan_client_process` runs in the one, `process_ipv4` and
`process_icmp` run in the other.
-/
inductive FrameThread where
  | relay
  | capture
deriving DecidableEq, Repr

/-- A call of `send_ether_ex`. Its arguments are in memory of the calling thread. -/
structure EtherCall where
  dst : MacAddr
  src : MacAddr
  type : Nat
  payload : List Bytes
deriving DecidableEq, Repr

def EtherCall.parts (call : EtherCall) : List Bytes :=
  etherHeader call.dst call.src call.type :: call.payload

def EtherCall.frame (call : EtherCall) : Bytes := call.parts.flatten

/-- Where a thread is in `send_payloads`. The offset is `buf - buffer`, and also `total_len`, which
does not wrap in a buffer of this size.
-/
inductive SendPoint where
  | idle
  | atPart (call : EtherCall) (offset : Nat) (rest : List Bytes)
  | copying (call : EtherCall) (offset : Nat) (octets : Bytes) (rest : List Bytes)
  | delivering (call : EtherCall)
deriving DecidableEq, Repr

/-- The buffer and the threads. `lastCopy` is not in the source: it tells from which call each octet
of the buffer was copied last.
-/
structure SharedBuffer where
  buffer : Memory
  point : FrameThread → SendPoint
  lastCopy : Nat → Option EtherCall

def SharedBuffer.goTo (shared : SharedBuffer) (thread : FrameThread) (point : SendPoint)
    : SharedBuffer := { shared with point := Function.update shared.point thread point }

def SharedBuffer.copyOctet (shared : SharedBuffer) (call : EtherCall) (offset : Nat)
    (octet : UInt8)
    : SharedBuffer :=
  {
    shared with
    buffer := Function.update shared.buffer offset octet
    lastCopy := Function.update shared.lastCopy offset (some call)
  }

inductive SendEvent where
  | call (thread : FrameThread) (call : EtherCall)
  | advance (thread : FrameThread)
deriving DecidableEq, Repr

/-- The next thing a thread does in `send_payloads`, with the frame when it is handed to
`tap_send_packet`.
-/
def SharedBuffer.advance (shared : SharedBuffer) (thread : FrameThread)
    : SendPoint → Option (SharedBuffer × Option Bytes)
  | .idle => none
  | .atPart call offset [] =>
    some (shared.goTo thread (.delivering call), some (shared.buffer.read offset))
  | .atPart call offset (part :: rest) =>
    if bufferSize ≤ offset + part.length then some (shared.goTo thread .idle, none)
    else some (shared.goTo thread (.copying call offset part rest), none)
  | .copying call offset [] rest => some (shared.goTo thread (.atPart call offset rest), none)
  | .copying call offset (octet :: octets) rest =>
    some ((shared.copyOctet call offset octet).goTo thread
      (.copying call (offset + 1) octets rest), none)
  | .delivering _ => some (shared.goTo thread .idle, none)

def SharedBuffer.step (shared : SharedBuffer) : SendEvent → Option (SharedBuffer × Option Bytes)
  | .call thread call =>
    if shared.point thread = .idle then
      some (shared.goTo thread (.atPart call 0 call.parts), none)
    else none
  | .advance thread => shared.advance thread (shared.point thread)

def sendMachine : Machine (Option SharedBuffer) SendEvent (Option Bytes) :=
  Machine.failing SharedBuffer.step none

def SharedBuffer.init (buffer : Memory) : SharedBuffer := ⟨buffer, fun _ => .idle, fun _ => none⟩

def SendEvent.call? : SendEvent → Option EtherCall
  | .call _ sent => some sent
  | .advance _ => none

def calls (history : List SendEvent) : List EtherCall := history.filterMap SendEvent.call?

/-- When a thread is to hand over the frame, every octet of it was copied last from a call that has
the same octet there as one and the same call of this length.
-/
def SharedBuffer.OneCall (shared : SharedBuffer) (called : List EtherCall) (event : SendEvent)
    : Prop :=
  ∀ thread call offset,
    event = .advance thread
    → shared.point thread = .atPart call offset []
    → ∃ single ∈ called,
        single.frame.length = call.frame.length
        ∧ ∀ position < call.frame.length, ∀ last,
            shared.lastCopy position = some last
            → last.frame.getD position 0 = single.frame.getD position 0

-- What the buffer holds

/-- A call has copied its frame up to an offset and has some octets to go; others may have copied
over it meanwhile.
-/
structure Progress (lastCopy : Nat → Option EtherCall) (call : EtherCall) (offset : Nat)
    (todo : Bytes)
    : Prop where
  todo : call.frame.drop offset = todo
  inside : offset ≤ call.frame.length
  copied : ∀ position < offset, (lastCopy position).isSome = true

def SendPoint.Placed (lastCopy : Nat → Option EtherCall) : SendPoint → Prop
  | .idle => True
  | .atPart call offset rest => Progress lastCopy call offset rest.flatten
  | .copying call offset octets rest => Progress lastCopy call offset (octets ++ rest.flatten)
  | .delivering _ => True

/-- The octets of the buffer are those of the calls that copied last, and every thread is as far as
its offset says.
-/
structure SharedBuffer.Sound (shared : SharedBuffer) : Prop where
  octets
    : ∀ position call,
        shared.lastCopy position = some call
        → shared.buffer position = call.frame.getD position 0
  placed : ∀ thread, (shared.point thread).Placed shared.lastCopy

/-- A call that has nothing to go has copied its whole frame. -/
theorem Progress.offset_eq (progress : Progress lastCopy call offset [])
    : offset = call.frame.length :=
  Nat.le_antisymm progress.inside (drop_eq_nil_iff.mp progress.todo)

/-- The next octet of a call is the one of its frame. -/
theorem Progress.octet_eq {todo : Bytes} (progress : Progress lastCopy call offset (octet :: todo))
    : octet = call.frame.getD offset 0 := by
  have head : call.frame[offset]? = some octet := by
    rw [← head?_drop, progress.todo, head?_cons]
  rw [getD_eq_getElem?_getD, head]
  rfl

theorem Progress.next {todo : Bytes} (progress : Progress lastCopy call offset (octet :: todo))
    : Progress (Function.update lastCopy offset (some call)) call (offset + 1) todo where
  todo := by rw [← tail_drop, progress.todo, tail_cons]
  inside := by
    have left := congrArg List.length progress.todo
    rw [length_drop, length_cons] at left
    omega
  copied := by
    intro position below
    rw [update_apply]
    split
    · rfl
    · exact progress.copied position (by omega)

/-- A copy of another thread does not undo progress. -/
theorem SendPoint.Placed.update (placed : point.Placed lastCopy) (offset : Nat) (call : EtherCall)
    : point.Placed (Function.update lastCopy offset (some call)) := by
  have kept {other : EtherCall} {reached : Nat} {todo : Bytes}
      (progress : Progress lastCopy other reached todo)
      : Progress (Function.update lastCopy offset (some call)) other reached todo := by
    refine ⟨progress.todo, progress.inside, ?_⟩
    intro position below
    rw [update_apply]
    split
    · rfl
    · exact progress.copied position below
  cases point with
  | idle => trivial
  | atPart other reached rest => exact kept placed
  | copying other reached octets rest => exact kept placed
  | delivering other => trivial

/-- A thread that moves on leaves the buffer and the other threads alone. -/
theorem SharedBuffer.Sound.goTo (sound : shared.Sound) (placed : point.Placed shared.lastCopy)
    : (shared.goTo thread point).Sound where
  octets := sound.octets
  placed := by
    intro other
    unfold SharedBuffer.goTo
    dsimp only
    rw [update_apply]
    split
    · exact placed
    · exact sound.placed other

theorem SharedBuffer.Sound.copyOctet (sound : shared.Sound) (own : octet = call.frame.getD offset 0)
    : (shared.copyOctet call offset octet).Sound where
  octets := by
    intro position last
    simp only [SharedBuffer.copyOctet, update_apply]
    by_cases here : position = offset
    · subst here
      rw [if_pos rfl, if_pos rfl, Option.some.injEq]
      rintro rfl
      exact own
    · rw [if_neg here, if_neg here]
      exact sound.octets position last
  placed := fun thread => (sound.placed thread).update offset call

theorem SharedBuffer.Sound.step {next : SharedBuffer} {handed : Option Bytes} (sound : shared.Sound)
    (stepped : shared.step event = some (next, handed))
    : next.Sound := by
  cases event with
  | call thread call =>
    simp only [SharedBuffer.step] at stepped
    split at stepped
    · cases stepped
      exact sound.goTo ⟨rfl, Nat.zero_le _, fun _ below => absurd below (Nat.not_lt_zero _)⟩
    · cases stepped
  | advance thread =>
    simp only [SharedBuffer.step] at stepped
    have placed := sound.placed thread
    cases point : shared.point thread with
    | idle =>
      rw [point] at stepped
      cases stepped
    | atPart call offset rest =>
      rw [point] at stepped placed
      cases rest with
      | nil =>
        cases stepped
        exact sound.goTo trivial
      | cons part rest =>
        simp only [SharedBuffer.advance] at stepped
        split at stepped
        · cases stepped
          exact sound.goTo trivial
        · cases stepped
          exact sound.goTo placed
    | copying call offset octets rest =>
      rw [point] at stepped placed
      cases octets with
      | nil =>
        cases stepped
        exact sound.goTo placed
      | cons octet octets =>
        cases stepped
        exact (sound.copyOctet placed.octet_eq).goTo placed.next
    | delivering call =>
      rw [point] at stepped
      cases stepped
      exact sound.goTo trivial

theorem sendMachine_sound {memory : Memory} {history : List SendEvent}
    (reached : sendMachine.run (some (.init memory)) history = some shared)
    : shared.Sound := by
  refine Machine.failing_run_invariant SharedBuffer.Sound ?_ ?_ reached
  · intro shared event next handed sound stepped
    exact sound.step stepped
  · exact ⟨fun _ _ copied => absurd copied.symm (Option.some_ne_none _), fun _ => trivial⟩

-- The frame that is handed over

/-- The frame is handed over where the loop ends, and it is what the buffer holds then. -/
theorem SharedBuffer.exists_step_handed_iff {frame : Bytes}
    : (∃ next, shared.step event = some (next, some frame))
      ↔ ∃ thread call offset,
          event = .advance thread
          ∧ shared.point thread = .atPart call offset []
          ∧ shared.buffer.read offset = frame := by
  constructor
  · rintro ⟨next, stepped⟩
    cases event with
    | call thread call =>
      simp only [SharedBuffer.step] at stepped
      split at stepped <;> cases stepped
    | advance thread =>
      simp only [SharedBuffer.step] at stepped
      cases point : shared.point thread with
      | idle =>
        rw [point] at stepped
        cases stepped
      | atPart call offset rest =>
        rw [point] at stepped
        cases rest with
        | nil =>
          cases stepped
          exact ⟨thread, call, offset, rfl, point, rfl⟩
        | cons part rest =>
          simp only [SharedBuffer.advance] at stepped
          split at stepped <;> cases stepped
      | copying call offset octets rest =>
        rw [point] at stepped
        cases octets <;> cases stepped
      | delivering call =>
        rw [point] at stepped
        cases stepped
  · rintro ⟨thread, call, offset, rfl, point, rfl⟩
    refine ⟨shared.goTo thread (.delivering call), ?_⟩
    rw [SharedBuffer.step, point]
    rfl

/-- The buffer holds the frame of a call at the end of the loop exactly when each octet was copied
last from a call that has the same octet there.
-/
theorem SharedBuffer.Sound.read_eq_frame_iff (sound : shared.Sound)
    (point : shared.point thread = .atPart call offset []) (single : EtherCall)
    : shared.buffer.read offset = single.frame
      ↔ single.frame.length = call.frame.length
        ∧ ∀ position < call.frame.length, ∀ last,
            shared.lastCopy position = some last
            → last.frame.getD position 0 = single.frame.getD position 0 := by
  have progress := sound.placed thread
  rw [point] at progress
  have complete : offset = call.frame.length := Progress.offset_eq progress
  rw [Memory.read_eq_iff, complete]
  refine and_congr_right fun _ => forall₂_congr fun position below => ?_
  obtain ⟨last, copied⟩ := Option.isSome_iff_exists.mp (progress.copied position (complete ▸ below))
  rw [sound.octets position last copied]
  constructor
  · rintro same other found
    rw [copied, Option.some.injEq] at found
    rw [← found]
    exact same
  · intro same
    exact same last copied

def relayedCall : EtherCall := ⟨broadcastMac, noneMac, etherTypeIpv4, [[69]]⟩

def answeringCall : EtherCall := ⟨noneMac, noneMac, etherTypeIpv4, [[69]]⟩

/-- The relay thread copies its whole frame; before it hands it over, the capture thread copies the
first octet of its own.
-/
def overlappingCalls : List SendEvent :=
  .call .relay relayedCall :: List.replicate 19 (.advance .relay)
    ++ [.call .capture answeringCall, .advance .capture, .advance .capture]

end SwitchLanPlay.Sysmodule
