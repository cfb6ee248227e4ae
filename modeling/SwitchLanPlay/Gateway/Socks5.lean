import SwitchLanPlay.Foundation.Machine
import SwitchLanPlay.Packet.Address

/-! The negotiation of `Socks5Protocol::connect` with a proxy. Each reply is left to a handler that
takes one data event, whatever part of the stream that event has.
-/

namespace SwitchLanPlay.Gateway

open List
open Foundation
open Packet

inductive Socks5ErrCode where
  | versionMismatch
  | unexpectMethod
  | unexpectResponse
  | unexpectAddressType
  | unexpectLength
  | credentialTooLong
deriving DecidableEq, Repr

/-- `Socks5Protocol`: the credentials of its configuration, and the target of `connect`. -/
structure Socks5Protocol where
  username : Bytes
  password : Bytes
  addr : Ipv4Addr
  port : Nat

/-- What takes the next data event: the handler of the method reply, of the reply to the
credentials or of the connect reply, the user's `dataCallback`, which has got some octets, or
nothing behind an error, as the connection is closed.
-/
inductive Socks5Stage where
  | method
  | auth
  | reply
  | ready (relayed : Bytes)
  | failed (code : Socks5ErrCode)
deriving DecidableEq, Repr

def Socks5Protocol.authRequest (protocol : Socks5Protocol) : Bytes :=
  [1, UInt8.ofNat protocol.username.length] ++ protocol.username
    ++ [UInt8.ofNat protocol.password.length] ++ protocol.password

def Socks5Protocol.connectRequest (protocol : Socks5Protocol) : Bytes :=
  [5, 1, 0, 1] ++ protocol.addr.toBytes ++ be16 protocol.port

def Socks5Protocol.Short (protocol : Socks5Protocol) : Prop :=
  protocol.username.length ≤ 255 ∧ protocol.password.length ≤ 255

instance (protocol : Socks5Protocol) : Decidable protocol.Short :=
  inferInstanceAs (Decidable (_ ∧ _))

def Socks5Stage.onData (protocol : Socks5Protocol) (stage : Socks5Stage) (data : Bytes)
    : Socks5Stage × List Bytes :=
  match stage with
  | .method =>
    if data.length ≠ 2 then (.failed .unexpectLength, [])
    else if data.getD 0 0 ≠ 5 then (.failed .versionMismatch, [])
    else if data.getD 1 0 = 0 then (.reply, [protocol.connectRequest])
    else if data.getD 1 0 = 2 then
      if protocol.Short then (.auth, [protocol.authRequest]) else (.failed .credentialTooLong, [])
    else (.failed .unexpectMethod, [])
  | .auth =>
    if data.length ≠ 2 then (.failed .unexpectLength, [])
    else if data.getD 0 0 ≠ 1 then (.failed .versionMismatch, [])
    else if data.getD 1 0 ≠ 0 then (.failed .unexpectResponse, [])
    else (.reply, [protocol.connectRequest])
  | .reply =>
    if data.length ≠ 10 then (.failed .unexpectLength, [])
    else if data.getD 0 0 ≠ 5 then (.failed .versionMismatch, [])
    else if data.getD 1 0 ≠ 0 then (.failed .unexpectResponse, [])
    else if data.getD 3 0 ≠ 1 then (.failed .unexpectAddressType, [])
    else (.ready [], [])
  | .ready relayed => (.ready (relayed ++ data), [])
  | .failed code => (.failed code, [])

def socks5 (protocol : Socks5Protocol) : Machine Socks5Stage Bytes (List Bytes) :=
  ⟨Socks5Stage.onData protocol⟩

-- The replies of a stream

def Socks5Stage.replyLength? : Socks5Stage → Option Nat
  | .method | .auth => some 2
  | .reply => some 10
  | .ready _ | .failed _ => none

/-- The lengths of the replies that a proxy's stream has from here on. -/
def Socks5Stage.replyLengths (protocol : Socks5Protocol) (stage : Socks5Stage) (stream : Bytes)
    : List Nat :=
  match stage with
  | .method =>
    if stream.take 2 = [5, 0] then [2, 10]
    else if stream.take 2 = [5, 2] ∧ protocol.Short then
      if (stream.drop 2).take 2 = [1, 0] then [2, 2, 10] else [2, 2]
    else [2]
  | .auth => if stream.take 2 = [1, 0] then [2, 10] else [2]
  | .reply => [10]
  | .ready _ | .failed _ => []

def OneEach (lengths : List Nat) (segments : List Bytes) : Prop :=
  (segments.map List.length).take lengths.length = lengths.take segments.length

section Segments

variable {protocol : Socks5Protocol} {length : Nat} {stage : Socks5Stage}
  {data : Bytes} {segments : List Bytes}

theorem oneEach_cons_iff {lengths : List Nat}
    : OneEach (length :: lengths) (data :: segments)
      ↔ data.length = length ∧ OneEach lengths segments := by
  simp only [OneEach, map_cons, length_cons, take_succ_cons, List.cons.injEq]

theorem Socks5Stage.replyLengths_eq_cons (waits : stage.replyLength? = some length)
    (stream : Bytes)
    : ∃ more, stage.replyLengths protocol stream = length :: more := by
  cases stage <;> cases waits
  case method =>
    simp only [replyLengths]
    split_ifs <;> exact ⟨_, rfl⟩
  case auth =>
    simp only [replyLengths]
    split_ifs <;> exact ⟨_, rfl⟩
  case reply => exact ⟨[], rfl⟩

theorem Socks5Stage.onData_of_length_ne (waits : stage.replyLength? = some length)
    (other : data.length ≠ length)
    : stage.onData protocol data = (.failed .unexpectLength, []) := by
  cases stage <;> cases waits <;> exact if_pos other

/-- A reply in one event leaves the replies behind it. -/
theorem Socks5Stage.onData_of_length_eq (waits : stage.replyLength? = some length)
    (whole : data.length = length) (rest : Bytes)
    : stage.replyLengths protocol (data ++ rest)
        = length :: (stage.onData protocol data).1.replyLengths protocol rest
      ∧ (stage.onData protocol data).1 ≠ .failed .unexpectLength := by
  cases stage <;> cases waits
  case method =>
    obtain ⟨version, method, rfl⟩ := length_eq_two.mp whole
    by_cases right : version = 5
    · by_cases plain : method = 0
      · simp [replyLengths, onData, right, plain]
      · by_cases credentials : method = 2 ∧ protocol.Short
        · simp only [replyLengths, onData, right, credentials]
          simp
          split_ifs <;> rfl
        · by_cases two : method = 2 <;> simp_all [replyLengths, onData]
    · simp [replyLengths, onData, right]
  case auth =>
    obtain ⟨version, status, rfl⟩ := length_eq_two.mp whole
    by_cases right : version = 1 <;> by_cases accepted : status = 0 <;>
      simp [replyLengths, onData, right, accepted]
  case reply =>
    simp only [replyLengths, onData, whole]
    split_ifs <;> simp_all

/-- One event for each reply, at the first event. -/
theorem Socks5Stage.oneEach_replyLengths_iff (waits : stage.replyLength? = some length)
    : OneEach (stage.replyLengths protocol (data :: segments).flatten) (data :: segments)
      ↔ data.length = length
        ∧ OneEach ((stage.onData protocol data).1.replyLengths protocol segments.flatten)
            segments := by
  by_cases whole : data.length = length
  · rw [flatten_cons, (onData_of_length_eq waits whole segments.flatten).1,
      oneEach_cons_iff]
  · obtain ⟨more, lengths⟩
        : ∃ more, stage.replyLengths protocol (data :: segments).flatten = length :: more :=
      replyLengths_eq_cons waits _
    rw [lengths, oneEach_cons_iff]
    exact iff_of_false (fun each => whole each.1) (fun each => whole each.1)

-- Runs

/-- Behind the negotiation the octets count, and not the events. -/
theorem socks5_run_done (done : stage.replyLength? = none)
    : (socks5 protocol).run stage segments
      = (stage.onData protocol segments.flatten).1 := by
  induction segments generalizing stage with
  | nil =>
    cases stage with
    | ready relayed => exact congrArg _ (append_nil relayed).symm
    | failed code => rfl
    | method | auth | reply => cases done
  | cons data segments ih =>
    cases stage with
    | ready relayed =>
      exact (@ih (.ready (relayed ++ data)) rfl).trans
        (congrArg Socks5Stage.ready (append_assoc relayed data segments.flatten))
    | failed code => exact @ih (.failed code) rfl
    | method | auth | reply => cases done

theorem socks5_run_eq_failed_iff (fine : stage ≠ .failed .unexpectLength)
    : (socks5 protocol).run stage segments = .failed .unexpectLength
      ↔ ¬OneEach (stage.replyLengths protocol segments.flatten) segments := by
  induction segments generalizing stage with
  | nil => exact iff_of_false fine (not_not_intro (take_nil.trans take_zero.symm))
  | cons data segments ih =>
    cases waits : stage.replyLength? with
    | none =>
      rw [socks5_run_done waits]
      cases stage with
      | ready relayed => exact iff_of_false nofun (not_not_intro rfl)
      | failed code => exact iff_of_false fine (not_not_intro rfl)
      | method | auth | reply => cases waits
    | some length =>
      rw [Socks5Stage.oneEach_replyLengths_iff waits]
      by_cases whole : data.length = length
      · rw [and_iff_right whole]
        exact ih (Socks5Stage.onData_of_length_eq waits whole []).2
      · have failed : ((socks5 protocol).step stage data).1 = .failed .unexpectLength :=
          congrArg Prod.fst (Socks5Stage.onData_of_length_ne waits whole)
        rw [Machine.run_cons, failed]
        exact iff_of_true (socks5_run_done rfl) (fun each => whole each.1)

/-- Two cuts of a stream with one event for each reply go through the same stages. -/
theorem socks5_run_congr {others : List Bytes} (same : segments.flatten = others.flatten)
    (each : OneEach (stage.replyLengths protocol segments.flatten) segments)
    (eachOther : OneEach (stage.replyLengths protocol others.flatten) others)
    : (socks5 protocol).run stage segments = (socks5 protocol).run stage others := by
  induction segments generalizing stage others with
  | nil =>
    cases waits : stage.replyLength? with
    | none => rw [socks5_run_done waits, socks5_run_done waits, same]
    | some length =>
      cases others with
      | nil => rfl
      | cons data others =>
        -- The event would be a reply, but the stream has no octets left.
        have whole := ((Socks5Stage.oneEach_replyLengths_iff waits).mp eachOther).1
        rw [(append_eq_nil_iff.mp same.symm).1] at whole
        cases stage <;> cases waits <;> cases whole
  | cons data segments ih =>
    cases waits : stage.replyLength? with
    | none => rw [socks5_run_done waits, socks5_run_done waits, same]
    | some length =>
      obtain ⟨whole, later⟩ := (Socks5Stage.oneEach_replyLengths_iff waits).mp each
      cases others with
      | nil =>
        rw [(append_eq_nil_iff.mp same).1] at whole
        cases stage <;> cases waits <;> cases whole
      | cons other others =>
        obtain ⟨wholeOther, laterOther⟩ := (Socks5Stage.oneEach_replyLengths_iff waits).mp eachOther
        obtain ⟨rfl, rest⟩ := append_inj same (whole.trans wholeOther.symm)
        exact ih rest later laterOther

/-- Two cuts of a stream have the same outcome and relay the same octets if and only if both have
one event for each reply, or neither.
-/
theorem socks5_run_eq_iff (protocol : Socks5Protocol) {stream : Bytes}
    {segments others : List Bytes} (cut : segments.flatten = stream)
    (cutOther : others.flatten = stream)
    : (socks5 protocol).run .method segments = (socks5 protocol).run .method others
      ↔ (OneEach (Socks5Stage.method.replyLengths protocol stream) segments
          ↔ OneEach (Socks5Stage.method.replyLengths protocol stream) others) := by
  have fails := @socks5_run_eq_failed_iff protocol .method segments Socks5Stage.noConfusion
  have failsOther := @socks5_run_eq_failed_iff protocol .method others Socks5Stage.noConfusion
  rw [cut] at fails
  rw [cutOther] at failsOther
  constructor
  · intro same
    rw [← not_iff_not, ← fails, ← failsOther, same]
  · intro both
    by_cases each : OneEach (Socks5Stage.method.replyLengths protocol stream) segments
    · have eachOther := both.mp each
      exact socks5_run_congr (cut.trans cutOther.symm) (cut ▸ each) (cutOther ▸ eachOther)
    · rw [fails.mpr each, failsOther.mpr (mt both.mpr each)]

end Segments

theorem socks5_run_eq_iff_relayed
    : (socks5 ⟨[], [], ⟨10, 13, 1, 1⟩, 80⟩).run .method
          [[5, 0], [5, 0, 0, 1, 0, 0, 0, 0, 0, 0], [7, 8], [9]]
        = (socks5 ⟨[], [], ⟨10, 13, 1, 1⟩, 80⟩).run .method
          [[5, 0], [5, 0, 0, 1, 0, 0, 0, 0, 0, 0], [7], [8, 9]] :=
  (socks5_run_eq_iff ⟨[], [], ⟨10, 13, 1, 1⟩, 80⟩ rfl rfl).mpr (iff_of_true rfl rfl)

/-- A connect reply with the first octet of the data behind it, and a method reply in two events. -/
theorem socks5_segments_matter
    : (socks5 ⟨[], [], ⟨10, 13, 1, 1⟩, 80⟩).run .method
          [[5, 0], [5, 0, 0, 1, 0, 0, 0, 0, 0, 0], [7]]
        = .ready [7]
      ∧ (socks5 ⟨[], [], ⟨10, 13, 1, 1⟩, 80⟩).run .method
          [[5, 0], [5, 0, 0, 1, 0, 0, 0, 0, 0, 0, 7]]
        = .failed .unexpectLength
      ∧ (socks5 ⟨[], [], ⟨10, 13, 1, 1⟩, 80⟩).run .method
          [[5], [0], [5, 0, 0, 1, 0, 0, 0, 0, 0, 0], [7]]
        = .failed .unexpectLength := by
  decide

end SwitchLanPlay.Gateway
