import SwitchLanPlay.Server.Tables

/-! The challenges of the relay server. A challenge is stored before `randomFill` has filled it,
and only its first octet tells whether it is ready: the branch that sends it again looks at that
octet, the branch that calls `verify` does not.
-/

namespace SwitchLanPlay.Server

open Function
open List Option
open Foundation

variable {random : Fin 64 → UInt8}

variable {history : List Event} {server : SLPServer} {peer : PeerId} {event : Event}

/-- The payload of an `AuthMe` message that is long enough for a name, with its sender. -/
def Event.answer? : Event → Option (AddressInfo × Bytes)
  | .message _ (firstByte :: payload) rinfo =>
    if (parseHead firstByte).1 = some .authMe ∧ 20 < payload.length then some (rinfo, payload)
    else none
  | _ => none

def SLPServer.verifyCall? (server : SLPServer) (event : Event) : Option Verification :=
  let next := (server.step true event).1
  if server.calls < next.calls then next.pending.get? server.calls else none

def FillCompleted (history : List Event) (peer : PeerId) (random : Fin 64 → UInt8) : Prop :=
  ∃ first rest,
    history = first ++ .filled peer random :: rest ∧ peer ∈ (serverAfter true first).fills

/-- The octets `verify` is called with are those a completed `randomFill` made for the peer, and
an `AuthMe` with them was sent to the peer's address.
-/
structure ChallengeSent (history : List Event) (verification : Verification) : Prop where
  completed : ∃ random,
    FillCompleted history verification.peer random
    ∧ verification.challenge = ofFn random
  sent
    : (⟨((serverAfter true history).peers verification.peer).rinfo,
        ForwarderType.authMe.toByte :: 0 :: verification.challenge⟩ : Sent)
      ∈ ((relay true).outputs .init history).flatten

/-- The event is an answer of a peer that is not logged in and whose challenge is still being
filled.
-/
def SLPServer.AnsweredEarly (server : SLPServer) (event : Event) : Prop :=
  ∃ rinfo payload peer,
    event.answer? = some (rinfo, payload)
    ∧ server.Registered rinfo peer
    ∧ (server.peers peer).user = none
    ∧ peer ∈ server.fills

-- Challenges along a history

theorem fillCompleted_iff_split
    : FillCompleted history peer random
      ↔ ∃ before event after,
          history = before ++ event :: after
          ∧ (event = .filled peer random ∧ peer ∈ (serverAfter true before).fills) := by
  constructor
  · rintro ⟨first, rest, split, running⟩
    exact ⟨first, _, rest, split, rfl, running⟩
  · rintro ⟨first, _, rest, split, rfl, running⟩
    exact ⟨first, rest, split, running⟩

theorem fillCompleted_concat
    : FillCompleted (history ++ [event]) peer random
      ↔ FillCompleted history peer random
        ∨ (event = .filled peer random ∧ peer ∈ (serverAfter true history).fills) := by
  rw [fillCompleted_iff_split, fillCompleted_iff_split, exists_split_concat_iff]

/-- Where a peer's challenge stands: not asked for, being filled, or ready. -/
inductive ChallengeStage (history : List Event) (server : SLPServer) (peer : PeerId) : Prop where
  | unasked (none : (server.peers peer).challenge = none) (idle : peer ∉ server.fills)
      (never : ∀ random, ¬ FillCompleted history peer random)
  | filling (marked : (server.peers peer).challenge = some (0xFF :: replicate 64 0))
      (running : peer ∈ server.fills) (never : ∀ random, ¬ FillCompleted history peer random)
  | ready (random : Fin 64 → UInt8)
      (stored : (server.peers peer).challenge = some (0 :: ofFn random))
      (idle : peer ∉ server.fills) (completed : FillCompleted history peer random)

/-- Every challenge is in one of the stages, and only existing peers have one. -/
structure ChallengesInStage (history : List Event) (server : SLPServer) : Prop where
  stage : ∀ peer, ChallengeStage history server peer
  fresh : ∀ peer, server.peerCount ≤ peer → (server.peers peer).challenge = none
  once : server.fills.Nodup

structure SLPServer.SameChallenges (server next : SLPServer) : Prop where
  challenge : ∀ peer, (next.peers peer).challenge = (server.peers peer).challenge
  fills : next.fills = server.fills
  peerCount_le : server.peerCount ≤ next.peerCount

theorem SLPServer.SameChallenges.refl (server : SLPServer) : server.SameChallenges server :=
  ⟨fun _ => rfl, rfl, le_rfl⟩

theorem ChallengesInStage.same {next : SLPServer} (holds : ChallengesInStage history server)
    (same : server.SameChallenges next)
    : ChallengesInStage history next where
  stage := by
    intro peer
    cases holds.stage peer with
    | unasked none idle never =>
      exact .unasked ((same.challenge peer).trans none) (same.fills ▸ idle) never
    | filling marked running never =>
      exact .filling ((same.challenge peer).trans marked) (same.fills ▸ running) never
    | ready random stored idle completed =>
      exact .ready random ((same.challenge peer).trans stored) (same.fills ▸ idle) completed
  fresh := fun peer outside =>
    (same.challenge peer).trans (holds.fresh peer (same.peerCount_le.trans outside))
  once := same.fills ▸ holds.once

/-- An event that completes no fill leaves the completed ones as they are. -/
theorem ChallengesInStage.concat (holds : ChallengesInStage history server)
    (quiet : ∀ peer random, event = .filled peer random → peer ∉ (serverAfter true history).fills)
    : ChallengesInStage (history ++ [event]) server := by
  have completed (peer : PeerId) (random : Fin 64 → UInt8)
      : FillCompleted (history ++ [event]) peer random ↔ FillCompleted history peer random := by
    rw [fillCompleted_concat]
    exact or_iff_left (fun both => quiet peer random both.1 both.2)
  refine ⟨?_, holds.fresh, holds.once⟩
  intro peer
  cases holds.stage peer with
  | unasked none idle never =>
    exact .unasked none idle (fun random => mt (completed peer random).mp (never random))
  | filling marked running never =>
    exact .filling marked running (fun random => mt (completed peer random).mp (never random))
  | ready random stored idle known =>
    exact .ready random stored idle ((completed peer random).mpr known)

/-- A new `Peer` object takes the place of one that had no challenge either. -/
theorem SLPServer.get_sameChallenges
    (fresh : ∀ peer, server.peerCount ≤ peer → (server.peers peer).challenge = none) (now : Nat)
    (rinfo : AddressInfo)
    : server.SameChallenges (server.get now rinfo).1 := by
  unfold get
  cases server.manager.get? rinfo with
  | some item => exact ⟨fun _ => rfl, rfl, le_rfl⟩
  | none =>
    refine ⟨?_, rfl, Nat.le_succ _⟩
    intro peer
    by_cases new : peer = server.peerCount
    · subst new
      simp only [update_self, fresh server.peerCount le_rfl]
    · simp only [update_of_ne new]

theorem SLPServer.onPacket_sameChallenges (server : SLPServer) (now : Nat) (peer : PeerId)
    (type : Option ForwarderType) (payload : Bytes)
    : server.SameChallenges (server.onPacket now peer type payload).1 := by
  have forward (type : ForwarderType) (src dst : Int)
      : server.SameChallenges (server.forward now peer type payload src dst).1 := by
    simp only [SLPServer.forward]
    split <;> exact ⟨fun _ => rfl, rfl, le_rfl⟩
  unfold onPacket
  split
  · unfold onIpv4
    split
    · exact .refl server
    · exact forward _ _ _
  · unfold onIpv4Frag
    split
    · exact .refl server
    · exact forward _ _ _
  · exact .refl server

theorem SLPServer.onSettled_sameChallenges (server : SLPServer) (call : Nat)
    (result : VerifyResult)
    : server.SameChallenges (server.onSettled call result).1 := by
  unfold onSettled
  cases server.pending.get? call with
  | none => exact .refl server
  | some verification =>
    cases result with
    | rejected message => exact ⟨fun _ => rfl, rfl, le_rfl⟩
    | resolved accepted =>
      cases accepted with
      | false => exact ⟨fun _ => rfl, rfl, le_rfl⟩
      | true =>
        refine ⟨?_, rfl, le_rfl⟩
        intro peer
        by_cases here : peer = verification.peer
        · subst here
          simp only [modifyPeer, update_self]
        · simp only [modifyPeer, update_of_ne here]

/-- `onNeedAuth` starts to fill a challenge for a peer without one, or leaves all as they are. -/
theorem SLPServer.onNeedAuth_challenges (server : SLPServer) (peer : PeerId)
    (type : Option ForwarderType) (payload : Bytes)
    : server.SameChallenges (server.onNeedAuth peer type payload).1
      ∨ ((server.peers peer).challenge = none
        ∧ (server.onNeedAuth peer type payload).1
          = { server.modifyPeer peer
                (fun p => { p with challenge := some (0xFF :: replicate 64 0) }) with
              fills := server.fills ++ [peer] }) := by
  unfold onNeedAuth
  split
  · exact Or.inl (.refl server)
  · split <;> exact Or.inl ⟨fun _ => rfl, rfl, le_rfl⟩
  · rename_i missing
    exact Or.inr ⟨missing, rfl⟩
  · split <;> exact Or.inl (.refl server)

/-- A challenge is marked as unfinished while it is filled. -/
theorem ChallengesInStage.fill (holds : ChallengesInStage history server)
    (known : peer < server.peerCount) (missing : (server.peers peer).challenge = none)
    : ChallengesInStage history
        { server.modifyPeer peer
            (fun p => { p with challenge := some (0xFF :: replicate 64 0) }) with
          fills := server.fills ++ [peer] } := by
  obtain ⟨idle, never⟩
      : peer ∉ server.fills ∧ ∀ random, ¬ FillCompleted history peer random := by
    cases holds.stage peer with
    | unasked _ idle never => exact ⟨idle, never⟩
    | filling marked _ _ => rw [missing] at marked; cases marked
    | ready _ stored _ _ => rw [missing] at stored; cases stored
  refine ⟨?_, ?_, ?_⟩
  · intro other
    by_cases here : other = peer
    · subst here
      refine .filling ?_ (mem_append_right _ mem_cons_self) never
      simp only [SLPServer.modifyPeer, update_self]
    · have apart (member : other ∈ server.fills ++ [peer]) : other ∈ server.fills :=
        (mem_append.mp member).resolve_right (fun last => here (mem_singleton.mp last))
      cases holds.stage other with
      | unasked none idle never =>
        refine .unasked ?_ (mt apart idle) never
        simpa only [SLPServer.modifyPeer, update_of_ne here] using none
      | filling marked running never =>
        refine .filling ?_ (mem_append_left _ running) never
        simpa only [SLPServer.modifyPeer, update_of_ne here] using marked
      | ready random stored idle completed =>
        refine .ready random ?_ (mt apart idle) completed
        simpa only [SLPServer.modifyPeer, update_of_ne here] using stored
  · intro other outside
    have here : other ≠ peer := (known.trans_le outside).ne'
    simpa only [SLPServer.modifyPeer, update_of_ne here] using holds.fresh other outside
  · exact nodup_append'.mpr ⟨holds.once, nodup_singleton peer,
      disjoint_singleton.mpr idle⟩

/-- The end of a `randomFill` makes the challenge ready. -/
theorem ChallengesInStage.finish (holds : ChallengesInStage history (serverAfter true history))
    (running : peer ∈ (serverAfter true history).fills) (random : Fin 64 → UInt8)
    : ChallengesInStage (history ++ [.filled peer random])
        ((serverAfter true history).onFilled peer random).1 := by
  have completed (other : PeerId) (octets : Fin 64 → UInt8) (differs : other ≠ peer)
      : FillCompleted (history ++ [.filled peer random]) other octets
        ↔ FillCompleted history other octets := by
    rw [fillCompleted_concat]
    refine or_iff_left ?_
    rintro ⟨same, _⟩
    cases same
    exact differs rfl
  simp only [SLPServer.onFilled, if_pos running]
  refine ⟨?_, ?_, holds.once.erase peer⟩
  · intro other
    by_cases here : other = peer
    · subst here
      refine .ready random ?_ holds.once.not_mem_erase
        (fillCompleted_concat.mpr (Or.inr ⟨rfl, running⟩))
      simp only [SLPServer.modifyPeer, update_self]
    · cases holds.stage other with
      | unasked none idle never =>
        refine .unasked ?_ (mt mem_of_mem_erase idle)
          (fun octets => mt (completed other octets here).mp (never octets))
        simpa only [SLPServer.modifyPeer, update_of_ne here] using none
      | filling marked running never =>
        refine .filling ?_ ((mem_erase_of_ne here).mpr running)
          (fun octets => mt (completed other octets here).mp (never octets))
        simpa only [SLPServer.modifyPeer, update_of_ne here] using marked
      | ready octets stored idle known =>
        refine .ready octets ?_ (mt mem_of_mem_erase idle)
          ((completed other octets here).mpr known)
        simpa only [SLPServer.modifyPeer, update_of_ne here] using stored
  · intro other outside
    have here : other ≠ peer := by
      rintro rfl
      have none := holds.fresh other outside
      cases holds.stage other with
      | unasked _ idle _ => exact idle running
      | filling marked _ _ => rw [none] at marked; cases marked
      | ready _ stored _ _ => rw [none] at stored; cases stored
    simpa only [SLPServer.modifyPeer, update_of_ne here] using holds.fresh other outside

/-- The challenges are in their stages after every history. Witness: induction on the history,
one handler at a time.
-/
theorem serverAfter_challenges (history : List Event)
    : ChallengesInStage history (serverAfter true history) := by
  induction history using reverseRecOn with
  | nil =>
    refine ⟨?_, fun _ _ => rfl, nodup_nil⟩
    intro peer
    refine .unasked rfl not_mem_nil ?_
    rintro random ⟨first, rest, split, _⟩
    exact append_ne_nil_of_right_ne_nil first (cons_ne_nil _ _) split.symm
  | append_singleton history event ih =>
    rw [serverAfter_concat]
    cases event with
    | message now msg rinfo =>
      have before
          : ChallengesInStage (history ++ [.message now msg rinfo])
              (serverAfter true history) := ih.concat (fun _ _ impossible => by cases impossible)
      cases msg with
      | nil => exact before
      | cons firstByte payload =>
        have got := before.same
          (SLPServer.get_sameChallenges before.fresh now rinfo)
        have own (peer : PeerId) (known : (serverAfter true history).Registered rinfo peer) :=
          serverAfter_registered true history known
        have counted := (SLPServer.get_peer own now).1
        simp only [SLPServer.step, SLPServer.onMessage]
        split
        · exact before
        · split
          · rcases ((serverAfter true history).get now rinfo).1.onNeedAuth_challenges
              ((serverAfter true history).get now rinfo).2 (parseHead firstByte).1 payload
              with same | ⟨missing, next⟩
            · exact got.same same
            · rw [next]
              exact got.fill counted missing
          · exact got.same (SLPServer.onPacket_sameChallenges _ _ _ _ _)
    | filled peer random =>
      by_cases running : peer ∈ (serverAfter true history).fills
      · exact ih.finish running random
      · have before
            : ChallengesInStage (history ++ [.filled peer random])
                (serverAfter true history) :=
          ih.concat (fun other octets same => by cases same; exact running)
        simpa only [SLPServer.step, SLPServer.onFilled, if_neg running] using before
    | verified call result =>
      exact (ih.concat (fun _ _ impossible => by cases impossible)).same
        (SLPServer.onSettled_sameChallenges _ call result)
    | timedOut call =>
      exact (ih.concat (fun _ _ impossible => by cases impossible)).same
        (SLPServer.onSettled_sameChallenges _ call _)
    | sendError rinfo =>
      exact (ih.concat (fun _ _ impossible => by cases impossible)).same
        ⟨fun _ => rfl, rfl, le_rfl⟩
    | tick now =>
      exact (ih.concat (fun _ _ impossible => by cases impossible)).same
        ⟨fun _ => rfl, rfl, le_rfl⟩

-- Calls of verify

/-- `onNeedAuth` calls `verify` exactly for an answer to a challenge that is stored. -/
theorem SLPServer.onNeedAuth_calls (server : SLPServer) (peer : PeerId)
    (type : Option ForwarderType) (payload : Bytes)
    : (∃ challenge,
        (type = some .authMe ∧ 20 < payload.length)
        ∧ (server.peers peer).challenge = some challenge
        ∧ (server.onNeedAuth peer type payload).1
          = { server with
              pending := server.pending.set server.calls
                ⟨peer, payload.drop 20, challenge.drop 1, payload.take 20⟩
              calls := server.calls + 1 })
      ∨ (((type = some .authMe ∧ 20 < payload.length) → (server.peers peer).challenge = none)
        ∧ (server.onNeedAuth peer type payload).1.calls = server.calls) := by
  unfold onNeedAuth
  split
  · rename_i missing
    exact Or.inr ⟨fun _ => missing, rfl⟩
  · rename_i challenge stored
    split
    · rename_i short
      exact Or.inr ⟨fun answer => absurd answer.2 (Nat.not_lt.mpr short), rfl⟩
    · rename_i long
      exact Or.inl ⟨challenge, ⟨rfl, Nat.not_le.mp long⟩, stored, rfl⟩
  · rename_i missing
    exact Or.inr ⟨fun _ => missing, rfl⟩
  · rename_i otherType stored
    refine Or.inr ⟨fun answer => absurd answer.1 otherType, ?_⟩
    split <;> rfl

theorem SLPServer.onSettled_calls (server : SLPServer) (call : Nat) (result : VerifyResult)
    : (server.onSettled call result).1.calls = server.calls := by
  unfold onSettled
  cases server.pending.get? call with
  | none => rfl
  | some verification =>
    cases result with
    | rejected message => rfl
    | resolved accepted => cases accepted <;> rfl

/-- Without a new call there is nothing to report. -/
theorem SLPServer.verifyCall?_eq_none (same : (server.step true event).1.calls = server.calls)
    : server.verifyCall? event = none := by
  unfold verifyCall?
  exact if_neg (by rw [same]; exact Nat.lt_irrefl _)

/-- The event is an answer to the stored challenge of a registered peer without a user, and makes
`verify` check it against the octets behind the first one.
-/
def SLPServer.Answers (server : SLPServer) (event : Event) (verification : Verification) : Prop :=
  ∃ rinfo payload peer challenge,
    event.answer? = some (rinfo, payload)
    ∧ server.Registered rinfo peer
    ∧ (server.peers peer).user = none
    ∧ (server.peers peer).challenge = some challenge
    ∧ verification = ⟨peer, payload.drop 20, challenge.drop 1, payload.take 20⟩

theorem Event.answer?_message {now : Nat} {firstByte : UInt8} {payload : Bytes}
    {rinfo sender : AddressInfo} {content : Bytes}
    : (Event.message now (firstByte :: payload) rinfo).answer? = some (sender, content)
      ↔ ((parseHead firstByte).1 = some .authMe ∧ 20 < payload.length)
        ∧ rinfo = sender
        ∧ payload = content := by
  unfold answer?
  simp only [ite_none_right_eq_some, Option.some.injEq, Prod.mk.injEq]

/-- A message calls `verify` exactly when it answers a challenge. Witness: `get` finds the
registered peer with its challenge, and a new peer has none.
-/
theorem SLPServer.verifyCall?_message {now : Nat} {firstByte : UInt8} {payload : Bytes}
    {rinfo : AddressInfo} {verification : Verification}
    : server.verifyCall? (.message now (firstByte :: payload) rinfo) = some verification
      ↔ server.Answers (.message now (firstByte :: payload) rinfo) verification := by
  have calls : (server.get now rinfo).1.calls = server.calls := by
    unfold get
    cases server.manager.get? rinfo <;> rfl
  have found (peer : PeerId) (registered : server.Registered rinfo peer) :=
    get_of_registered registered now
  have silent
      (same
        : (server.step true (.message now (firstByte :: payload) rinfo)).1.calls = server.calls)
      (not : ¬ server.Answers (.message now (firstByte :: payload) rinfo) verification)
      : server.verifyCall? (.message now (firstByte :: payload) rinfo) = some verification
        ↔ server.Answers (.message now (firstByte :: payload) rinfo) verification := by
    rw [verifyCall?_eq_none same]
    exact iff_of_false (some_ne_none verification).symm not
  by_cases ping : (parseHead firstByte).1 = some .ping ∧ ¬ (parseHead firstByte).2 = true
  · refine silent (by simp only [SLPServer.step, onMessage, if_pos ping]) ?_
    rintro ⟨sender, content, peer, challenge, answer, _⟩
    rw [Event.answer?_message, ping.1] at answer
    exact absurd answer.1.1 (by decide)
  · by_cases anonymous : ((server.get now rinfo).1.peers (server.get now rinfo).2).user = none
    · have step
          : server.onMessage true now (firstByte :: payload) rinfo
            = (server.get now rinfo).1.onNeedAuth (server.get now rinfo).2
                (parseHead firstByte).1 payload := by
        simp only [onMessage, if_neg ping, anonymous, and_self, if_true]
      rcases (server.get now rinfo).1.onNeedAuth_calls (server.get now rinfo).2
        (parseHead firstByte).1 payload with ⟨challenge, answer, stored, next⟩ | ⟨missing, same⟩
      · have registered : server.Registered rinfo (server.get now rinfo).2 := by
          rcases server.get_origin now rinfo with registered | new
          · exact registered
          · rw [new] at stored
            cases stored
        have called
            : server.verifyCall? (.message now (firstByte :: payload) rinfo)
              = some ⟨(server.get now rinfo).2, payload.drop 20, challenge.drop 1,
                  payload.take 20⟩ := by
          simp only [verifyCall?, SLPServer.step, step, next, calls,
            Nat.lt_succ_self, if_true, OrderedMap.get?_set]
        rw [called]
        constructor
        · rintro ⟨⟩
          rw [(found _ registered).2] at anonymous stored
          exact ⟨rinfo, payload, _, challenge, Event.answer?_message.mpr ⟨answer, rfl, rfl⟩,
            registered, anonymous, stored, rfl⟩
        · rintro ⟨sender, content, peer, other, same, known, _, held, rfl⟩
          obtain ⟨_, rfl, rfl⟩ := Event.answer?_message.mp same
          obtain ⟨rfl, peers⟩ := found peer known
          rw [peers, held] at stored
          cases stored
          rfl
      · refine silent (by rw [SLPServer.step, step, same, calls]) ?_
        rintro ⟨sender, content, peer, other, answer, known, _, held, _⟩
        obtain ⟨complete, rfl, rfl⟩ := Event.answer?_message.mp answer
        obtain ⟨rfl, peers⟩ := found peer known
        rw [peers, held] at missing
        cases missing complete
    · have step
          : server.onMessage true now (firstByte :: payload) rinfo
            = (server.get now rinfo).1.onPacket now (server.get now rinfo).2
                (parseHead firstByte).1 payload := by
        simp only [onMessage, if_neg ping, anonymous, and_false, if_false]
      refine silent ?_ ?_
      · rw [SLPServer.step, step, (onPacket_sameLogins _ _ _ _ _).calls, calls]
      · rintro ⟨sender, content, peer, _, answer, known, user, _⟩
        obtain ⟨_, rfl, rfl⟩ := Event.answer?_message.mp answer
        obtain ⟨rfl, peers⟩ := found peer known
        rw [peers] at anonymous
        exact anonymous user

/-- `verify` is called exactly for answers, whether their challenge is ready or not. -/
theorem SLPServer.verifyCall?_eq_some_iff {verification : Verification}
    : server.verifyCall? event = some verification ↔ server.Answers event verification := by
  have silent (quiet : event.answer? = none)
      (same : (server.step true event).1.calls = server.calls)
      : server.verifyCall? event = some verification ↔ server.Answers event verification := by
    rw [verifyCall?_eq_none same]
    refine iff_of_false (some_ne_none verification).symm ?_
    rintro ⟨_, _, _, _, answer, _⟩
    rw [quiet] at answer
    cases answer
  cases event with
  | message now msg rinfo =>
    cases msg with
    | nil => exact silent rfl rfl
    | cons firstByte payload => exact verifyCall?_message
  | filled peer random => exact silent rfl (server.onFilled_sameLogins peer random).calls
  | verified call result => exact silent rfl (server.onSettled_calls call result)
  | timedOut call => exact silent rfl (server.onSettled_calls call _)
  | sendError rinfo => exact silent rfl rfl
  | tick now => exact silent rfl rfl

/-- What was sent when a fill ended is among the datagrams of the history. -/
theorem FillCompleted.sent (completed : FillCompleted history peer random)
    : (⟨((serverAfter true history).peers peer).rinfo,
        ForwarderType.authMe.toByte :: 0 :: ofFn random⟩ : Sent)
      ∈ ((relay true).outputs .init history).flatten := by
  obtain ⟨first, rest, rfl, running⟩ := completed
  have made : peer < (serverAfter true first).peerCount := by
    by_contra outside
    have none := (serverAfter_challenges first).fresh peer (Nat.not_lt.mp outside)
    cases (serverAfter_challenges first).stage peer with
    | unasked _ idle _ => exact idle running
    | filling marked _ _ => rw [none] at marked; cases marked
    | ready _ stored _ _ => rw [none] at stored; cases stored
  have output
      : (⟨((serverAfter true first).peers peer).rinfo,
          ForwarderType.authMe.toByte :: 0 :: ofFn random⟩ : Sent)
        ∈ ((serverAfter true first).step true (.filled peer random)).2 := by
    simp only [SLPServer.step, SLPServer.onFilled, if_pos running, mem_singleton,
      SLPServer.sendTo, SLPServer.modifyPeer, update_self]
  rw [(serverAfter_rinfo true first (.filled peer random :: rest) made).2]
  refine mem_flatten.mpr ⟨_, (relay true).mem_outputs_iff.mpr ?_, output⟩
  exact ⟨first, .filled peer random, rest, rfl, rfl⟩

/-- `verify` gets a challenge that was completely filled and sent to the peer, at every point of a
history, exactly when no answer of the history arrives while its challenge is being filled.
-/
theorem verify_challenge_sent_iff (history : List Event)
    : (∀ before event after verification,
        history = before ++ event :: after
        → (serverAfter true before).verifyCall? event = some verification
        → ChallengeSent before verification)
      ↔ ∀ before event after,
          history = before ++ event :: after
          → ¬ (serverAfter true before).AnsweredEarly event := by
  constructor
  · rintro holds before event after split ⟨rinfo, payload, peer, answer, registered, user, running⟩
    cases (serverAfter_challenges before).stage peer with
    | unasked _ idle _ => exact idle running
    | ready _ _ idle _ => exact idle running
    | filling marked _ never =>
      obtain ⟨random, completed, _⟩ :=
        (holds before event after _ split (SLPServer.verifyCall?_eq_some_iff.mpr
          ⟨rinfo, payload, peer, _, answer, registered, user, marked, rfl⟩)).completed
      exact never random completed
  · intro inTime before event after verification split called
    obtain ⟨rinfo, payload, peer, challenge, answer, registered, user, stored, rfl⟩ :=
      SLPServer.verifyCall?_eq_some_iff.mp called
    cases (serverAfter_challenges before).stage peer with
    | unasked none _ _ => rw [none] at stored; cases stored
    | filling _ running _ =>
      exact absurd ⟨rinfo, payload, peer, answer, registered, user, running⟩
        (inTime before event after split)
    | ready random ready _ completed =>
      rw [ready] at stored
      cases stored
      exact ⟨⟨random, completed, rfl⟩, completed.sent⟩

/-- A keepalive makes the server fill a challenge; the answer arrives before it is filled. -/
def answerTooEarly : List Event := [.message 0 [0] hostA, .message 1 (4 :: replicate 21 65) hostA]

/-- The early answer is checked against 64 zero octets that nobody made or sent. -/
theorem early_answer_verified
    : ∃ verification,
        (serverAfter true (answerTooEarly.take 1)).verifyCall?
            (.message 1 (4 :: List.replicate 21 65) hostA)
          = some verification
        ∧ verification.challenge = List.replicate 64 0
        ∧ ((relay true).outputs .init answerTooEarly).flatten = []
        ∧ ¬ ChallengeSent (answerTooEarly.take 1) verification := by
  refine ⟨⟨0, [65], List.replicate 64 0, List.replicate 20 65⟩, by decide, rfl, by decide, ?_⟩
  rintro ⟨_, sent⟩
  exact absurd sent (by decide)

end SwitchLanPlay.Server
