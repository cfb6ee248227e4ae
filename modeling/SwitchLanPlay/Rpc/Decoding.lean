import SwitchLanPlay.Rpc.WebSocket

/-! What the frame decoder takes from its buffer. Every turn accounts for the octets of the frames
it hands over, and `advance` never returns with an empty buffer, so a connection that decodes is
an octet behind.
-/

namespace SwitchLanPlay.Rpc

open List Option
open Foundation

theorem advanceFrom_spec {list : List Bytes} {offset : Nat} {bl : BufferList}
    (advanced : advanceFrom list offset = some bl)
    : bl.size + offset = (list.map List.length).sum ∧ 0 < bl.size := by
  induction list generalizing offset with
  | nil => cases advanced
  | cons item rest ih =>
    rw [map_cons, sum_cons]
    rw [advanceFrom] at advanced
    split at advanced
    · have := ih advanced
      omega
    · cases advanced
      rw [BufferList.size, map_cons, sum_cons]
      dsimp only
      omega

/-- `advance` takes its octets and leaves at least one. -/
theorem BufferList.advance_spec {bl next : BufferList} {n : Nat}
    (advanced : bl.advance n = some next)
    : next.size + n = bl.size ∧ 0 < next.size := by
  have := advanceFrom_spec advanced
  rw [BufferList.size.eq_def bl]
  omega

theorem BufferList.size_add (bl : BufferList) (data : Bytes)
    : bl.size ≤ (bl.add data).size ∧ (bl.add data).size ≤ bl.size + data.length := by
  rw [BufferList.size, BufferList.size, add]
  dsimp only
  rw [map_append, sum_append, map_singleton, sum_singleton]
  omega

/-- The states between two segments in which octets go to the decoder. -/
def WSCState.Decodes (state : WSCState) : Prop :=
  state ≠ .doHeader ∧ state ≠ .waitHttp ∧ state ≠ .dead

instance (state : WSCState) : Decidable state.Decodes := inferInstanceAs (Decidable (_ ∧ _ ∧ _))

theorem WSCState.not_decodes_waitHttp : ¬ WSCState.waitHttp.Decodes := by decide

theorem WSCState.not_decodes_dead : ¬ WSCState.dead.Decodes := by decide

def lengthSize (length : Nat) : Nat := if length < 126 then 0 else if length < 65536 then 2 else 8

theorem lengthSize_le_two {length : Nat} (short : length < 65536) : lengthSize length ≤ 2 := by
  rw [lengthSize, if_pos short]
  split <;> omega

theorem lengthSize_le (length : Nat) : lengthSize length ≤ 8 := by
  rw [lengthSize]
  split
  · omega
  · split <;> omega

def WSFrame.wireSize (frame : WSFrame) : Nat :=
  2 + lengthSize frame.data.length + (if frame.mask then 4 else 0) + frame.data.length

theorem length_extendedLength (length : Nat)
    : (extendedLength length).length = lengthSize length := by
  rw [extendedLength, lengthSize]
  split
  · rfl
  · split <;> rfl

theorem Frame.length_payloadOctets (frame : Frame)
    : frame.payloadOctets.length = frame.payload.length := by
  rw [payloadOctets]
  split
  · rfl
  · exact length_mapIdx

theorem Frame.length_keyOctets (frame : Frame)
    : frame.keyOctets.length = if frame.maskKey.isSome then 4 else 0 := by
  rw [keyOctets]
  cases frame.maskKey with
  | none => rfl
  | some key => exact key.property

theorem Frame.length_octets (frame : Frame) : frame.octets.length = frame.toWSFrame.wireSize := by
  rw [octets, WSFrame.wireSize, length_append, length_append, length_append,
    length_extendedLength, frame.length_keyOctets, frame.length_payloadOctets]
  rfl

theorem length_flatMap_octets (frames : List Frame)
    : (frames.flatMap Frame.octets).length
      = ((frames.map Frame.toWSFrame).map WSFrame.wireSize).sum := by
  rw [length_flatMap, List.map_map]
  simp only [Function.comp_def, Frame.length_octets]

/-- Every frame needs octets. -/
theorem WSFrame.eq_nil_of_sum {frames : List WSFrame}
    (nothing : (frames.map WSFrame.wireSize).sum = 0)
    : frames = [] := by
  cases frames with
  | nil => rfl
  | cons frame frames =>
    rw [map_cons, sum_cons, wireSize] at nothing
    omega

namespace WSConnection

def begun (conn : WSConnection) : Nat :=
  match conn.wsState with
  | .waitingFor16BitLength | .waitingFor64BitLength => 2
  | .waitingForMaskKey => 2 + lengthSize conn.frame.length.toNat
  | .waitingForPayload => 2 + lengthSize conn.frame.length.toNat + if conn.frame.mask then 4 else 0
  | _ => 0

theorem atHeader_of_begun {conn : WSConnection} (decodes : conn.wsState.Decodes)
    (nothing : conn.begun = 0)
    : conn.wsState = .waitDecodeHeader := by
  rw [begun] at nothing
  cases state : conn.wsState with
  | doHeader => exact absurd state decodes.1
  | waitHttp => exact absurd state decodes.2.1
  | dead => exact absurd state decodes.2.2
  | waitDecodeHeader => rfl
  | waitingFor16BitLength | waitingFor64BitLength =>
    rw [state] at nothing
    cases nothing
  | waitingForMaskKey | waitingForPayload =>
    rw [state] at nothing
    dsimp only at nothing
    omega

def spent (conn : WSConnection) : Nat := (conn.handed.map WSFrame.wireSize).sum + conn.begun

/-- What a part of a turn does to the buffer: nothing, or it takes octets that pay for what is
decoded and leaves at least one.
-/
structure Takes (conn next : WSConnection) : Prop where
  decodes : next.wsState.Decodes
  pays
    : next.spent = conn.spent ∧ next.bl = conn.bl
      ∨ ∃ taken,
          next.spent ≤ conn.spent + taken
          ∧ next.bl.size + taken = conn.bl.size
          ∧ 0 < next.bl.size

theorem Takes.refl {conn : WSConnection} (decodes : conn.wsState.Decodes) : conn.Takes conn :=
  ⟨decodes, .inl ⟨rfl, rfl⟩⟩

/-- A part of a turn that goes on with the present frame. -/
theorem Takes.of_advance {conn next : WSConnection} {taken : Nat}
    (decodes : next.wsState.Decodes) (advanced : conn.bl.advance taken = some next.bl)
    (handed : next.handed = conn.handed) (paid : next.begun ≤ conn.begun + taken)
    : conn.Takes next := by
  refine ⟨decodes, .inr ⟨taken, ?_, BufferList.advance_spec advanced⟩⟩
  rw [spent, spent, handed, Nat.add_assoc]
  exact Nat.add_le_add_left paid _

theorem Takes.trans {conn middle next : WSConnection} (first : conn.Takes middle)
    (second : middle.Takes next)
    : conn.Takes next := by
  refine ⟨second.decodes, ?_⟩
  rcases first.pays with ⟨spent, same⟩ | ⟨taken, paid, size, left⟩
  · rw [← spent, ← same]
    exact second.pays
  · rcases second.pays with ⟨spent, same⟩ | ⟨more, paidMore, sizeMore, leftMore⟩
    · rw [spent, same]
      exact .inr ⟨taken, paid, size, left⟩
    · exact .inr ⟨taken + more, by omega, by omega, leftMore⟩

theorem Takes.size_le {conn next : WSConnection} (takes : conn.Takes next)
    : next.bl.size ≤ conn.bl.size := by
  rcases takes.pays with ⟨-, same⟩ | ⟨taken, -, size, -⟩
  · rw [same]
  · omega

end WSConnection

-- The parts of a turn

theorem length7_lt {octet : UInt8} (no16 : octet &&& 0x7f ≠ 126) (no64 : octet &&& 0x7f ≠ 127)
    : (octet &&& 0x7f).toUInt64.toNat < 126 := by
  rw [UInt8.toNat_toUInt64]
  have range : (octet &&& 0x7f).toNat < 128 := by
    rw [UInt8.toNat_and]
    exact Nat.lt_of_le_of_lt Nat.and_le_right (by decide)
  have ne126 : (octet &&& 0x7f).toNat ≠ 126 := fun same => no16 (UInt8.toNat.inj same)
  have ne127 : (octet &&& 0x7f).toNat ≠ 127 := fun same => no64 (UInt8.toNat.inj same)
  omega

theorem toNat_length16 (high low : UInt8)
    : (high.toUInt64 <<< 8 ||| low.toUInt64).toNat = high.toNat * 256 + low.toNat := by
  have highLt := high.toNat_lt
  have shifted : (high.toUInt64 <<< 8).toNat = high.toNat <<< 8 := by
    rw [UInt64.toNat_shiftLeft, UInt8.toNat_toUInt64]
    exact Nat.mod_eq_of_lt (by rw [Nat.shiftLeft_eq]; change high.toNat * 256 < _; omega)
  rw [UInt64.toNat_or, shifted, UInt8.toNat_toUInt64,
    ← Nat.shiftLeft_add_eq_or_of_lt low.toNat_lt, Nat.shiftLeft_eq]

theorem BufferList.length_copyTo {bl : BufferList} {start n : Nat} {data : Bytes}
    (copied : bl.copyTo start n = some data)
    : data.length = n := by
  induction n generalizing start data with
  | zero =>
    cases copied
    rfl
  | succ n ih =>
    simp only [copyTo, bind_eq_bind, bind_eq_some_iff,
      Option.some.injEq] at copied
    obtain ⟨octet, -, rest, copied, rfl⟩ := copied
    rw [length_cons, ih copied]

section Turn

variable {conn next : WSConnection}

namespace WSConnection

theorem decodeHeader_takes (decodes : conn.wsState.Decodes)
    (decoded : conn.decodeHeader = some next)
    : conn.Takes next
      ∧ (conn.wsState = .waitDecodeHeader → next.bl.size + 2 = conn.bl.size) := by
  rw [decodeHeader] at decoded
  split at decoded
  · simp only [bind_eq_bind, bind_eq_some_iff, Option.some.injEq] at decoded
    obtain ⟨firstByte, -, secondByte, -, bl, advanced, rfl⟩ := decoded
    refine ⟨?_, fun _ => (BufferList.advance_spec advanced).1⟩
    by_cases is16 : secondByte &&& 0x7f = 126
    · refine .of_advance ?_ advanced rfl ?_
      · rw [if_pos is16]
        exact (by decide : WSCState.waitingFor16BitLength.Decodes)
      · rw [begun, if_pos is16]
        exact Nat.le_add_left _ _
    by_cases is64 : secondByte &&& 0x7f = 127
    · refine .of_advance ?_ advanced rfl ?_
      · rw [if_neg is16, if_pos is64]
        exact (by decide : WSCState.waitingFor64BitLength.Decodes)
      · rw [begun, if_neg is16, if_pos is64]
        exact Nat.le_add_left _ _
    · refine .of_advance ?_ advanced rfl ?_
      · rw [if_neg is16, if_neg is64]
        exact (by decide : WSCState.waitingForMaskKey.Decodes)
      · rw [begun, if_neg is16, if_neg is64]
        dsimp only
        rw [lengthSize, if_pos (length7_lt is16 is64)]
        exact Nat.le_add_left _ _
  · next elsewhere =>
      cases decoded
      exact ⟨.refl decodes, fun atHeader => absurd atHeader elsewhere⟩

theorem decode16BitLength_takes (decodes : conn.wsState.Decodes)
    (decoded : conn.decode16BitLength = some next)
    : conn.Takes next := by
  rw [decode16BitLength] at decoded
  split at decoded
  · next ready =>
      simp only [bind_eq_bind, bind_eq_some_iff, Option.some.injEq] at decoded
      obtain ⟨high, -, low, -, bl, advanced, rfl⟩ := decoded
      refine .of_advance (by decide : WSCState.waitingForMaskKey.Decodes) advanced rfl ?_
      have highLt := high.toNat_lt
      have lowLt := low.toNat_lt
      have begun : conn.begun = 2 := by rw [WSConnection.begun, ready.1]
      have size := @lengthSize_le_two (high.toNat * 256 + low.toNat) (by omega)
      rw [begun, WSConnection.begun]
      dsimp only
      rw [toNat_length16]
      omega
  · cases decoded
    exact .refl decodes

theorem decode64BitLength_takes (decodes : conn.wsState.Decodes)
    (decoded : conn.decode64BitLength = some next)
    : conn.Takes next := by
  rw [decode64BitLength] at decoded
  split at decoded
  · next ready =>
      simp only [bind_eq_bind, bind_eq_some_iff, Option.some.injEq] at decoded
      obtain ⟨octets, -, bl, advanced, rfl⟩ := decoded
      refine .of_advance (by decide : WSCState.waitingForMaskKey.Decodes) advanced rfl ?_
      have begun : conn.begun = 2 := by rw [WSConnection.begun, ready.1]
      have size := lengthSize_le (lengthOf64Bit octets).toNat
      rw [begun, WSConnection.begun]
      dsimp only
      omega
  · cases decoded
    exact .refl decodes

theorem decodeMaskKey_takes (decodes : conn.wsState.Decodes)
    (decoded : conn.decodeMaskKey = some next)
    : conn.Takes next := by
  rw [decodeMaskKey] at decoded
  split at decoded
  · next atMask =>
      have begun : conn.begun = 2 + lengthSize conn.frame.length.toNat := by
        rw [WSConnection.begun, atMask]
      split at decoded
      · next mask =>
          split at decoded
          · simp only [bind_eq_bind, bind_eq_some_iff, Option.some.injEq] at decoded
            obtain ⟨maskBytes, -, bl, advanced, rfl⟩ := decoded
            refine .of_advance (by decide : WSCState.waitingForPayload.Decodes) advanced rfl ?_
            rw [begun, WSConnection.begun]
            dsimp only
            rw [if_pos mask]
          · cases decoded
            exact .refl decodes
      · next plain =>
          cases decoded
          refine ⟨(by decide : WSCState.waitingForPayload.Decodes), .inl ⟨?_, rfl⟩⟩
          rw [spent, spent, begun, WSConnection.begun]
          dsimp only
          rw [if_neg plain, Nat.add_zero]
  · cases decoded
    exact .refl decodes

theorem decodePayload_takes (decodes : conn.wsState.Decodes)
    (decoded : conn.decodePayload = some next)
    : conn.Takes next := by
  rw [decodePayload] at decoded
  split at decoded
  · next ready =>
      simp only [bind_eq_bind, bind_eq_some_iff, Option.some.injEq] at decoded
      obtain ⟨data, copied, bl, advanced, rfl⟩ := decoded
      refine ⟨(by decide : WSCState.waitDecodeHeader.Decodes),
        .inr ⟨_, ?_, BufferList.advance_spec advanced⟩⟩
      -- What was begun and the payload make up the octets of the frame that is handed over.
      have begun : conn.begun
          = 2 + lengthSize conn.frame.length.toNat + if conn.frame.mask then 4 else 0 := by
        rw [WSConnection.begun, ready.1]
      have length : (if conn.frame.mask then masked conn.frame.maskBytes data else data).length
          = conn.frame.length.toNat := by
        rw [← BufferList.length_copyTo copied]
        split
        · exact length_mapIdx
        · rfl
      rw [spent, spent, begun]
      dsimp only [onFrame]
      rw [map_append, sum_append, map_singleton, sum_singleton,
        WSConnection.begun, WSFrame.wireSize]
      dsimp only
      rw [length]
      omega
  · cases decoded
    exact .refl decodes

theorem decodeFrame_takes (decodes : conn.wsState.Decodes)
    (decoded : conn.decodeFrame = some next)
    : conn.Takes next
      ∧ (conn.wsState = .waitDecodeHeader → next.bl.size + 2 ≤ conn.bl.size) := by
  simp only [decodeFrame, bind_eq_bind, bind_eq_some_iff] at decoded
  obtain ⟨header, gotHeader, length16, got16, length64, got64, key, gotKey, gotPayload⟩ := decoded
  obtain ⟨first, two⟩ := decodeHeader_takes decodes gotHeader
  have second := decode16BitLength_takes first.decodes got16
  have third := second.trans (decode64BitLength_takes second.decodes got64)
  have fourth := third.trans (decodeMaskKey_takes third.decodes gotKey)
  have last := fourth.trans (decodePayload_takes fourth.decodes gotPayload)
  refine ⟨first.trans last, fun atHeader => ?_⟩
  have := two atHeader
  have := last.size_le
  omega

theorem decodeFrames_takes {turns : Nat} (decodes : conn.wsState.Decodes)
    (decoded : conn.decodeFrames turns = some next)
    : conn.Takes next := by
  induction turns generalizing conn with
  | zero =>
    cases decoded
    exact .refl decodes
  | succ turns ih =>
    rw [decodeFrames] at decoded
    split at decoded
    · cases decoded
      exact .refl decodes
    · obtain ⟨middle, turned, more⟩ := bind_eq_some_iff.mp decoded
      obtain ⟨takes, -⟩ := decodeFrame_takes decodes turned
      split at more
      · exact takes.trans (ih takes.decodes more)
      · cases more
        exact takes

/-- A turn that is not the first takes two octets at least, so that turns beyond the number of
octets change nothing.
-/
theorem decodeFrames_succ {turns : Nat} (decodes : conn.wsState.Decodes)
    (enough : conn.bl.size + (if conn.wsState = .waitDecodeHeader then 0 else 1) < turns)
    : conn.decodeFrames (turns + 1) = conn.decodeFrames turns := by
  induction turns generalizing conn with
  | zero => omega
  | succ turns ih =>
    rw [decodeFrames, decodeFrames]
    split
    · rfl
    · refine bind_congr fun middle turned => ?_
      obtain ⟨takes, two⟩ := decodeFrame_takes decodes turned
      split
      · -- Only the first turn can begin within a frame, and take no octet.
        next atHeader =>
          refine ih takes.decodes ?_
          have size := takes.size_le
          rw [if_pos atHeader]
          split at enough
          · next began =>
              have := two began
              omega
          · omega
      · rfl

/-- The loop in `onData` ends within the turns that the model gives it. -/
theorem decodeFrames_enough {turns : Nat} (decodes : conn.wsState.Decodes)
    (enough : conn.bl.size + 2 ≤ turns)
    : conn.decodeFrames turns = conn.decodeFrames (conn.bl.size + 2) := by
  induction turns, enough using Nat.le_induction with
  | base => rfl
  | succ turns enough ih =>
    rw [decodeFrames_succ decodes, ih]
    split <;> omega

theorem onData_decodes {digest : Bytes → Bytes} (decodes : conn.wsState.Decodes)
    (data : Bytes)
    : conn.onData digest data
      = (conn.receive data).decodeFrames ((conn.receive data).bl.size + 2) := by
  obtain ⟨notFirst, notLater, alive⟩ := decodes
  rw [onData]
  split
  · next state => exact absurd state notFirst
  · next state => exact absurd state notLater
  · next state => exact absurd state alive
  · rfl

end WSConnection

end Turn

end SwitchLanPlay.Rpc
