import SwitchLanPlay.LdnMitm.Protocol

/-! Encodings that expand to more than the buffer of `decompress`. The loop notices octets that are
left over, but not that it has left a run early.
-/

namespace SwitchLanPlay.LdnMitm

open List Option
open Foundation

variable {capacity : Nat} {input : Bytes}

/-- The last run begins inside a buffer of `capacity` octets and ends outside. -/
def CutRun (input : Bytes) (capacity : Nat) : Prop :=
  ∃ front count data,
    input = front ++ [0, count]
    ∧ expand front = some data
    ∧ data.length < capacity
    ∧ capacity < data.length + 1 + count.toNat

theorem expand_append {front data : Bytes} (expands : expand front = some data) (rest : Bytes)
    : expand (front ++ rest) = (expand rest).map (data ++ ·) := by
  fun_induction expand front generalizing data with
  | case1 =>
    cases expands
    simp
  | case2 => cases expands
  | case3 count front ih =>
    obtain ⟨tail, inner, rfl⟩ := map_eq_some_iff.mp expands
    rw [cons_append, cons_append, expand_run, ih inner, Option.map_map]
    simp [Function.comp_def]
  | case4 c front other ih =>
    obtain ⟨tail, inner, rfl⟩ := map_eq_some_iff.mp expands
    rw [cons_append, expand_other other, ih inner, Option.map_map]
    simp [Function.comp_def]

theorem expand_singleRun (count : UInt8)
    : expand [0, count] = some (replicate (count.toNat + 1) 0) := by
  rw [expand_run]
  simp [expand]

theorem eq_nil_of_expand {input : Bytes} (expands : expand input = some []) : input = [] := by
  fun_cases expand input with
  | case1 => rfl
  | case2 => cases expands
  | case3 count rest =>
    rw [expand_run] at expands
    obtain ⟨tail, _, empty⟩ := map_eq_some_iff.mp expands
    simp [replicate_succ] at empty
  | case4 c rest other =>
    rw [expand_other other] at expands
    obtain ⟨tail, _, empty⟩ := map_eq_some_iff.mp expands
    cases empty

/-- A cut run fills the buffer and is not noticed. -/
theorem decompress_cut {front data : Bytes} {count : UInt8} (expands : expand front = some data)
    (begins : data.length < capacity) (ends : capacity < data.length + 1 + count.toNat)
    : decompress (front ++ [0, count]) capacity
      = some (data ++ replicate (capacity - data.length) 0) := by
  have room : ([] : Bytes).length + data.length ≤ capacity := by
    rw [length_nil]
    omega
  have cut : min count.toNat (capacity - (data.length + 1)) = capacity - (data.length + 1) := by
    omega
  have filled : capacity - data.length = capacity - (data.length + 1) + 1 := by omega
  unfold decompress
  rw [decompressLoop_append front _ expands room, nil_append,
    decompressLoop_run count [] begins, cut, filled, replicate_succ]
  simp [decompressLoop]

/-- A successful loop has expanded the whole input or has cut its last run. Witness: along the
rounds of the loop; behind a cut run there is no space for another octet.
-/
theorem decompressLoop_some {out output : Bytes} (inside : out.length ≤ capacity)
    (done : decompressLoop capacity input out = some output)
    : (∃ data,
        expand input = some data
        ∧ out.length + data.length ≤ capacity
        ∧ output = out ++ data)
      ∨ ∃ front count data,
          input = front ++ [0, count]
          ∧ expand front = some data
          ∧ out.length + data.length < capacity
          ∧ capacity < out.length + data.length + 1 + count.toNat := by
  fun_induction decompressLoop capacity input out with
  | case1 out =>
    cases done
    exact .inl ⟨[], rfl, inside, by simp⟩
  | case2 => cases done
  | case3 => cases done
  | case4 out space count rest ih =>
    have length
        : (out ++ [0]
            ++ replicate (min count.toNat (capacity - (out.length + 1))) 0 : Bytes).length
          = out.length + 1 + min count.toNat (capacity - (out.length + 1)) := by
      rw [length_append, length_append, length_singleton, length_replicate]
    rcases ih (by rw [length]; omega) done with
      ⟨data, expands, fits, same⟩ | ⟨front, last, data, split, expands, begins, ends⟩
    · rw [length] at fits
      by_cases whole : count.toNat ≤ capacity - (out.length + 1)
      · rw [Nat.min_eq_left whole] at fits same
        refine .inl ⟨replicate (count.toNat + 1) 0 ++ data, ?_, ?_, ?_⟩
        · rw [expand_run, expands, map_some]
        · simp only [length_append, length_replicate]
          omega
        · rw [same]
          simp [replicate_succ]
      · have full : data.length = 0 := by omega
        rw [length_eq_zero_iff.mp full] at expands
        refine .inr ⟨[], count, [], ?_, rfl, ?_, ?_⟩
        · rw [eq_nil_of_expand expands]
          rfl
        · simp only [length_nil]
          omega
        · simp only [length_nil]
          omega
    · rw [length] at begins ends
      refine .inr ⟨0 :: count :: front, last, replicate (count.toNat + 1) 0 ++ data,
        by rw [split]; rfl, ?_, ?_, ?_⟩
      · rw [expand_run, expands, map_some]
      · simp only [length_append, length_replicate]
        omega
      · simp only [length_append, length_replicate]
        omega
  | case5 c rest out space other ih =>
    have length : (out ++ [c]).length = out.length + 1 := by simp
    rcases ih (by rw [length]; omega) done with
      ⟨data, expands, fits, same⟩ | ⟨front, last, data, split, expands, begins, ends⟩
    · rw [length] at fits
      refine .inl ⟨c :: data, ?_, ?_, ?_⟩
      · rw [expand_other other, expands, map_some]
      · rw [length_cons]
        omega
      · rw [same]
        simp
    · rw [length] at begins ends
      refine .inr ⟨c :: front, last, c :: data, by rw [split]; rfl, ?_, ?_, ?_⟩
      · rw [expand_other other, expands, map_some]
      · rw [length_cons]
        omega
      · rw [length_cons]
        omega

/-- A successful `decompress` returns the expansion, unless the last run is cut. -/
theorem decompress_some_cases {output : Bytes} (done : decompress input capacity = some output)
    : (∃ data, expand input = some data ∧ data.length ≤ capacity ∧ output = data)
      ∨ CutRun input capacity := by
  rcases decompressLoop_some (Nat.zero_le _) done with
    ⟨data, expands, fits, same⟩ | ⟨front, count, data, split, expands, begins, ends⟩
  · exact .inl ⟨data, expands, by simpa using fits, same⟩
  · refine .inr ⟨front, count, data, split, expands, ?_, ?_⟩
    · simpa using begins
    · simpa using ends

/-- What a cut run leaves out of the expansion. -/
theorem CutRun.spec (cut : CutRun input capacity)
    : ∃ output data,
        decompress input capacity = some output
        ∧ output.length = capacity
        ∧ expand input = some data
        ∧ capacity < data.length := by
  obtain ⟨front, count, data, rfl, expands, begins, ends⟩ := cut
  refine ⟨_, data ++ replicate (count.toNat + 1) 0, decompress_cut expands begins ends,
    ?_, ?_, ?_⟩
  · rw [length_append, length_replicate]
    omega
  · rw [expand_append expands, expand_singleRun, map_some]
  · rw [length_append, length_replicate]
    omega

/-- `decompress` succeeds with the whole expansion only, exactly when the last run is not cut, and
`recvPacket` hands over no less than the expansion exactly when a packet with a cut run does not
claim the size of the buffer.
-/
theorem decompress_whole_iff (input : Bytes) (capacity : Nat)
    : ((∀ output,
          decompress input capacity = some output
          → ∃ data,
              expand input = some data
              ∧ data.length ≤ capacity
              ∧ output.length = data.length)
        ↔ ¬ CutRun input capacity)
      ∧ ∀ (socket : LanSocket) (arrived packet : Bytes),
          (socket.recvPartPacket arrived).2 = some packet
          → (readLANPacketHeader packet).compressed ≠ 0
          → ((∀ type body,
                (socket.recvPacket (.ok arrived)).2 = .callback type body
                → ∃ data,
                    expand (packet.drop headerSize) = some data ∧ data.length ≤ body.length)
            ↔ (CutRun (packet.drop headerSize) bufferSize
              → (readLANPacketHeader packet).decompressLength ≠ bufferSize)) := by
  refine ⟨?_, ?_⟩
  · constructor
    · intro exact cut
      obtain ⟨output, data, done, full, expands, longer⟩ := cut.spec
      obtain ⟨whole, same, fits, _⟩ := exact output done
      cases expands.symm.trans same
      omega
    · intro uncut output done
      rcases decompress_some_cases done with ⟨data, expands, fits, same⟩ | cut
      · exact ⟨data, expands, fits, congrArg List.length same⟩
      · exact absurd cut uncut
  · intro socket arrived packet complete compressed
    have outcome : (socket.recvPacket (.ok arrived)).2 = decodePacket packet := by
      simp [LanSocket.recvPacket, complete]
    rw [outcome]
    unfold decodePacket
    dsimp only
    rw [if_pos compressed]
    constructor
    · intro whole cut claimed
      obtain ⟨output, data, done, full, expands, longer⟩ := cut.spec
      rw [done] at whole
      dsimp only at whole
      rw [if_neg (by omega)] at whole
      obtain ⟨same, again, fits⟩ := whole _ _ rfl
      cases expands.symm.trans again
      omega
    · intro unclaimed type body called
      split at called
      · cases called
      · rename_i output done
        split at called
        · cases called
        · rename_i claimed
          cases called
          rcases decompress_some_cases done with ⟨data, expands, _, rfl⟩ | cut
          · exact ⟨_, expands, le_rfl⟩
          · obtain ⟨full, data, again, length, _⟩ := cut.spec
            cases done.symm.trans again
            exact absurd (by omega) (unclaimed cut)

def cutPacket : Bytes :=
  (⟨lanMagic, LANPacketType.connect.toByte, 1, 17, bufferSize⟩ : LANPacketHeader).toBytes
    ++ 1 :: (replicate 8 [0, 255]).flatten

theorem expand_runs (octet : UInt8) (count : Nat)
    : expand (replicate count [0, octet]).flatten
      = some (replicate ((octet.toNat + 1) * count) 0) := by
  induction count with
  | zero => rfl
  | succ count ih =>
    rw [replicate_succ, flatten_cons, expand_append (expand_singleRun octet), ih,
      map_some, ← replicate_add, Nat.mul_succ, Nat.add_comm]

theorem cutPacket_cut : CutRun (cutPacket.drop headerSize) bufferSize := by
  refine ⟨1 :: (replicate 7 [0, 255]).flatten, 255,
    1 :: replicate (((255 : UInt8).toNat + 1) * 7) 0, rfl, ?_, ?_, ?_⟩
  · rw [expand_other (by decide), expand_runs, map_some]
  · rw [length_cons, length_replicate]
    decide
  · rw [length_cons, length_replicate]
    decide

/-- Six zeros are decompressed to three without an error, and a packet reaches the callback with
2048 octets of 2049.
-/
theorem cut_run_unnoticed
    : (decompress [0, 5] 3 = some [0, 0, 0] ∧ expand [0, 5] = some [0, 0, 0, 0, 0, 0])
      ∧ ∃ body data,
          (LanSocket.empty.recvPacket (.ok cutPacket)).2
            = .callback LANPacketType.connect.toByte body
          ∧ body.length = 2048
          ∧ expand (cutPacket.drop headerSize) = some data
          ∧ body.length < data.length := by
  refine ⟨by decide +kernel, ?_⟩
  obtain ⟨body, data, done, full, expands, longer⟩ := cutPacket_cut.spec
  refine ⟨body, data, ?_, full, expands, by omega⟩
  have isPacket : IsPacket cutPacket := ⟨by decide +kernel, by decide +kernel⟩
  rw [recvPacket_whole isPacket (by decide +kernel)]
  unfold decodePacket
  dsimp only
  rw [if_pos (by decide +kernel), done]
  dsimp only
  rw [if_neg]
  · rfl
  · rw [full, not_ne_iff]
    decide +kernel

end SwitchLanPlay.LdnMitm
