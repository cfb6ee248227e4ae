import Mathlib.Data.Fin.VecNotation
import Mathlib.Tactic.IntervalCases
import SwitchLanPlay.Foundation.Access
import SwitchLanPlay.Foundation.BlockHash

/-! `sha1.c` computes SHA-1 of FIPS 180 over the data of all calls of `SHA1Update`, in whatever
pieces. Its rounds rotate the names of the variables instead of their values, and keep sixteen
words of the schedule.
-/

namespace SwitchLanPlay.Client

open Function List Foundation

abbrev Sha1State := Fin 5 → UInt32

/-- The first octet is the most significant one. -/
def toWord (a b c d : UInt8) : UInt32 :=
  a.toUInt32 <<< 24 ||| b.toUInt32 <<< 16 ||| c.toUInt32 <<< 8 ||| d.toUInt32

def rol (value bits : UInt32) : UInt32 := value <<< bits ||| value >>> (32 - bits)

/-- The byte order is that of a little-endian machine. -/
def blk0 (word : UInt32) : UInt32 := rol word 24 &&& 0xFF00FF00 ||| rol word 8 &&& 0x00FF00FF

/-- What `blk0(i)` in the first sixteen rounds and `blk(i)` in the others store in `block`. -/
def blk (block : Nat → UInt32) (i : Nat) : UInt32 :=
  if i < 16 then blk0 (block i)
  else
    rol (block ((i + 13) % 16) ^^^ block ((i + 8) % 16) ^^^ block ((i + 2) % 16)
      ^^^ block (i % 16)) 1

def roundConstant (i : Nat) : UInt32 :=
  if i < 20 then 0x5A827999
  else if i < 40 then 0x6ED9EBA1
  else if i < 60 then 0x8F1BBCDC
  else 0xCA62C1D6

def roundMix (i : Nat) (w x y : UInt32) : UInt32 :=
  if i < 20 then w &&& (x ^^^ y) ^^^ y
  else if 40 ≤ i ∧ i < 60 then (w ||| x) &&& y ||| w &&& x
  else w ^^^ x ^^^ y

/-- Line `i` of the rounds. Its first argument is the variable in front of the one that the line
before has there, with `e` in front of `a`.
-/
def round (vars : Sha1State × (Nat → UInt32)) (i : Nat) : Sha1State × (Nat → UInt32) :=
  let v : Fin 5 := -Fin.ofNat 5 i
  let z := vars.1 (v + 4) + (roundMix i (vars.1 (v + 1)) (vars.1 (v + 2)) (vars.1 (v + 3))
    + blk vars.2 i + roundConstant i + rol (vars.1 v) 5)
  (update (update vars.1 (v + 4) z) (v + 1) (rol (vars.1 (v + 1)) 30),
    update vars.2 (i % 16) (blk vars.2 i))

def sha1Transform (state : Sha1State) (buffer : Bytes) : Sha1State :=
  let octet := fun i => buffer.getD i 0
  let block := fun i =>
    toWord (octet (4 * i + 3)) (octet (4 * i + 2)) (octet (4 * i + 1)) (octet (4 * i))
  fun k => state k + ((range 80).foldl round (state, block)).1 k

structure Sha1Ctx where
  state : Sha1State
  count0 : UInt32
  count1 : UInt32
  buffer : Fin 64 → UInt8

def sha1Start : Sha1State := ![0x67452301, 0xEFCDAB89, 0x98BADCFE, 0x10325476, 0xC3D2E1F0]

/-- The buffer is not initialised. -/
def sha1Init (buffer : Fin 64 → UInt8) : Sha1Ctx := ⟨sha1Start, 0, 0, buffer⟩

/-- Data of a length for which no sum of `SHA1Update` wraps. -/
abbrev Sha1Data := { data : Bytes // data.length + 63 < 2 ^ 32 }

theorem short_fits {data : Bytes} (short : data.length ≤ 8) : data.length + 63 < 2 ^ 32 := by
  omega

/-- The length of all data in bits, of which `count1` has the upper half. -/
def Sha1Ctx.count (context : Sha1Ctx) (len : UInt32) : Sha1Ctx :=
  let count0 := context.count0 + len <<< 3
  let carry := if count0 < context.count0 then context.count1 + 1 else context.count1
  { context with count0, count1 := carry + len >>> 29 }

def Sha1Ctx.update (context : Sha1Ctx) (data : Sha1Data) : Sha1Ctx :=
  let counted := context.count (.ofNat data.val.length)
  let j := (context.count0 >>> 3 &&& 63).toNat
  if 63 < j + data.val.length then
    let i := 64 - j
    let buffer := memcpy context.buffer j (data.val.take i)
    -- The loop over `i` transforms the whole blocks of what is left.
    let looped := absorb sha1Transform 64 (sha1Transform context.state (ofFn buffer))
      (data.val.drop i)
    { counted with state := looped.1, buffer := memcpy buffer 0 looped.2 }
  else { counted with buffer := memcpy context.buffer j data.val }

/-- The loop of `SHA1Final`, in at most `turns` turns. -/
def Sha1Ctx.padZeros? : Nat → Sha1Ctx → Option Sha1Ctx
  | 0, _ => none
  | turns + 1, context =>
    if context.count0 &&& 504 = 448 then some context
    else padZeros? turns (context.update ⟨[0], short_fits (Nat.le_add_left 1 7)⟩)

def Sha1State.digest (state : Sha1State) : Bytes := (ofFn state).flatMap (be32 ·.toNat)

/-- The result is missing if the loop does not end within the turns it needs for one block. -/
def Sha1Ctx.final? (context : Sha1Ctx) : Option Bytes :=
  let finalcount := be32 context.count1.toNat ++ be32 context.count0.toNat
  ((context.update ⟨[0x80], short_fits (Nat.le_add_left 1 7)⟩).padZeros? 64).map
    (fun padded => Sha1State.digest (padded.update ⟨finalcount, short_fits le_rfl⟩).state)

-- FIPS 180

def scheduled (words : Nat → UInt32) (t : Nat) : UInt32 :=
  if t < 16 then words t
  else
    rol (scheduled words (t - 3) ^^^ scheduled words (t - 8) ^^^ scheduled words (t - 14)
      ^^^ scheduled words (t - 16)) 1

def fipsMix (t : Nat) (b c d : UInt32) : UInt32 :=
  if t < 20 then b &&& c ^^^ ~~~b &&& d
  else if 40 ≤ t ∧ t < 60 then b &&& c ^^^ b &&& d ^^^ c &&& d
  else b ^^^ c ^^^ d

def fipsRound (words : Nat → UInt32) (h : Sha1State) (t : Nat) : Sha1State :=
  ![rol (h 0) 5 + fipsMix t (h 1) (h 2) (h 3) + h 4 + roundConstant t + scheduled words t,
    h 0, rol (h 1) 30, h 2, h 3]

def fipsCompress (h : Sha1State) (block : Bytes) : Sha1State :=
  let octet := fun i => block.getD i 0
  let words := fun t =>
    toWord (octet (4 * t)) (octet (4 * t + 1)) (octet (4 * t + 2)) (octet (4 * t + 3))
  fun k => h k + (range 80).foldl (fipsRound words) h k

def fipsPad (message : Bytes) : Bytes :=
  message ++ 0x80 :: replicate ((120 - (message.length + 1) % 64) % 64) 0
    ++ be32 (8 * message.length / 2 ^ 32) ++ be32 (8 * message.length)

def fipsSha1 (message : Bytes) : Bytes :=
  Sha1State.digest (absorb fipsCompress 64 sha1Start (fipsPad message)).1

-- The rounds

theorem roundMix_eq (i : Nat) (w x y : UInt32) : roundMix i w x y = fipsMix i w x y := by
  unfold roundMix fipsMix
  refine if_congr Iff.rfl ?_ (if_congr Iff.rfl ?_ rfl)
  · refine UInt32.toBitVec_inj.mp (BitVec.eq_of_getLsbD_eq ?_)
    intro bit inside
    simp only [UInt32.toBitVec_xor, UInt32.toBitVec_and, UInt32.toBitVec_not, BitVec.getLsbD_xor,
      BitVec.getLsbD_and, BitVec.getLsbD_not, inside, decide_true, Bool.true_and]
    cases w.toBitVec.getLsbD bit <;> simp
  · refine UInt32.toBitVec_inj.mp (BitVec.eq_of_getLsbD_eq ?_)
    intro bit _
    simp only [UInt32.toBitVec_xor, UInt32.toBitVec_and, UInt32.toBitVec_or, BitVec.getLsbD_xor,
      BitVec.getLsbD_and, BitVec.getLsbD_or]
    cases w.toBitVec.getLsbD bit <;> cases x.toBitVec.getLsbD bit <;> simp

theorem blk0_toWord (a b c d : UInt8) : blk0 (toWord a b c d) = toWord d c b a := by
  refine UInt32.toBitVec_inj.mp (BitVec.eq_of_getLsbD_eq ?_)
  intro bit inside
  interval_cases bit <;> simp [blk0, rol, toWord]

/-- The rounds so far: the variables are rotated, and `block` has the last sixteen words of the
schedule, or words of the buffer that are still to come.
-/
structure Simulates (block words : Nat → UInt32) (vars : Sha1State × (Nat → UInt32))
    (h : Sha1State) (t : Nat) : Prop where
  rotated : ∀ k, vars.1 (k - Fin.ofNat 5 t) = h k
  done : ∀ s < t, t ≤ s + 16 → vars.2 (s % 16) = scheduled words s
  ahead : ∀ s < 16, t ≤ s → vars.2 s = block s

variable {block words : Nat → UInt32} {vars : Sha1State × (Nat → UInt32)} {h : Sha1State} {t : Nat}

theorem Simulates.blk (swapped : ∀ s, blk0 (block s) = words s)
    (simulates : Simulates block words vars h t)
    : blk vars.2 t = scheduled words t := by
  rw [Client.blk, scheduled]
  split
  · rename_i first
    rw [simulates.ahead t first le_rfl, swapped]
  · rename_i later
    have kept {index : Nat} (s : Nat) (before : s < t) (near : t ≤ s + 16)
        (place : index = s % 16)
        : vars.2 index = scheduled words s := by
      rw [place, simulates.done s before near]
    rw [kept (t - 3) (by omega) (by omega) (by omega),
      kept (t - 8) (by omega) (by omega) (by omega),
      kept (t - 14) (by omega) (by omega) (by omega),
      kept (t - 16) (by omega) (by omega) (by omega)]

theorem Simulates.round (swapped : ∀ s, blk0 (block s) = words s)
    (simulates : Simulates block words vars h t)
    : Simulates block words (round vars t) (fipsRound words h t) (t + 1) where
  rotated k := by
    have place : k - Fin.ofNat 5 (t + 1) = -Fin.ofNat 5 t + (k + 4) := by
      have next : Fin.ofNat 5 (t + 1) = Fin.ofNat 5 t + 1 := Fin.ext (by simp [Fin.val_add])
      rw [next]
      generalize Fin.ofNat 5 t = n
      revert k n
      decide
    have before (k : Fin 5) : h k = vars.1 (-Fin.ofNat 5 t + k) := by
      rw [← simulates.rotated, sub_eq_neg_add]
    rw [place]
    simp only [Client.round, fipsRound, before, simulates.blk swapped, roundMix_eq]
    generalize -Fin.ofNat 5 t = v
    fin_cases k <;> simp
    ac_rfl
  done s before near := by
    simp only [Client.round, update_apply]
    split
    · rename_i same
      obtain rfl : s = t := by omega
      exact simulates.blk swapped
    · rename_i other
      refine simulates.done s (lt_of_le_of_ne (Nat.le_of_lt_succ before) ?_) (by omega)
      exact fun same => other (congrArg (· % 16) same)
  ahead s low high := by
    simp only [Client.round, update_apply]
    rw [if_neg (by omega)]
    exact simulates.ahead s low (by omega)

theorem sha1Transform_eq (state : Sha1State) (buffer : Bytes)
    : sha1Transform state buffer = fipsCompress state buffer := by
  unfold sha1Transform fipsCompress
  extract_lets octet block words
  have simulates (t : Nat)
      : Simulates block words ((range t).foldl round (state, block))
          ((range t).foldl (fipsRound words) state) t := by
    induction t with
    | zero => exact ⟨fun k => by simp, nofun, fun _ _ _ => rfl⟩
    | succ t ih =>
      rw [range_succ, foldl_concat, foldl_concat]
      exact ih.round (fun _ => blk0_toWord ..)
  funext k
  have whole : k - Fin.ofNat 5 80 = k := sub_zero k
  rw [← (simulates 80).rotated k, whole]

-- The context

/-- The context behind the octets of a message. -/
structure Sha1Ctx.Tracks (context : Sha1Ctx) (message : Bytes) : Prop where
  absorbed
    : absorb sha1Transform 64 sha1Start message
      = (context.state, (ofFn context.buffer).take (message.length % 64))
  count0 : context.count0.toNat = 8 * message.length % 2 ^ 32
  count1 : context.count1.toNat = 8 * message.length / 2 ^ 32 % 2 ^ 32

variable {context : Sha1Ctx} {message : Bytes}

theorem Sha1Ctx.Tracks.place (tracks : context.Tracks message)
    : (context.count0 >>> 3 &&& 63).toNat = message.length % 64 := by
  have count0 := tracks.count0
  have low (n : Nat) : n &&& 63 = n % 64 := Nat.and_two_pow_sub_one_eq_mod n 6
  simp [low, Nat.shiftRight_eq_div_pow]
  omega

theorem Sha1Ctx.update_count (context : Sha1Ctx) (data : Sha1Data)
    : (context.update data).count0 = (context.count (.ofNat data.val.length)).count0
      ∧ (context.update data).count1 = (context.count (.ofNat data.val.length)).count1 := by
  unfold update
  dsimp only
  split <;> exact ⟨rfl, rfl⟩

theorem Sha1Ctx.Tracks.update (tracks : context.Tracks message) (data : Sha1Data)
    : (context.update data).Tracks (message ++ data.val) where
  absorbed := by
    have place := tracks.place
    have bound : message.length % 64 < 64 := Nat.mod_lt _ (by decide)
    rw [absorb_append, tracks.absorbed, length_append, ← Nat.mod_add_mod]
    generalize message.length % 64 = j at place bound
    obtain ⟨data, _⟩ := data
    have length : ((ofFn context.buffer).take j).length = j := by
      rw [length_take, length_ofFn]
      omega
    simp only [Sha1Ctx.update, place]
    split
    · have filled
          : (ofFn context.buffer).take j ++ data.take (64 - j)
            = ofFn (memcpy context.buffer j (data.take (64 - j))) := by
        have taken : (data.take (64 - j)).length = 64 - j := by
          rw [length_take]
          omega
        rw [← take_ofFn_memcpy _ (by omega), take_of_length_le (by rw [length_ofFn]; omega)]
      have split
          : (ofFn context.buffer).take j ++ data
            = ofFn (memcpy context.buffer j (data.take (64 - j))) ++ data.drop (64 - j) := by
        rw [← filled, append_assoc, take_append_drop]
      rw [split, absorb_block _ _ (by decide) (length_ofFn ..)]
      have rest := length_absorb sha1Transform 64 (by decide)
        (sha1Transform context.state (ofFn (memcpy context.buffer j (data.take (64 - j)))))
        (data.drop (64 - j))
      have count : (j + data.length) % 64 = 0 + (data.drop (64 - j)).length % 64 := by
        rw [length_drop]
        omega
      dsimp only
      rw [count, ← rest, take_ofFn_memcpy _ (by omega)]
      rfl
    · rw [absorb_short _ _ (by rw [length_append, length]; omega), Nat.mod_eq_of_lt (by omega),
        take_ofFn_memcpy _ (by omega)]
      rfl
  count0 := by
    have count0 := tracks.count0
    have bound := data.property
    rw [(context.update_count data).1]
    simp [count]
    omega
  count1 := by
    have count0 := tracks.count0
    have count1 := tracks.count1
    have bound := data.property
    rw [(context.update_count data).2]
    simp only [count, UInt32.lt_iff_toNat_lt]
    split
    · rename_i carries
      simp [Nat.shiftRight_eq_div_pow] at carries ⊢
      omega
    · rename_i fits
      simp [Nat.shiftRight_eq_div_pow] at fits ⊢
      omega

/-- The loop of `SHA1Final` ends when the length is left to be added to a block. -/
theorem Sha1Ctx.Tracks.padZeros? (tracks : context.Tracks message) {turns : Nat}
    (enough : (120 - message.length % 64) % 64 < turns)
    : ∃ padded,
        context.padZeros? turns = some padded
        ∧ padded.Tracks (message ++ replicate ((120 - message.length % 64) % 64) 0) := by
  induction turns generalizing context message with
  | zero => omega
  | succ turns ih =>
    have guard : context.count0 &&& 504 = 448 ↔ message.length % 64 = 56 := by
      have count0 := tracks.count0
      have low (n : Nat) : n &&& 63 = n % 64 := Nat.and_two_pow_sub_one_eq_mod n 6
      have whole : (context.count0.toNat &&& 504) % 2 ^ 3 = context.count0.toNat % 2 ^ 3 &&& 0 :=
        Nat.and_mod_two_pow
      have place : (context.count0.toNat &&& 504) / 2 ^ 3 = context.count0.toNat / 2 ^ 3 &&& 63 :=
        Nat.and_div_two_pow
      rw [Nat.and_zero] at whole
      rw [low] at place
      rw [← UInt32.toNat_inj, UInt32.toNat_and]
      change context.count0.toNat &&& 504 = 448 ↔ _
      omega
    rw [Sha1Ctx.padZeros?]
    split
    · rename_i ended
      rw [guard.mp ended]
      exact ⟨context, rfl, by simpa using tracks⟩
    · rename_i short
      rw [guard] at short
      have next
          : (120 - message.length % 64) % 64 = (120 - (message ++ [0]).length % 64) % 64 + 1 := by
        rw [length_append, length_singleton]
        omega
      rw [next] at enough
      obtain ⟨padded, ended, padding⟩ :=
        ih (tracks.update ⟨[0], short_fits (Nat.le_add_left 1 7)⟩) (Nat.lt_of_succ_lt_succ enough)
      refine ⟨padded, ended, ?_⟩
      rw [next, replicate_succ]
      simpa using padding

theorem be32_mod (value : Nat) : be32 (value % 2 ^ 32) = be32 value := by
  simp only [be32, be16, cons_append, nil_append, cons.injEq, ← UInt8.toNat_inj,
    UInt8.toNat_ofNat', and_true]
  omega

theorem Sha1Ctx.Tracks.final? (tracks : context.Tracks message)
    : context.final? = some (fipsSha1 message) := by
  have same : sha1Transform = fipsCompress := funext fun state => funext (sha1Transform_eq state)
  obtain ⟨padded, ended, padding⟩ :=
    (tracks.update ⟨[0x80], short_fits (Nat.le_add_left 1 7)⟩).padZeros? (Nat.mod_lt _ (by decide))
  have counted := (padding.update
    ⟨be32 context.count1.toNat ++ be32 context.count0.toNat, short_fits le_rfl⟩).absorbed
  have whole
      : message ++ [0x80] ++ replicate ((120 - (message ++ [0x80]).length % 64) % 64) 0
          ++ (be32 context.count1.toNat ++ be32 context.count0.toNat)
        = fipsPad message := by
    rw [tracks.count0, tracks.count1, be32_mod, be32_mod, fipsPad]
    simp
  rw [whole, same] at counted
  rw [Sha1Ctx.final?, ended, fipsSha1, counted]
  rfl

/-- `SHA1Init`, any calls of `SHA1Update` and `SHA1Final` return the SHA-1 of the data of all
calls.
-/
theorem sha1_chunks (buffer : Fin 64 → UInt8) (chunks : List Sha1Data)
    : (chunks.foldl Sha1Ctx.update (sha1Init buffer)).final?
      = some (fipsSha1 (chunks.flatMap Subtype.val)) := by
  refine Sha1Ctx.Tracks.final? ?_
  induction chunks using reverseRecOn with
  | nil => exact ⟨absorb_short _ _ (by decide) _, rfl, rfl⟩
  | append_singleton chunks data ih =>
    rw [foldl_concat, flatMap_append, flatMap_singleton]
    exact ih.update data

end SwitchLanPlay.Client
