import Encointer.Library.LittleEndian
import Encointer.Library.Machine
import Encointer.Library.Rejection
import Encointer.Primitives.Random

/-!
# The generator over a hash

The generator hands out the bytes of a hash output, and hashes it again where
they run out. A draw takes as many bytes as the range needs and is rejected above
the last multiple of the range. The sequence of accepted draws is the generator
of `Primitives.Random`, so what is proved about that one holds of this one.
-/

namespace Encointer.Hashed

open Checked Rejection

/-- A hash whose outputs have one length, of at least four bytes. -/
structure Hashing where
  outputLength : Nat
  four_le : 4 ≤ outputLength
  hash : List UInt8 → Vector UInt8 outputLength

structure RandomNumberGenerator (hashing : Hashing) where
  current : Vector UInt8 hashing.outputLength
  offset : Nat

/-! ## Widths and cut-offs -/

/-- `u32::leading_zeros`. -/
def leadingZeros (x : Nat) : Nat := if x = 0 then 32 else 31 - x.log2

/-- How many bytes a draw takes. -/
def needed (max : Nat) : Nat := 4 - leadingZeros max / 8

/-- The largest draw that is accepted. -/
def top (max : Nat) : Option Nat := do
  let range ← addU64 max 1
  let draws ← shlOneU64 (← mulU64 (needed max) 8)
  let multiple ← mulU64 (← divU64 draws range) range
  let last ← subU64 multiple 1
  some (last % 2 ^ 32)

/-- The bytes from `start` to `stop`; an index out of order or range panics. -/
def slice {α : Type} (data : List α) (start stop : Nat) : Option (List α) :=
  if start ≤ stop ∧ stop ≤ data.length then some ((data.take stop).drop start) else none

/-- Behind the end of the data, the decoder reads zeros. -/
def decodeU32 (data : List UInt8) : Nat :=
  LittleEndian.bytesToNat ((data ++ List.replicate 4 0).take 4)

/-- The draw as a number of the range. -/
def reduce (max raw : Nat) : Option Nat :=
  if max < u32Max then do
    let range ← addU32 max 1
    some (raw % range)
  else
    some raw

/-! ## Picks -/

namespace RandomNumberGenerator

variable {hashing : Hashing} (random : RandomNumberGenerator hashing)

def new (seed : Vector UInt8 hashing.outputLength) : RandomNumberGenerator hashing := ⟨seed, 0⟩

/-- Hashes again when too few bytes are left. -/
def refill (needed : Nat) : RandomNumberGenerator hashing :=
  if hashing.outputLength < random.offset + needed then
    ⟨hashing.hash random.current.toList, 0⟩
  else
    random

def nextRaw (needed : Nat) : Option (Nat × RandomNumberGenerator hashing) := do
  let random := random.refill needed
  let data ← slice random.current.toList random.offset (random.offset + needed)
  some (decodeU32 data, { random with offset := wrappingAddU32 random.offset needed })

/-- One turn of the rejection loop. -/
def pickTurn (max top : Nat) (random : RandomNumberGenerator hashing) :
    Option (Option Nat × RandomNumberGenerator hashing) := do
  let (raw, random) ← random.nextRaw (needed max)
  if raw ≤ top then do
    let n ← reduce max raw
    some (some n, random)
  else
    some (none, random)

/-- Returns a number at least zero, at most `max`. -/
def pickU32 (fuel max : Nat) : Except Stop (Nat × RandomNumberGenerator hashing) := do
  let top ← okOr (top max) .panicked
  retry (pickTurn max top) fuel random

def pickUsize (fuel max : Nat) : Except Stop (Nat × RandomNumberGenerator hashing) :=
  random.pickU32 fuel (max % 2 ^ 32)

end RandomNumberGenerator

/-! ## Permutations -/

/-- `n` draws without replacement, with as many turns for each draw. -/
def permutationLoop {α : Type} {hashing : Hashing} (fuel : Nat) :
    Nat → List α → RandomNumberGenerator hashing →
      Except Stop (List α × RandomNumberGenerator hashing)
  | 0, _, random => .ok ([], random)
  | n + 1, input, random => do
      let (i, random) ← random.pickUsize fuel n
      let (x, input) ← okOr (swapRemove input i) .panicked
      let (r, random) ← permutationLoop fuel n input random
      .ok (x :: r, random)

def randomPermutation {α : Type} {hashing : Hashing} (fuel : Nat) (input : List α)
    (random : RandomNumberGenerator hashing) :
    Except Stop (Option (List α) × RandomNumberGenerator hashing) :=
  if input.isEmpty then
    .ok (none, random)
  else do
    let (r, random) ← permutationLoop fuel input.length input random
    .ok (some r, random)

/-! ## The arithmetic of a range -/

theorem needed_le (max : Nat) : needed max ≤ 4 := Nat.sub_le _ _

theorem range_le_draws {max : Nat} (hmax : max < 2 ^ 32) : max + 1 ≤ 256 ^ needed max := by
  have hpow : 256 ^ needed max = 2 ^ (8 * needed max) := by rw [Nat.pow_mul]
  rw [hpow]
  by_cases hzero : max = 0
  · rw [hzero]
    exact Nat.one_le_two_pow
  · have hbits : max.log2 + 1 ≤ 8 * needed max := by
      have hlog : max.log2 < 32 := (Nat.log2_lt hzero).mpr hmax
      unfold needed leadingZeros
      rw [if_neg hzero]
      omega
    calc max + 1 ≤ 2 ^ (max.log2 + 1) := Nat.lt_log2_self
      _ ≤ 2 ^ (8 * needed max) := Nat.pow_le_pow_right (by decide) hbits

theorem draws_le (max : Nat) : 256 ^ needed max ≤ 2 ^ 32 :=
  Nat.pow_le_pow_right (by decide) (needed_le max) |>.trans (by decide)

theorem accepted_range_pos {max : Nat} (hmax : max < 2 ^ 32) :
    0 < accepted (256 ^ needed max) (max + 1) :=
  accepted_pos (Nat.succ_pos max) (range_le_draws hmax)

theorem top_eq {max : Nat} (hmax : max < 2 ^ 32) :
    top max = some (accepted (256 ^ needed max) (max + 1) - 1) := by
  have hneeded := needed_le max
  have hrange := range_le_draws hmax
  have hdraws := draws_le max
  have hle := accepted_le (256 ^ needed max) (max + 1)
  have hpos := accepted_range_pos hmax
  have hshift : 2 ^ (needed max * 8) = 256 ^ needed max := by rw [Nat.mul_comm, Nat.pow_mul]
  unfold accepted at hle hpos ⊢
  unfold top
  rw [addU64_of_lt (by omega), mulU64_of_lt (by omega)]
  simp only [Option.bind_eq_bind, Option.bind_some]
  rw [shlOneU64_of_lt (by omega), hshift]
  simp only [Option.bind_some]
  rw [divU64_of_pos (show 0 < max + 1 by omega)]
  simp only [Option.bind_some]
  rw [mulU64_of_lt (by omega)]
  simp only [Option.bind_some]
  rw [subU64_of_le hpos, Option.bind_some, Nat.mod_eq_of_lt (by omega)]

theorem reduce_eq {max raw : Nat} (hmax : max < 2 ^ 32) (hraw : raw < 2 ^ 32) :
    reduce max raw = some (raw % (max + 1)) := by
  unfold reduce
  by_cases hlt : max < u32Max
  · have hfits : max + 1 < 2 ^ 32 := by unfold u32Max at hlt; omega
    rw [if_pos hlt, addU32_of_lt hfits]
    rfl
  · have hmax' : max + 1 = 2 ^ 32 := by unfold u32Max at hlt; omega
    rw [if_neg hlt, hmax', Nat.mod_eq_of_lt hraw]

/-! ## One draw -/

theorem decodeU32_eq {data : List UInt8} (h : data.length ≤ 4) :
    decodeU32 data = LittleEndian.bytesToNat data := by
  unfold decodeU32
  rw [List.take_append, List.take_of_length_le h, List.take_replicate,
    LittleEndian.bytesToNat_append_zeros]

section

variable {hashing : Hashing} (random : RandomNumberGenerator hashing)

theorem refill_fits {n : Nat} (hn : n ≤ 4) :
    (random.refill n).offset + n ≤ hashing.outputLength := by
  have hlength := hashing.four_le
  unfold RandomNumberGenerator.refill
  by_cases hempty : hashing.outputLength < random.offset + n
  · rw [if_pos hempty]
    show 0 + n ≤ _
    omega
  · rw [if_neg hempty]
    omega

theorem nextRaw_eq {n : Nat} (hn : n ≤ 4) :
    ∃ data next, data.length = n ∧
      next.offset = wrappingAddU32 (random.refill n).offset n ∧
      random.nextRaw n = some (LittleEndian.bytesToNat data, next) := by
  have hfits := refill_fits random hn
  have hlength := (random.refill n).current.length_toList
  generalize hrefilled : random.refill n = refilled at hfits hlength ⊢
  refine ⟨(refilled.current.toList.take (refilled.offset + n)).drop refilled.offset,
    { refilled with offset := wrappingAddU32 refilled.offset n }, ?_, rfl, ?_⟩
  · rw [List.length_drop, List.length_take, hlength]
    omega
  · have hdata : slice refilled.current.toList refilled.offset (refilled.offset + n) =
        some ((refilled.current.toList.take (refilled.offset + n)).drop refilled.offset) :=
      if_pos ⟨Nat.le_add_right _ _, by omega⟩
    unfold RandomNumberGenerator.nextRaw
    simp only [hrefilled, hdata, Option.bind_eq_bind, Option.bind_some]
    rw [decodeU32_eq]
    rw [List.length_drop, List.length_take, hlength]
    omega

/-- The offset never wraps when a hash output is shorter than `2 ^ 32` bytes. -/
theorem nextRaw_offset {n raw : Nat} {next : RandomNumberGenerator hashing} (hn : n ≤ 4)
    (hlength : hashing.outputLength < 2 ^ 32) (h : random.nextRaw n = some (raw, next)) :
    next.offset = (random.refill n).offset + n := by
  obtain ⟨data, after, -, hoffset, heq⟩ := nextRaw_eq random hn
  have hfits := refill_fits random hn
  have hnext : after = next := by
    rw [heq] at h
    exact (Prod.mk.inj (Option.some.inj h)).2
  rw [← hnext, hoffset]
  exact wrappingAddU32_of_lt (by omega)

end

/-! ## What a draw is worth -/

/-- The number that a draw gives, unless it is rejected. -/
def drawValue (max raw : Nat) : Option Nat := do
  let cut ← top max
  if raw ≤ cut then reduce max raw else none

theorem drawValue_eq {max raw : Nat} (hmax : max < 2 ^ 32) (hraw : raw < 256 ^ needed max) :
    drawValue max raw =
      if raw < accepted (256 ^ needed max) (max + 1) then some (raw % (max + 1)) else none := by
  have hpos := accepted_range_pos hmax
  have hdraws := draws_le max
  unfold drawValue
  rw [top_eq hmax, Option.bind_eq_bind, Option.bind_some]
  by_cases hlt : raw < accepted (256 ^ needed max) (max + 1)
  · rw [if_pos hlt, if_pos (by omega), reduce_eq hmax (by omega)]
  · rw [if_neg hlt, if_neg (by omega)]

/-- The draws that give a number. -/
def drawsOf (max value : Nat) : Finset Nat :=
  (Finset.range (256 ^ needed max)).filter fun raw => drawValue max raw = some value

theorem card_drawsOf {max value : Nat} (hmax : max < 2 ^ 32) (hvalue : value ≤ max) :
    (drawsOf max value).card = 256 ^ needed max / (max + 1) := by
  rw [← card_accepted (Nat.lt_succ_of_le hvalue)]
  congr 1
  ext raw
  have hle := accepted_le (256 ^ needed max) (max + 1)
  simp only [drawsOf, Finset.mem_filter, Finset.mem_range]
  constructor
  · rintro ⟨hraw, hdraw⟩
    rw [drawValue_eq hmax hraw] at hdraw
    by_cases hlt : raw < accepted (256 ^ needed max) (max + 1)
    · rw [if_pos hlt] at hdraw
      exact ⟨hlt, Option.some.inj hdraw⟩
    · simp [hlt] at hdraw
  · rintro ⟨hlt, hmod⟩
    have hraw : raw < 256 ^ needed max := Nat.lt_of_lt_of_le hlt hle
    rw [drawValue_eq hmax hraw, if_pos hlt, hmod]
    exact ⟨hraw, rfl⟩

/-- Every draw is the number of exactly one string of bytes. -/
theorem existsUnique_bytes {max raw : Nat} (hraw : raw < 256 ^ needed max) :
    ∃! data : List UInt8, data.length = needed max ∧ decodeU32 data = raw := by
  have hneeded := needed_le max
  have hlength := LittleEndian.length_natToBytes (needed max) raw
  refine ⟨LittleEndian.natToBytes (needed max) raw, ⟨hlength, ?_⟩, ?_⟩
  · rw [decodeU32_eq (by omega), LittleEndian.bytesToNat_natToBytes hraw]
  · rintro data ⟨hdata, rfl⟩
    rw [decodeU32_eq (by omega), ← hdata, LittleEndian.natToBytes_bytesToNat]

/-! ## The rejection loop -/

section

variable {hashing : Hashing} (random : RandomNumberGenerator hashing)

theorem pickTurn_eq {max cut : Nat} (hmax : max < 2 ^ 32) (hcut : top max = some cut) :
    ∃ raw next, raw < 256 ^ needed max ∧
      RandomNumberGenerator.pickTurn max cut random = some (drawValue max raw, next) := by
  obtain ⟨data, next, hdata, -, hraw⟩ := nextRaw_eq random (needed_le max)
  have hlt := LittleEndian.bytesToNat_lt data
  rw [hdata] at hlt
  have hdraws := draws_le max
  refine ⟨LittleEndian.bytesToNat data, next, hlt, ?_⟩
  rw [drawValue, hcut, Option.bind_eq_bind, Option.bind_some]
  unfold RandomNumberGenerator.pickTurn
  simp only [hraw, Option.bind_eq_bind, Option.bind_some]
  by_cases hle : LittleEndian.bytesToNat data ≤ cut
  · rw [if_pos hle, if_pos hle, reduce_eq hmax (by omega)]
    rfl
  · rw [if_neg hle, if_neg hle]

/-- Some turn of the rejection loop accepts its draw. -/
def RejectionEnds (max : Nat) : Prop :=
  ∃ cut, top max = some cut ∧ Accepts (RandomNumberGenerator.pickTurn max cut) random

theorem pickU32_eq {max cut : Nat} (hcut : top max = some cut) (fuel : Nat) :
    random.pickU32 fuel max = retry (RandomNumberGenerator.pickTurn max cut) fuel random := by
  rw [RandomNumberGenerator.pickU32, hcut]
  rfl

theorem pickU32_ne_panicked {max : Nat} (hmax : max < 2 ^ 32) (fuel : Nat) :
    random.pickU32 fuel max ≠ .error .panicked := by
  have hcut := top_eq hmax
  rw [pickU32_eq random hcut]
  refine retry_ne_panicked (fun s => ?_) fuel random
  obtain ⟨raw, next, -, hturn⟩ := pickTurn_eq s hmax hcut
  rw [hturn]
  rfl

theorem exists_draw_of_pickU32 {max fuel n : Nat} {next : RandomNumberGenerator hashing}
    (hmax : max < 2 ^ 32) (h : random.pickU32 fuel max = .ok (n, next)) :
    ∃ raw, raw < 256 ^ needed max ∧ drawValue max raw = some n := by
  have hcut := top_eq hmax
  rw [pickU32_eq random hcut] at h
  obtain ⟨before, hbefore⟩ := exists_turn_of_retry h
  obtain ⟨raw, after, hraw, hturn⟩ := pickTurn_eq before hmax hcut
  have hvalue : drawValue max raw = some n := by
    rw [hturn] at hbefore
    exact (Prod.mk.inj (Option.some.inj hbefore)).1
  exact ⟨raw, hraw, hvalue⟩

theorem drawValue_le {max raw n : Nat} (hmax : max < 2 ^ 32) (hraw : raw < 256 ^ needed max)
    (h : drawValue max raw = some n) : n = raw % (max + 1) ∧ n ≤ max := by
  rw [drawValue_eq hmax hraw] at h
  by_cases hlt : raw < accepted (256 ^ needed max) (max + 1)
  · rw [if_pos hlt] at h
    have hn : raw % (max + 1) = n := Option.some.inj h
    have hmod : raw % (max + 1) ≤ max := Nat.le_of_lt_succ (Nat.mod_lt raw (Nat.succ_pos max))
    exact ⟨hn.symm, hn ▸ hmod⟩
  · simp [hlt] at h

theorem pickU32_le {max fuel n : Nat} {next : RandomNumberGenerator hashing} (hmax : max < 2 ^ 32)
    (h : random.pickU32 fuel max = .ok (n, next)) : n ≤ max := by
  obtain ⟨raw, hraw, hvalue⟩ := exists_draw_of_pickU32 random hmax h
  exact (drawValue_le hmax hraw hvalue).2

theorem pickU32_mono {max fuel fuel' : Nat} {result : Nat × RandomNumberGenerator hashing}
    (hmax : max < 2 ^ 32) (hfuel : fuel ≤ fuel') (h : random.pickU32 fuel max = .ok result) :
    random.pickU32 fuel' max = .ok result := by
  have hcut := top_eq hmax
  rw [pickU32_eq random hcut] at h ⊢
  exact retry_mono hfuel h

theorem exists_pickU32_of_rejectionEnds {max : Nat} (h : RejectionEnds random max) :
    ∃ fuel n next, random.pickU32 fuel max = .ok (n, next) := by
  obtain ⟨cut, hcut, haccepts⟩ := h
  obtain ⟨fuel, n, next, hretry⟩ := exists_retry_of_accepts haccepts
  exact ⟨fuel, n, next, (pickU32_eq random hcut fuel).trans hretry⟩

private theorem nextRaw_of_pickTurn {max cut : Nat} {drawn : Option Nat}
    {next : RandomNumberGenerator hashing}
    (h : RandomNumberGenerator.pickTurn max cut random = some (drawn, next)) :
    ∃ raw, random.nextRaw (needed max) = some (raw, next) := by
  unfold RandomNumberGenerator.pickTurn at h
  obtain ⟨⟨raw, after⟩, hraw, h⟩ := Option.bind_eq_some_iff.mp h
  refine ⟨raw, ?_⟩
  rw [hraw]
  simp only at h
  by_cases hle : raw ≤ cut
  · rw [if_pos hle] at h
    obtain ⟨n, -, h⟩ := Option.bind_eq_some_iff.mp h
    rw [(Prod.mk.inj (Option.some.inj h)).2]
  · rw [if_neg hle] at h
    rw [(Prod.mk.inj (Option.some.inj h)).2]

/-- After a pick the offset lies within the hash output. -/
theorem pickU32_offset_le {max fuel n : Nat} {next : RandomNumberGenerator hashing}
    (hmax : max < 2 ^ 32) (hlength : hashing.outputLength < 2 ^ 32)
    (h : random.pickU32 fuel max = .ok (n, next)) : next.offset ≤ hashing.outputLength := by
  rw [pickU32_eq random (top_eq hmax)] at h
  obtain ⟨before, hbefore⟩ := exists_turn_of_retry h
  obtain ⟨raw, hraw⟩ := nextRaw_of_pickTurn before hbefore
  rw [nextRaw_offset before (needed_le max) hlength hraw]
  exact refill_fits before (needed_le max)

end

end Encointer.Hashed
