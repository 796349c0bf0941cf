import Encointer.Primitives.HashedRandom

/-!
# Permutations drawn from a hash

Each pick of the generator is a pick of `Primitives.Random` on the draws it
accepted. A permutation drawn with the one is therefore a permutation drawn with
the other, and it fails only where that one does: never.
-/

namespace Encointer.Hashed

open Checked Rejection

variable {hashing : Hashing} (random : RandomNumberGenerator hashing)

/-! ## Accepted draws as the generator's state -/

private theorem pickU32_refines {max fuel n : Nat} {next : RandomNumberGenerator hashing}
    (hmax : max < 2 ^ 32) (h : random.pickU32 fuel max = .ok (n, next)) :
    ∃ raw, ∀ rest,
      (Encointer.RandomNumberGenerator.mk (raw :: rest)).pickU32 max = (n, ⟨rest⟩) := by
  obtain ⟨raw, hraw, hvalue⟩ := exists_draw_of_pickU32 random hmax h
  have hword : raw < 2 ^ 32 := Nat.lt_of_lt_of_le hraw (draws_le max)
  have hn := (drawValue_le hmax hraw hvalue).1
  refine ⟨raw, fun rest => ?_⟩
  have hdraw : (if max < u32Max then raw % 2 ^ 32 % (max + 1) else raw % 2 ^ 32) = n := by
    rw [Nat.mod_eq_of_lt hword, hn]
    by_cases hlt : max < u32Max
    · rw [if_pos hlt]
    · have hmax' : max + 1 = 2 ^ 32 := by unfold u32Max at hlt; omega
      rw [if_neg hlt, hmax', Nat.mod_eq_of_lt hword]
  rw [← hdraw]
  rfl

theorem pickUsize_refines {max fuel n : Nat} {next : RandomNumberGenerator hashing}
    (h : random.pickUsize fuel max = .ok (n, next)) :
    ∃ raw, ∀ rest,
      (Encointer.RandomNumberGenerator.mk (raw :: rest)).pickUsize max = (n, ⟨rest⟩) :=
  pickU32_refines random (Nat.mod_lt _ (by decide)) h

private theorem pickUsize_ne_panicked (fuel max : Nat) :
    random.pickUsize fuel max ≠ .error .panicked :=
  pickU32_ne_panicked random (Nat.mod_lt _ (by decide)) fuel

private theorem permutationLoop_refines {α : Type} {n fuel : Nat} {input r : List α}
    {random next : RandomNumberGenerator hashing}
    (h : permutationLoop fuel n input random = .ok (r, next)) :
    ∃ draws, ∀ rest,
      Encointer.permutationLoop n input ⟨draws ++ rest⟩ = some (r, ⟨rest⟩) := by
  induction n generalizing input r random next with
  | zero =>
      have hr : [] = r := (Prod.mk.inj (ok_inj.mp h)).1
      exact ⟨[], fun rest => by rw [← hr]; rfl⟩
  | succ n ih =>
      rw [permutationLoop] at h
      obtain ⟨⟨i, after⟩, hpick, h⟩ := bind_eq_ok.mp h
      obtain ⟨⟨x, left⟩, hremove, h⟩ := bind_eq_ok.mp h
      obtain ⟨⟨r', last⟩, hloop, h⟩ := bind_eq_ok.mp h
      obtain ⟨raw, hraw⟩ := pickUsize_refines random hpick
      obtain ⟨draws, hdraws⟩ := ih hloop
      have hr : x :: r' = r := (Prod.mk.inj (ok_inj.mp h)).1
      refine ⟨raw :: draws, fun rest => ?_⟩
      rw [List.cons_append, Encointer.permutationLoop, hraw]
      simp only [okOr_eq_ok.mp hremove, hdraws rest, Option.bind_eq_bind, Option.bind_some, hr]

/-- Where drawing from the hash panics, drawing from some list of draws fails. -/
theorem permutationLoop_panicked {α : Type} {n fuel : Nat} {input : List α}
    {random : RandomNumberGenerator hashing}
    (h : permutationLoop fuel n input random = .error .panicked) :
    ∃ draws, Encointer.permutationLoop n input ⟨draws⟩ = none := by
  induction n generalizing input random with
  | zero => simp [permutationLoop] at h
  | succ n ih =>
      rw [permutationLoop] at h
      rcases bind_eq_error.mp h with hpick | ⟨⟨i, after⟩, hpick, h⟩
      · exact absurd hpick (pickUsize_ne_panicked random fuel n)
      · obtain ⟨raw, hraw⟩ := pickUsize_refines random hpick
        rcases bind_eq_error.mp h with hremove | ⟨⟨x, left⟩, hremove, h⟩
        · refine ⟨[raw], ?_⟩
          rw [Encointer.permutationLoop, hraw]
          simp only [(okOr_eq_error.mp hremove).1, Option.bind_eq_bind, Option.bind_none]
        · rcases bind_eq_error.mp h with hloop | ⟨_, _, h⟩
          · obtain ⟨draws, hdraws⟩ := ih hloop
            refine ⟨raw :: draws, ?_⟩
            rw [Encointer.permutationLoop, hraw]
            simp only [okOr_eq_ok.mp hremove, hdraws, Option.bind_eq_bind, Option.bind_some,
              Option.bind_none]
          · cases h

/-! ## No panic, and every element once -/

theorem permutationLoop_ne_panicked {α : Type} {input : List α} (hlength : input.length < 2 ^ 32)
    (fuel : Nat) : permutationLoop fuel input.length input random ≠ .error .panicked := by
  intro h
  obtain ⟨draws, hdraws⟩ := permutationLoop_panicked h
  obtain ⟨r, last, hloop, -⟩ :=
    permutationLoop_perm rfl (show input.length ≤ u32Max by unfold u32Max; omega) ⟨draws⟩
  rw [hdraws] at hloop
  cases hloop

theorem permutationLoop_perm_of_ok {α : Type} {input r : List α} {fuel : Nat}
    {next : RandomNumberGenerator hashing} (hlength : input.length < 2 ^ 32)
    (h : permutationLoop fuel input.length input random = .ok (r, next)) : r.Perm input := by
  obtain ⟨draws, hdraws⟩ := permutationLoop_refines h
  obtain ⟨r', last, hloop, hperm⟩ :=
    permutationLoop_perm rfl (show input.length ≤ u32Max by unfold u32Max; omega) ⟨draws ++ []⟩
  have hr : r = r' := by
    rw [hdraws []] at hloop
    exact (Prod.mk.inj (Option.some.inj hloop)).1
  rw [hr]
  exact hperm

/-! ## Enough turns -/

private theorem permutationLoop_mono {α : Type} {n fuel fuel' : Nat} {input : List α}
    {random : RandomNumberGenerator hashing} {result : List α × RandomNumberGenerator hashing}
    (hfuel : fuel ≤ fuel') (h : permutationLoop fuel n input random = .ok result) :
    permutationLoop fuel' n input random = .ok result := by
  induction n generalizing input random result with
  | zero => exact h
  | succ n ih =>
      rw [permutationLoop] at h ⊢
      obtain ⟨⟨i, after⟩, hpick, h⟩ := bind_eq_ok.mp h
      obtain ⟨⟨x, left⟩, hremove, h⟩ := bind_eq_ok.mp h
      obtain ⟨⟨r, last⟩, hloop, h⟩ := bind_eq_ok.mp h
      have hpick' := pickU32_mono random (Nat.mod_lt _ (by decide)) hfuel hpick
      exact bind_eq_ok.mpr ⟨_, hpick', bind_eq_ok.mpr ⟨_, hremove, bind_eq_ok.mpr ⟨_, ih hloop, h⟩⟩⟩

/-- The rejection loops of `n` draws without replacement end, each in the state it starts in. -/
def LoopsEnd : Nat → RandomNumberGenerator hashing → Prop
  | 0, _ => True
  | n + 1, random =>
      RejectionEnds random n ∧
        ∀ fuel i next, random.pickUsize fuel n = .ok (i, next) → LoopsEnd n next

theorem exists_permutationLoop_of_loopsEnd {α : Type} {n : Nat} {input : List α}
    {random : RandomNumberGenerator hashing} (hlength : input.length = n) (hn : n < 2 ^ 32)
    (h : LoopsEnd n random) :
    ∃ fuel r next, permutationLoop fuel n input random = .ok (r, next) := by
  induction n generalizing input random with
  | zero => exact ⟨0, [], random, rfl⟩
  | succ n ih =>
      obtain ⟨hends, hnext⟩ := h
      obtain ⟨fuel₁, i, after, hpick⟩ := exists_pickU32_of_rejectionEnds random hends
      have hi : i ≤ n := pickU32_le random (by omega) hpick
      have husize : random.pickUsize fuel₁ n = .ok (i, after) := by
        rw [RandomNumberGenerator.pickUsize, Nat.mod_eq_of_lt (by omega)]
        exact hpick
      obtain ⟨x, left, hremove, hperm⟩ := swapRemove_perm (show i < input.length by omega)
      have hleft : left.length = n := by
        have hlengths := hperm.length_eq
        rw [List.length_cons, hlength] at hlengths
        omega
      obtain ⟨fuel₂, r, last, hloop⟩ := ih hleft (by omega) (hnext fuel₁ i after husize)
      have hpick' := pickU32_mono random (Nat.mod_lt _ (by decide)) (Nat.le_max_left fuel₁ fuel₂)
        husize
      have hloop' := permutationLoop_mono (Nat.le_max_right fuel₁ fuel₂) hloop
      refine ⟨max fuel₁ fuel₂, x :: r, last, ?_⟩
      rw [permutationLoop]
      exact bind_eq_ok.mpr ⟨_, hpick', bind_eq_ok.mpr ⟨_, okOr_eq_ok.mpr hremove,
        bind_eq_ok.mpr ⟨_, hloop', rfl⟩⟩⟩

/-! ## Picks and permutations -/

/-- What a pick up to `max` promises, whatever the state it starts in. -/
structure PicksFairly (hashing : Hashing) (max : Nat) : Prop where
  /-- No slice, shift, product or sum leaves its range. -/
  noPanic : ∀ (random : RandomNumberGenerator hashing) fuel,
    random.pickU32 fuel max ≠ .error .panicked
  /-- The offset is not wrapped around, for hash outputs shorter than `2 ^ 32` bytes. -/
  offset : hashing.outputLength < 2 ^ 32 →
    ∀ (random : RandomNumberGenerator hashing) raw next,
      random.nextRaw (needed max) = some (raw, next) →
        next.offset = (random.refill (needed max)).offset + needed max
  /-- So the sum of offset and width fits any `usize` that the length fits with four to spare. -/
  bounded : hashing.outputLength < 2 ^ 32 →
    ∀ (random : RandomNumberGenerator hashing) fuel n next,
      random.pickU32 fuel max = .ok (n, next) → next.offset ≤ hashing.outputLength
  ends : ∀ random : RandomNumberGenerator hashing, RejectionEnds random max →
    ∃ fuel n next, random.pickU32 fuel max = .ok (n, next)
  inRange : ∀ (random : RandomNumberGenerator hashing) fuel n next,
    random.pickU32 fuel max = .ok (n, next) → n ≤ max
  /-- What is picked is what a draw is worth. -/
  drawn : ∀ (random : RandomNumberGenerator hashing) fuel n next,
    random.pickU32 fuel max = .ok (n, next) →
      ∃ raw, raw < 256 ^ needed max ∧ drawValue max raw = some n
  /-- Every number is what equally many draws are worth, and at least one. -/
  fair : ∀ n ≤ max, (drawsOf max n).card = 256 ^ needed max / (max + 1)
  someDraw : 0 < 256 ^ needed max / (max + 1)
  /-- Draws and strings of bytes are the same thing. -/
  bytes : ∀ raw < 256 ^ needed max,
    ∃! data : List UInt8, data.length = needed max ∧ decodeU32 data = raw

theorem picksFairly (hashing : Hashing) {max : Nat} (hmax : max < 2 ^ 32) :
    PicksFairly hashing max where
  noPanic random fuel := pickU32_ne_panicked random hmax fuel
  offset hlength random _ _ h := nextRaw_offset random (needed_le max) hlength h
  bounded hlength random _ _ _ h := pickU32_offset_le random hmax hlength h
  ends random h := exists_pickU32_of_rejectionEnds random h
  inRange random _ _ _ h := pickU32_le random hmax h
  drawn random _ _ _ h := exists_draw_of_pickU32 random hmax h
  fair _ hn := card_drawsOf hmax hn
  someDraw := Nat.div_pos (range_le_draws hmax) (Nat.succ_pos max)
  bytes _ hraw := existsUnique_bytes hraw

/-- What a permutation of a list promises. -/
structure Permutes {α : Type} (hashing : Hashing) (input : List α) : Prop where
  noPanic : ∀ (random : RandomNumberGenerator hashing) fuel,
    randomPermutation fuel input random ≠ .error .panicked
  ends : ∀ random : RandomNumberGenerator hashing, LoopsEnd input.length random →
    ∃ fuel r next, randomPermutation fuel input random = .ok (some r, next)
  perm : ∀ (random : RandomNumberGenerator hashing) fuel result next,
    randomPermutation fuel input random = .ok (result, next) →
      ∃ r, result = some r ∧ r.Perm input

theorem randomPermutation_of_ne_nil {α : Type} {input : List α} (hinput : input ≠ []) (fuel : Nat) :
    randomPermutation fuel input random =
      (permutationLoop fuel input.length input random >>= fun result =>
        .ok (some result.1, result.2)) :=
  if_neg (by simpa using hinput)

private theorem permutes (hashing : Hashing) {α : Type} {input : List α} (hinput : input ≠ [])
    (hlength : input.length < 2 ^ 32) : Permutes hashing input where
  noPanic random fuel h := by
    rw [randomPermutation_of_ne_nil random hinput] at h
    rcases bind_eq_error.mp h with hloop | ⟨_, _, hok⟩
    · exact permutationLoop_ne_panicked random hlength fuel hloop
    · cases hok
  ends random h := by
    obtain ⟨fuel, r, next, hloop⟩ := exists_permutationLoop_of_loopsEnd rfl hlength h
    refine ⟨fuel, r, next, ?_⟩
    rw [randomPermutation_of_ne_nil random hinput]
    exact bind_eq_ok.mpr ⟨(r, next), hloop, rfl⟩
  perm random fuel result next h := by
    rw [randomPermutation_of_ne_nil random hinput] at h
    obtain ⟨⟨r, last⟩, hloop, hok⟩ := bind_eq_ok.mp h
    have hresult : some r = result := (Prod.mk.inj (ok_inj.mp hok)).1
    exact ⟨r, hresult.symm, permutationLoop_perm_of_ok random hlength hloop⟩

/-- `BlakeTwo256::hash(b"my_seed")`. -/
def mySeed : Vector UInt8 32 :=
  #v[4, 161, 222, 220, 233, 193, 133, 158, 142, 128, 115, 34, 102, 179, 231, 106,
    212, 197, 145, 98, 143, 44, 216, 245, 200, 104, 90, 195, 18, 125, 98, 80]

/-- Ten draws of a byte do not use up the seed, so the hash is not asked. -/
def seedHashing : Hashing := ⟨32, by decide, fun _ => mySeed⟩

example :
    (randomPermutation 1 [1, 2, 3, 4, 5, 6, 7, 8, 9, 10]
      (RandomNumberGenerator.new mySeed : RandomNumberGenerator seedHashing)).map Prod.fst =
        .ok (some [5, 9, 7, 4, 6, 8, 2, 3, 1, 10]) := by
  decide +kernel

/-- Over any hash with outputs of at least four bytes, picks are fair and stay in their range, and
permutations of lists shorter than `2 ^ 32` are permutations; nothing panics. -/
theorem picks_and_permutations (hashing : Hashing) :
    (∀ max < 2 ^ 32, PicksFairly hashing max) ∧
      ∀ (α : Type) (input : List α), input ≠ [] → input.length < 2 ^ 32 →
        Permutes hashing input := by
  constructor
  · intro max hmax
    exact picksFairly hashing hmax
  · intro α input hinput hlength
    exact permutes hashing hinput hlength

theorem picks_and_permutations_of_ten :
    PicksFairly seedHashing 9 ∧ Permutes seedHashing [1, 2, 3, 4, 5, 6, 7, 8, 9, 10] :=
  ⟨(picks_and_permutations seedHashing).1 9 (by decide),
    (picks_and_permutations seedHashing).2 Nat _ (by decide) (by decide)⟩

end Encointer.Hashed
