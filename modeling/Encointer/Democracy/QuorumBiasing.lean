import Encointer.Ceremonies.RewardOnce
import Encointer.Library.FixedPoint

/-!
# Adaptive quorum biasing

A proposal passes when `nays / sqrt(turnout) < ayes / sqrt(electorate)`. The
comparison is made with fixed-point numbers, whose roots, products and quotients
are rounded down. It never fails, but the roundings can decide a close vote.
-/

namespace Encointer.Democracy

open FixedPoint

variable {AccountId : Type} {config : Config AccountId}

/-! ## The comparison in integers -/

/-- By so much the weighted nays exceed the weighted ayes. -/
def margin (e t a : Nat) : Int := (e : Int) * ((t : Int) - a) ^ 2 - t * (a : Int) ^ 2

/-- What the rounding of the roots `s` and `r`, their product and their quotient adds. -/
def roundingError (one e t a s r : Nat) : Int :=
  let n : Int := (t : Int) - a
  let eRest : Int := e * (one * one) - s * s
  let tRest : Int := t * (one * one) - r * r
  (s * tRest + r * (s * r % one : Nat) - a * one * (s * one % r : Nat)) * (n * s + a * r) +
    one * one * (n ^ 2 * eRest - (a : Int) ^ 2 * tRest)

/-- All roundings together cannot make up for a margin of this many units of `2 ^ -64`. -/
def roundingBound (e t a : Nat) : Nat :=
  let sqrtE := Nat.sqrt e + 1
  let sqrtT := Nat.sqrt t + 1
  t * sqrtE * (sqrtT * max (2 * sqrtE + 1) a + 2 * t)

/-- The margin is too large for the roundings, or a tie whose turnout has an exact root. -/
def Clear (e t a : Nat) : Prop :=
  (roundingBound e t a : Int) < 2 ^ 64 * |margin e t a| ∨ margin e t a = 0 ∧ IsSquare t

theorem margin_neg_iff {e t a : Nat} (ha : a ≤ t) :
    margin e t a < 0 ↔ e * (t - a) ^ 2 < t * a ^ 2 := by
  have hcast : margin e t a = ((e * (t - a) ^ 2 : Nat) : Int) - ((t * a ^ 2 : Nat) : Int) := by
    rw [margin]
    push_cast [Nat.cast_sub ha]
    rfl
  rw [hcast]
  omega

private theorem comparison_identity {one s r a e t p q p' q' : Int}
    (hproduct : one * p + p' = s * r)
    (hquotient : r * q + q' = s * one) :
    ((t - a) * s + a * r) * (one * r) * (a * (q + one) - p) =
      (s * (t * (one * one) - r * r) + r * p' - a * one * q') * ((t - a) * s + a * r) +
          one * one * ((t - a) ^ 2 * (e * (one * one) - s * s) -
            a ^ 2 * (t * (one * one) - r * r)) -
        one ^ 4 * (e * (t - a) ^ 2 - t * a ^ 2) := by
  have hp' : p' = s * r - one * p := by omega
  have hq' : q' = s * one - r * q := by omega
  subst hp' hq'
  ring

/-- The rounded ayes exceed the threshold just if the margin is below the rounding error. -/
theorem comparison_iff {one s r e t a : Nat} (hpos : 0 < one) (hs : 0 < s) (hr : 0 < r)
    (ht : 0 < t) (ha : a ≤ t) :
    s * r / one < a * (s * one / r + one) ↔
      (one : Int) ^ 4 * margin e t a < roundingError one e t a s r := by
  have hproduct : (one : Int) * (s * r / one : Nat) + (s * r % one : Nat) = s * r := by
    exact_mod_cast Nat.div_add_mod (s * r) one
  have hquotient : (r : Int) * (s * one / r : Nat) + (s * one % r : Nat) = s * one := by
    exact_mod_cast Nat.div_add_mod (s * one) r
  have hidentity := comparison_identity (a := a) (e := e) (t := t) hproduct hquotient
  have hweight : 0 < ((t : Int) - a) * s + a * r := by
    have hnays : (0 : Int) ≤ (t : Int) - a := by omega
    rcases Nat.eq_zero_or_pos a with rfl | hayes
    · have hleft : 0 < ((t : Int) - (0 : Nat)) * s := by
        rw [Nat.cast_zero, sub_zero]
        exact_mod_cast Nat.mul_pos ht hs
      simpa using hleft
    · have hright : (0 : Int) < a * r := by exact_mod_cast Nat.mul_pos hayes hr
      have hleft : 0 ≤ ((t : Int) - a) * s := mul_nonneg hnays (by omega)
      omega
  have hscale : 0 < (((t : Int) - a) * s + a * r) * (one * r) :=
    mul_pos hweight (by exact_mod_cast Nat.mul_pos hpos hr)
  have hdifference : (s * r / one < a * (s * one / r + one)) ↔
      (0 : Int) < a * ((s * one / r : Nat) + one) - (s * r / one : Nat) := by
    rw [sub_pos]
    exact_mod_cast Iff.rfl
  rw [hdifference, ← mul_pos_iff_of_pos_left hscale, hidentity, sub_pos]
  rfl

/-! ## The fixed-point numbers -/

theorem checkedU64F64_of_lt {bits : Nat} (h : bits < 2 ^ 128) : checkedU64F64 bits = some bits :=
  if_pos h

theorem checkedDivU64F64_of_lt {x y : Nat} (hy : y ≠ 0) (h : x * 2 ^ 64 / y < 2 ^ 128) :
    checkedDivU64F64 x y = some (x * 2 ^ 64 / y) := by
  rw [checkedDivU64F64, if_neg hy, checkedU64F64_of_lt h]

section

variable {one s r : Nat}

theorem quotient_le (hpos : 0 < one) (hone : one ≤ r) : s * one / r ≤ s := by
  calc s * one / r ≤ s * one / one := Nat.div_le_div_left hone hpos
    _ = s := Nat.mul_div_cancel _ hpos

private theorem threshold_le (hpos : 0 < one) {p q : Nat} : p * one / (q + one) ≤ p := by
  calc p * one / (q + one) ≤ p * one / one := Nat.div_le_div_left (Nat.le_add_left _ _) hpos
    _ = p := Nat.mul_div_cancel _ hpos

/-- The threshold is on the grid, and so are the ayes. -/
theorem threshold_lt_iff (hpos : 0 < one) {p q a : Nat} :
    p * one / (q + one) < a * one ↔ p < a * (q + one) := by
  rw [Nat.div_lt_iff_lt_mul (Nat.add_pos_right q hpos),
    show a * one * (q + one) = a * (q + one) * one by ring, Nat.mul_lt_mul_right hpos]

end

private theorem approvalThreshold_bind (sqrtE sqrtT : Nat) :
    approvalThreshold sqrtE sqrtT =
      (checkedU64F64 (sqrtE * sqrtT / 2 ^ 64)).bind fun product =>
        (checkedDivU64F64 sqrtE sqrtT).bind fun quotient =>
          (checkedU64F64 (quotient + 2 ^ 64)).bind fun divisor =>
            checkedDivU64F64 product divisor := rfl

private theorem approvalThreshold_eq {s r : Nat} (hone : 2 ^ 64 ≤ r) (hs : s < 2 ^ 96)
    (hr : r < 2 ^ 96) :
    approvalThreshold s r = some (s * r / 2 ^ 64 * 2 ^ 64 / (s * 2 ^ 64 / r + 2 ^ 64)) := by
  have hpos : 0 < 2 ^ 64 := Nat.two_pow_pos 64
  have hproduct : s * r / 2 ^ 64 < 2 ^ 128 := by
    apply Nat.div_lt_of_lt_mul
    calc s * r < 2 ^ 96 * 2 ^ 96 := Nat.mul_lt_mul'' hs hr
      _ = 2 ^ 64 * 2 ^ 128 := by rw [← Nat.pow_add, ← Nat.pow_add]
  have hquotient : s * 2 ^ 64 / r < 2 ^ 128 :=
    (quotient_le hpos hone).trans_lt (hs.trans (Nat.pow_lt_pow_right (by omega) (by omega)))
  have hdivisor : s * 2 ^ 64 / r + 2 ^ 64 < 2 ^ 128 := by
    have hle := quotient_le (s := s) hpos hone
    omega
  have hthreshold : s * r / 2 ^ 64 * 2 ^ 64 / (s * 2 ^ 64 / r + 2 ^ 64) < 2 ^ 128 :=
    (threshold_le hpos).trans_lt hproduct
  rw [approvalThreshold_bind, checkedU64F64_of_lt hproduct, Option.bind_some,
    checkedDivU64F64_of_lt (by omega) hquotient, Option.bind_some, checkedU64F64_of_lt hdivisor,
    Option.bind_some, checkedDivU64F64_of_lt (Nat.add_pos_right _ hpos).ne' hthreshold]

theorem one_le_sqrtWhole {n : Nat} (h : 0 < n) : 2 ^ 64 ≤ sqrtWhole 64 n := by
  have hone : sqrtWhole 64 (1 * 1) = 1 * 2 ^ 64 := sqrtWhole_square 1
  rw [Nat.one_mul, Nat.one_mul] at hone
  exact hone.ge.trans (sqrtWhole_mono h)

theorem fromNum_of_lt {n : Nat} (h : n < 2 ^ 64) : fromNum n = .ok (n * 2 ^ 64) := if_pos h

private theorem positiveTurnoutBias_of {e t a eBits tBits aBits sqrtE sqrtT threshold : Nat}
    (he : fromNum e = .ok eBits) (hsqrtE : config.sqrt eBits = some sqrtE)
    (ht : fromNum t = .ok tBits) (hsqrtT : config.sqrt tBits = some sqrtT)
    (hthreshold : approvalThreshold sqrtE sqrtT = some threshold) (ha : fromNum a = .ok aBits) :
    positiveTurnoutBias config e t a = .ok (decide (threshold < aBits)) := by
  have hbind : positiveTurnoutBias config e t a = (do
      let sqrtE ← okOr (config.sqrt (← fromNum e)) .aqbError
      let sqrtT ← okOr (config.sqrt (← fromNum t)) .aqbError
      let threshold ← okOr (approvalThreshold sqrtE sqrtT) .aqbError
      let approval ← fromNum a
      .ok (decide (threshold < approval))) := rfl
  rw [hbind, he, ht, ha]
  simp only [bind, Except.bind, okOr, hsqrtE, hsqrtT, hthreshold]

/-- The answer of the fixed-point comparison, on all inputs in range. -/
theorem positiveTurnoutBias_eq
    (hsqrt : ∀ x < 2 ^ 128, config.sqrt x = some (Nat.sqrt (x * 2 ^ 64))) {e t a : Nat}
    (ht : 0 < t) (hte : t ≤ e) (he : e < 2 ^ 64) (ha : a ≤ t) :
    positiveTurnoutBias config e t a =
      .ok (decide (sqrtWhole 64 e * sqrtWhole 64 t / 2 ^ 64 <
        a * (sqrtWhole 64 e * 2 ^ 64 / sqrtWhole 64 t + 2 ^ 64))) := by
  have hpos : 0 < 2 ^ 64 := Nat.two_pow_pos 64
  have hroot {n : Nat} (hn : n < 2 ^ 64) :
      config.sqrt (n * 2 ^ 64) = some (sqrtWhole 64 n) := by
    rw [hsqrt _ (by omega), Nat.mul_assoc]
    rfl
  have hlt {n : Nat} (hn : n < 2 ^ 64) : sqrtWhole 64 n < 2 ^ 96 := by
    have hsquare : n < 2 ^ 32 * 2 ^ 32 := by omega
    have hroot : sqrtWhole 64 n < 2 ^ 32 * 2 ^ 64 := sqrtWhole_lt hsquare
    rwa [← Nat.pow_add] at hroot
  have hthreshold := approvalThreshold_eq (one_le_sqrtWhole ht) (hlt he) (hlt (hte.trans_lt he))
  rw [positiveTurnoutBias_of (fromNum_of_lt he) (hroot he) (fromNum_of_lt (hte.trans_lt he))
    (hroot (hte.trans_lt he)) hthreshold (fromNum_of_lt ((ha.trans hte).trans_lt he))]
  exact congrArg Except.ok (decide_eq_decide.2 (threshold_lt_iff hpos))

/-! ## The rounding error -/

section

variable {one a t s r x y k m p q : Int}

theorem abs_comparison_error_le (ha : 0 ≤ a) (hone : 0 < one) (hk : 0 ≤ k) (hm : 0 ≤ m)
    (hs : 0 ≤ s) (hs' : s ≤ k * one) (hr : 0 ≤ r) (hr' : r ≤ m * one) (hy : 0 ≤ y)
    (hy' : y ≤ 2 * r) (hp : 0 ≤ p) (hp' : p ≤ one) (hq : 0 ≤ q) (hq' : q ≤ r) :
    |s * y + r * p - a * one * q| ≤ m * max (2 * k + 1) a * one ^ 2 := by
  have hroot : s * y ≤ k * one * (2 * (m * one)) := by
    gcongr
    linarith
  have hproduct : r * p ≤ m * one * one := by gcongr
  have hquotient : a * one * q ≤ a * one * (m * one) := by
    gcongr
    linarith
  have hroots : m * (2 * k + 1) * one ^ 2 ≤ m * max (2 * k + 1) a * one ^ 2 := by
    gcongr
    exact le_max_left _ _
  have hayes : m * a * one ^ 2 ≤ m * max (2 * k + 1) a * one ^ 2 := by
    gcongr
    exact le_max_right _ _
  have hroot' : 0 ≤ s * y := mul_nonneg hs hy
  have hproduct' : 0 ≤ r * p := mul_nonneg hr hp
  have hquotient' : 0 ≤ a * one * q := by positivity
  rw [abs_le]
  constructor
  · linarith
  · linarith

theorem weight_bounds (ha : 0 ≤ a) (hat : a ≤ t) (hs : 0 ≤ s) (hs' : s ≤ k * one) (hr : 0 ≤ r)
    (hr' : r ≤ k * one) : 0 ≤ (t - a) * s + a * r ∧ (t - a) * s + a * r ≤ t * k * one := by
  have hnays : (t - a) * s ≤ (t - a) * (k * one) := mul_le_mul_of_nonneg_left hs' (by linarith)
  have hayes : a * r ≤ a * (k * one) := mul_le_mul_of_nonneg_left hr' ha
  constructor
  · exact add_nonneg (mul_nonneg (by linarith) hs) (mul_nonneg ha hr)
  · linarith

theorem abs_rest_error_le (ha : 0 ≤ a) (hat : a ≤ t) (hs' : s ≤ k * one) (hr' : r ≤ k * one)
    (hx : 0 ≤ x) (hx' : x ≤ 2 * s) (hy : 0 ≤ y) (hy' : y ≤ 2 * r) :
    |(t - a) ^ 2 * x - a ^ 2 * y| ≤ t ^ 2 * (2 * (k * one)) := by
  have hnays : (t - a) ^ 2 * x ≤ t ^ 2 * (2 * (k * one)) := by
    have hle : t - a ≤ t := by linarith
    have hnonneg : 0 ≤ t - a := by linarith
    gcongr
    linarith
  have hayes : a ^ 2 * y ≤ t ^ 2 * (2 * (k * one)) := by
    gcongr
    linarith
  have hnays' : 0 ≤ (t - a) ^ 2 * x := by positivity
  have hayes' : 0 ≤ a ^ 2 * y := by positivity
  rw [abs_le]
  constructor
  · linarith
  · linarith

private theorem abs_weighted_error_le {w z weight error rest : Int} (hone : 0 < one)
    (hz : |z| ≤ error * one ^ 2) (hw : 0 ≤ w) (hw' : w ≤ weight * one) (hx : |x| ≤ rest * one) :
    |z * w + one * one * x| ≤ (weight * error + rest) * one ^ 3 := by
  have hsquare : 0 ≤ one * one := by positivity
  calc |z * w + one * one * x| ≤ |z * w| + |one * one * x| := abs_add_le _ _
    _ = |z| * w + one * one * |x| := by rw [abs_mul, abs_of_nonneg hw, abs_mul, abs_of_nonneg hsquare]
    _ ≤ error * one ^ 2 * (weight * one) + one * one * (rest * one) := by
        gcongr
        exact (abs_nonneg z).trans hz
    _ = (weight * error + rest) * one ^ 3 := by ring

end

theorem rest_bounds {one n s : Nat} (hs : s = Nat.sqrt (n * (one * one))) :
    0 ≤ (n : Int) * (one * one) - s * s ∧ (n : Int) * (one * one) - s * s ≤ 2 * s := by
  have hlower : s * s ≤ n * (one * one) := hs ▸ Nat.sqrt_le _
  have hupper : n * (one * one) ≤ s * s + s + s := hs ▸ Nat.sqrt_le_add _
  have hlower' : (s : Int) * s ≤ n * (one * one) := by exact_mod_cast hlower
  have hupper' : (n : Int) * (one * one) ≤ s * s + s + s := by exact_mod_cast hupper
  constructor
  · omega
  · omega

/-- A root on the grid lies below the next whole number. -/
theorem sqrtWhole_le_succ (n : Nat) : sqrtWhole 64 n ≤ (Nat.sqrt n + 1) * 2 ^ 64 := by
  rw [← sqrtWhole_square]
  exact sqrtWhole_mono (Nat.lt_succ_sqrt n).le

/-- The rounding error is less than the bound, on the scale of the third power. -/
theorem abs_roundingError_le {e t a : Nat} (ht : 0 < t) (hte : t ≤ e) (ha : a ≤ t) :
    |roundingError (2 ^ 64) e t a (sqrtWhole 64 e) (sqrtWhole 64 t)| ≤
      roundingBound e t a * ((2 ^ 64 : Nat) : Int) ^ 3 := by
  have hr := (Nat.two_pow_pos 64).trans_le (one_le_sqrtWhole ht)
  have hs' := sqrtWhole_le_succ e
  have hr' := sqrtWhole_le_succ t
  have hr'' := (sqrtWhole_mono hte).trans hs'
  obtain ⟨hx, hx'⟩ := rest_bounds (rfl : sqrtWhole 64 e = _)
  obtain ⟨hy, hy'⟩ := rest_bounds (rfl : sqrtWhole 64 t = _)
  unfold roundingError roundingBound
  generalize sqrtWhole 64 e = s at *
  generalize sqrtWhole 64 t = r at *
  generalize Nat.sqrt e + 1 = k at *
  generalize Nat.sqrt t + 1 = m at *
  generalize hunit : 2 ^ 64 = one at *
  have hpos : 0 < one := hunit ▸ Nat.two_pow_pos 64
  have hone : (0 : Int) < one := by exact_mod_cast hpos
  have hk : (s : Int) ≤ k * one := by exact_mod_cast hs'
  have hm : (r : Int) ≤ m * one := by exact_mod_cast hr'
  have hm' : (r : Int) ≤ k * one := by exact_mod_cast hr''
  have ha' : (a : Int) ≤ t := by exact_mod_cast ha
  have hproduct : ((s * r % one : Nat) : Int) ≤ one := by exact_mod_cast (Nat.mod_lt _ hpos).le
  have hquotient : ((s * one % r : Nat) : Int) ≤ r := by exact_mod_cast (Nat.mod_lt _ hr).le
  obtain ⟨hw, hw'⟩ := weight_bounds (by omega) ha' (by omega) hk (by omega) hm'
  have hcomparison := abs_comparison_error_le (a := a) (by omega) hone (by omega) (by omega)
    (by omega) hk (by omega) hm hy hy' (by omega) hproduct (by omega) hquotient
  have hrest : |((t : Int) - a) ^ 2 * (e * (one * one) - s * s) -
      (a : Int) ^ 2 * (t * (one * one) - r * r)| ≤ t ^ 2 * (2 * k) * one := by
    have hle := abs_rest_error_le (by omega) ha' hk hm' hx hx' hy hy'
    linarith
  refine (abs_weighted_error_le hone hcomparison hw hw' hrest).trans_eq ?_
  push_cast
  ring

/-- A margin beyond the bound cannot be crossed by the roundings. -/
theorem roundingError_lt_iff {e t a : Nat} (ht : 0 < t) (hte : t ≤ e) (ha : a ≤ t)
    (hlarge : (roundingBound e t a : Int) < 2 ^ 64 * |margin e t a|) :
    ((2 ^ 64 : Nat) : Int) ^ 4 * margin e t a <
        roundingError (2 ^ 64) e t a (sqrtWhole 64 e) (sqrtWhole 64 t) ↔
      margin e t a < 0 := by
  obtain ⟨hlower, hupper⟩ := abs_le.1 (abs_roundingError_le ht hte ha)
  have hcube : (0 : Int) < ((2 ^ 64 : Nat) : Int) ^ 3 := by positivity
  have hscaled := mul_lt_mul_of_pos_right hlarge hcube
  have hfourth : ((2 ^ 64 : Nat) : Int) ^ 4 * margin e t a =
      2 ^ 64 * margin e t a * ((2 ^ 64 : Nat) : Int) ^ 3 := by
    rw [Nat.cast_pow, Nat.cast_ofNat]
    ring
  rw [hfourth]
  generalize ((2 ^ 64 : Nat) : Int) ^ 3 = cube at *
  constructor
  · intro hlt
    by_contra hnonneg
    rw [abs_of_nonneg (not_lt.1 hnonneg)] at hscaled
    linarith
  · intro hneg
    rw [abs_of_neg hneg] at hscaled
    linarith

/-- In electorates of up to two millions only a tie is not clear. -/
theorem roundingBound_lt {e t a : Nat} (hte : t ≤ e) (he : e ≤ 2 ^ 21) (ha : a ≤ t) :
    roundingBound e t a < 2 ^ 64 := by
  have hroot {n : Nat} (hn : n ≤ 2 ^ 21) : Nat.sqrt n + 1 ≤ 1449 := Nat.sqrt_lt.2 (by omega)
  have hmax : max (2 * (Nat.sqrt e + 1) + 1) a ≤ 2 ^ 21 := by
    have hle := hroot he
    omega
  calc roundingBound e t a ≤ 2 ^ 21 * 1449 * (1449 * 2 ^ 21 + 2 * 2 ^ 21) := by
        show t * (Nat.sqrt e + 1) *
          ((Nat.sqrt t + 1) * max (2 * (Nat.sqrt e + 1) + 1) a + 2 * t) ≤ _
        gcongr
        · exact hte.trans he
        · exact hroot he
        · exact hroot (hte.trans he)
        · exact hte.trans he
    _ < 2 ^ 64 := by norm_num

/-! ## Ties -/

theorem isSquare_of_rest_zero {one n s : Nat} (hpos : 0 < one) (h : s * s = n * (one * one)) :
    IsSquare n := by
  obtain ⟨k, rfl⟩ : one ∣ s := by
    rw [← Nat.pow_dvd_pow_iff (two_ne_zero), pow_two, pow_two, h]
    exact Nat.dvd_mul_left _ _
  refine ⟨k, ?_⟩
  have hsquare : k * k * (one * one) = n * (one * one) := by
    rw [← h]
    ring
  exact (Nat.eq_of_mul_eq_mul_right (Nat.mul_pos hpos hpos) hsquare).symm

/-- A factor between two squares is a square. -/
theorem exists_root_of_mul_sq {x n y : Nat} (hn : 0 < n) (h : x * n ^ 2 = y ^ 2) :
    ∃ v, x = v * v ∧ y = n * v := by
  obtain ⟨v, rfl⟩ : n ∣ y := by
    rw [← Nat.pow_dvd_pow_iff two_ne_zero, ← h]
    exact Nat.dvd_mul_left _ _
  refine ⟨v, ?_, rfl⟩
  apply Nat.eq_of_mul_eq_mul_right (Nat.pow_pos hn (n := 2))
  rw [h]
  ring

theorem tie_eq {e t a : Nat} (ht : 0 < t) (ha : a ≤ t) (htie : margin e t a = 0) :
    e * (t - a) ^ 2 = t * a ^ 2 ∧ 0 < t - a := by
  have hequal : e * (t - a) ^ 2 = t * a ^ 2 := by
    rw [margin, sub_eq_zero] at htie
    have hcast : ((e * (t - a) ^ 2 : Nat) : Int) = ((t * a ^ 2 : Nat) : Int) := by
      push_cast [Nat.cast_sub ha]
      exact htie
    exact_mod_cast hcast
  refine ⟨hequal, Nat.pos_of_ne_zero fun hnone => ?_⟩
  rw [hnone, show a = t by omega] at hequal
  have hpos : 0 < t * t ^ 2 := by positivity
  omega

/-- With an exact root of the turnout, a tie does not pass. -/
theorem tie_le_of_isSquare {e t a : Nat} (ht : 0 < t) (ha : a ≤ t) (htie : margin e t a = 0)
    (hsquare : IsSquare t) :
    a * (sqrtWhole 64 e * 2 ^ 64 / sqrtWhole 64 t + 2 ^ 64) ≤
      sqrtWhole 64 e * sqrtWhole 64 t / 2 ^ 64 := by
  obtain ⟨hequal, hnays⟩ := tie_eq ht ha htie
  obtain ⟨w, rfl⟩ := hsquare
  have hw : 0 < w := Nat.pos_of_mul_pos_right ht
  obtain ⟨v, rfl, hv⟩ := exists_root_of_mul_sq (y := w * a) hnays (by rw [hequal]; ring)
  rw [sqrtWhole_square, sqrtWhole_square]
  generalize hunit : 2 ^ 64 = one
  have hpos : 0 < one := hunit ▸ Nat.two_pow_pos 64
  have hproduct : v * one * (w * one) / one = v * w * one := by
    rw [show v * one * (w * one) = v * w * one * one by ring, Nat.mul_div_cancel _ hpos]
  have hquotient : v * one * one / (w * one) = v * one / w := Nat.mul_div_mul_right _ _ hpos
  rw [hproduct, hquotient]
  apply Nat.le_of_mul_le_mul_left (c := w) ?_ hw
  calc w * (a * (v * one / w + one)) = a * (w * (v * one / w)) + w * a * one := by ring
    _ ≤ a * (v * one) + w * a * one :=
        Nat.add_le_add_right (Nat.mul_le_mul_left a (Nat.mul_div_le _ _)) _
    _ = (a + (w * w - a)) * (v * one) := by
        rw [hv]
        ring
    _ = w * (v * w * one) := by
        rw [Nat.add_sub_cancel' ha]
        ring

/-- An electorate that is a multiple of the turnout: without an exact root, a tie passes. -/
theorem tie_lt_of_dvd {e t a : Nat} (ht : 0 < t) (ha : a ≤ t) (htie : margin e t a = 0)
    (hdvd : t ∣ e) (hpos : 0 < e) (hsquare : ¬ IsSquare t) :
    sqrtWhole 64 e * sqrtWhole 64 t / 2 ^ 64 <
      a * (sqrtWhole 64 e * 2 ^ 64 / sqrtWhole 64 t + 2 ^ 64) := by
  obtain ⟨hequal, hnays⟩ := tie_eq ht ha htie
  obtain ⟨c, rfl⟩ := hdvd
  obtain ⟨p, rfl, hp⟩ : ∃ p, c = p * p ∧ a = (t - a) * p := by
    apply exists_root_of_mul_sq hnays
    apply Nat.eq_of_mul_eq_mul_left ht
    rw [← hequal]
    ring
  have hp' : 0 < p := Nat.pos_of_mul_pos_right (Nat.pos_of_mul_pos_left hpos)
  have hr := (Nat.two_pow_pos 64).trans_le (one_le_sqrtWhole ht)
  have hs := (Nat.two_pow_pos 64).trans_le (one_le_sqrtWhole hpos)
  have hrootT : sqrtWhole 64 t * sqrtWhole 64 t ≤ t * (2 ^ 64 * 2 ^ 64) := Nat.sqrt_le _
  have hrootE : sqrtWhole 64 (t * (p * p)) * sqrtWhole 64 (t * (p * p)) ≤
      t * (p * p) * (2 ^ 64 * 2 ^ 64) := Nat.sqrt_le _
  have hmultiple : p * sqrtWhole 64 t ≤ sqrtWhole 64 (t * (p * p)) := by
    apply Nat.le_sqrt.2
    calc p * sqrtWhole 64 t * (p * sqrtWhole 64 t)
        = p * p * (sqrtWhole 64 t * sqrtWhole 64 t) := by ring
      _ ≤ p * p * (t * (2 ^ 64 * 2 ^ 64)) := Nat.mul_le_mul_left _ hrootT
      _ = t * (p * p) * (2 ^ 64 * 2 ^ 64) := by ring
  have hinexact : sqrtWhole 64 t * sqrtWhole 64 t < t * (2 ^ 64 * 2 ^ 64) :=
    hrootT.lt_of_ne fun heq => hsquare (isSquare_of_rest_zero (Nat.two_pow_pos 64) heq)
  generalize sqrtWhole 64 (t * (p * p)) = s at *
  generalize sqrtWhole 64 t = r at *
  generalize hunit : 2 ^ 64 = one at *
  have hone : 0 < one := hunit ▸ Nat.two_pow_pos 64
  have hproduct : s * r / one < t * p * one := by
    rw [Nat.div_lt_iff_lt_mul hone]
    apply lt_of_pow_lt_pow_left₀ 2 (Nat.zero_le _)
    calc (s * r) ^ 2 = s * s * (r * r) := by ring
      _ ≤ t * (p * p) * (one * one) * (r * r) := Nat.mul_le_mul_right _ hrootE
      _ < t * (p * p) * (one * one) * (t * (one * one)) :=
          Nat.mul_lt_mul_of_pos_left hinexact (by positivity)
      _ = (t * p * one * one) ^ 2 := by ring
  have hquotient : p * one ≤ s * one / r := by
    rw [Nat.le_div_iff_mul_le hr]
    calc p * one * r = p * r * one := by ring
      _ ≤ s * one := Nat.mul_le_mul_right _ hmultiple
  calc s * r / one < t * p * one := hproduct
    _ = ((t - a) * p + (t - a)) * p * one := by
        rw [← hp, Nat.add_sub_cancel' ha]
    _ = (t - a) * p * (p * one + one) := by ring
    _ = a * (p * one + one) := by rw [← hp]
    _ ≤ a * (s * one / r + one) := by gcongr

/-! ## Exactness -/

/-- The comparison with rounded numbers has the exact answer. -/
def BiasExact (config : Config AccountId) (e t a : Nat) : Prop :=
  positiveTurnoutBias config e t a = .ok true ↔ e * (t - a) ^ 2 < t * a ^ 2

section

variable {e t a : Nat}

private theorem biasExact_of_large
    (hsqrt : ∀ x < 2 ^ 128, config.sqrt x = some (Nat.sqrt (x * 2 ^ 64)))
    (ht : 0 < t) (hte : t ≤ e) (he : e < 2 ^ 64) (ha : a ≤ t)
    (hlarge : (roundingBound e t a : Int) < 2 ^ 64 * |margin e t a|) : BiasExact config e t a := by
  have hone {n : Nat} (hn : 0 < n) : 0 < sqrtWhole 64 n :=
    (Nat.two_pow_pos 64).trans_le (one_le_sqrtWhole hn)
  rw [BiasExact, positiveTurnoutBias_eq hsqrt ht hte he ha, Except.ok.injEq, decide_eq_true_iff,
    ← margin_neg_iff ha, comparison_iff (e := e) (Nat.two_pow_pos 64) (hone (ht.trans_le hte))
    (hone ht) ht ha]
  exact roundingError_lt_iff ht hte ha hlarge

/-- The exact answer to a tie is no. -/
theorem biasExact_tie
    (hsqrt : ∀ x < 2 ^ 128, config.sqrt x = some (Nat.sqrt (x * 2 ^ 64)))
    (ht : 0 < t) (hte : t ≤ e) (he : e < 2 ^ 64) (ha : a ≤ t) (htie : margin e t a = 0) :
    BiasExact config e t a ↔
      a * (sqrtWhole 64 e * 2 ^ 64 / sqrtWhole 64 t + 2 ^ 64) ≤
        sqrtWhole 64 e * sqrtWhole 64 t / 2 ^ 64 := by
  rw [BiasExact, positiveTurnoutBias_eq hsqrt ht hte he ha, Except.ok.injEq, decide_eq_true_iff,
    ← margin_neg_iff ha, htie, lt_self_iff_false, iff_false, Nat.not_lt]

end

/--
The comparison always gives an answer. It is the exact one if the vote is clear. If the turnout
divides the electorate, a tie has the exact answer only if it is clear, and in electorates of up to
two millions nothing but a tie is not.
-/
theorem positiveTurnoutBias_exact_of_clear (config : Config AccountId)
    (hsqrt : ∀ x < 2 ^ 128, config.sqrt x = some (Nat.sqrt (x * 2 ^ 64))) (e t a : Nat)
    (ht : 0 < t) (hte : t ≤ e) (he : e < 2 ^ 64) (ha : a ≤ t) :
    (∃ approved, positiveTurnoutBias config e t a = .ok approved) ∧
      (Clear e t a → BiasExact config e t a) ∧
      (t ∣ e → margin e t a = 0 ∨ e ≤ 2 ^ 21 → (BiasExact config e t a ↔ Clear e t a)) ∧
      (e ≤ 2 ^ 21 → margin e t a ≠ 0 → Clear e t a) := by
  have hclear : Clear e t a → BiasExact config e t a := by
    rintro (hlarge | ⟨htie, hsquare⟩)
    · exact biasExact_of_large hsqrt ht hte he ha hlarge
    · exact (biasExact_tie hsqrt ht hte he ha htie).2 (tie_le_of_isSquare ht ha htie hsquare)
  have hsmall (he' : e ≤ 2 ^ 21) (hmargin : margin e t a ≠ 0) : Clear e t a := by
    left
    have hbound : (roundingBound e t a : Int) < 2 ^ 64 := by
      exact_mod_cast roundingBound_lt hte he' ha
    have hunit := Int.one_le_abs hmargin
    omega
  refine ⟨?_, hclear, ?_, hsmall⟩
  · rw [positiveTurnoutBias_eq hsqrt ht hte he ha]
    exact ⟨_, rfl⟩
  · intro hdvd hor
    refine ⟨fun hexact => ?_, hclear⟩
    by_cases htie : margin e t a = 0
    · right
      refine ⟨htie, by_contra fun hsquare => ?_⟩
      have hpasses := tie_lt_of_dvd ht ha htie hdvd (ht.trans_le hte) hsquare
      exact Nat.not_lt.2 ((biasExact_tie hsqrt ht hte he ha htie).1 hexact) hpasses
    · exact hsmall (hor.resolve_left htie) htie

/-- Two voters who disagree are a tie, and pass. In a large electorate, a narrow majority fails. -/
theorem rounding_decides :
    positiveTurnoutBias Demo.runtimeConfig 2 2 1 = .ok true ∧ ¬ 2 * (2 - 1) ^ 2 < 2 * 1 ^ 2 ∧
      positiveTurnoutBias Demo.runtimeConfig 805751735877575577 536255504701373677
        295326931179372592 = .ok false ∧
      805751735877575577 * (536255504701373677 - 295326931179372592) ^ 2 <
        536255504701373677 * 295326931179372592 ^ 2 := by
  refine ⟨by decide +kernel, by decide, by decide +kernel, by norm_num⟩

/-- A turnout of ten of a hundred, with nine ayes. -/
theorem positiveTurnoutBias_exact_low_turnout : BiasExact Demo.runtimeConfig 100 10 9 := by
  obtain ⟨-, hclear, -, hsmall⟩ := positiveTurnoutBias_exact_of_clear Demo.runtimeConfig
    (fun _ _ => rfl) 100 10 9 (by decide) (by decide) (by decide) (by decide)
  exact hclear (hsmall (by decide) (by decide))

end Encointer.Democracy
