import Mathlib.Data.Nat.Prime.Basic
import Mathlib.NumberTheory.Bertrand
import Encointer.Assignment.Math

/-!
# Primes and inverses are computed correctly

The loops of `Assignment.Math` return on every `u64` argument, without running
out of fuel and without overflow.
-/

namespace Encointer.Assignment

open Checked

/-! ## Trial division -/

def NoDivisorBelow (n i : Nat) : Prop := ∀ d, 2 ≤ d → d < i → ¬ d ∣ n

theorem prime_of_noDivisorBelow {n i : Nat} (h2 : 2 ≤ n) (h : NoDivisorBelow n i)
    (hi : n < i * i) : n.Prime := by
  by_contra hp
  have hsq : n.minFac ^ 2 ≤ n := Nat.minFac_sq_le_self (by omega) hp
  have hlt : n.minFac < i := by
    by_contra hge
    have : i * i ≤ n.minFac * n.minFac := Nat.mul_le_mul (by omega) (by omega)
    nlinarith
  exact h n.minFac (Nat.minFac_prime (by omega)).two_le hlt (Nat.minFac_dvd n)

theorem not_prime_of_dvd {n d : Nat} (h2 : 2 ≤ d) (hd : d < n) (h : d ∣ n) : ¬ n.Prime :=
  fun hp => by
    rcases (Nat.dvd_prime hp).mp h with h | h <;> omega

/-- The wheel modulo 6 skips only multiples of 2 and of 3. -/
theorem noDivisorBelow_add_six {n i : Nat} (h : NoDivisorBelow n i) (hmod : i % 6 = 5)
    (h2 : ¬ 2 ∣ n) (h3 : ¬ 3 ∣ n) (hi : ¬ i ∣ n) (hi2 : ¬ i + 2 ∣ n) :
    NoDivisorBelow n (i + 6) := by
  intro d hd hlt hdvd
  by_cases hsmall : d < i
  · exact h d hd hsmall hdvd
  have hcases : d = i ∨ d = i + 2 ∨ 2 ∣ d ∨ 3 ∣ d := by omega
  rcases hcases with rfl | rfl | he | ht
  · exact hi hdvd
  · exact hi2 hdvd
  · exact h2 (he.trans hdvd)
  · exact h3 (ht.trans hdvd)

theorem isPrimeLoop_eq {n : Nat} (hn : n < 2 ^ 64) (h25 : 25 ≤ n) (h2 : ¬ 2 ∣ n) (h3 : ¬ 3 ∣ n)
    (fuel i : Nat) (hmod : i % 6 = 5) (hfuel : n < i + fuel) (hno : NoDivisorBelow n i) :
    isPrimeLoop n fuel i (i * i) = some (decide n.Prime) := by
  induction fuel generalizing i with
  | zero =>
      have hp : n.Prime := by
        by_contra hp
        have hle := Nat.minFac_le_div (by omega) hp
        have hlt : n.minFac < i := by
          have := Nat.div_le_self n n.minFac
          omega
        exact hno _ (Nat.minFac_prime (by omega)).two_le hlt (Nat.minFac_dvd n)
      exact absurd (dvd_refl n) (hno n (by omega) (by omega))
  | succ fuel ih =>
      have hi5 : 5 ≤ i := by omega
      by_cases hj : i * i ≤ n
      · have hin : 5 * i ≤ n := le_trans (Nat.mul_le_mul_right i hi5) hj
        rw [isPrimeLoop, if_pos hj, addU64_of_lt (by omega)]
        simp only [Option.bind_eq_bind, Option.bind_some, ← Nat.dvd_iff_mod_eq_zero]
        by_cases hd : i ∣ n ∨ i + 2 ∣ n
        · have hnp : ¬ n.Prime := by
            rcases hd with hd | hd
            · exact not_prime_of_dvd (by omega) (by omega) hd
            · exact not_prime_of_dvd (by omega) (by omega) hd
          simp [hd, hnp]
        · rw [if_neg hd, addU64_of_lt (by omega)]
          push Not at hd
          have hno' := noDivisorBelow_add_six hno hmod h2 h3 hd.1 hd.2
          simp only [Option.bind_some]
          unfold mulU64 toU64
          by_cases hsq : (i + 6) * (i + 6) < 2 ^ 64
          · rw [if_pos hsq]
            exact ih (i + 6) (by omega) (by omega) hno'
          · rw [if_neg hsq]
            have hp := prime_of_noDivisorBelow (by omega) hno' (by omega)
            simp [hp]
      · have hp := prime_of_noDivisorBelow (by omega) hno (by omega)
        simp [isPrimeLoop, hj, hp]

/-- `is_prime` decides primality and never panics on a `u64`. -/
theorem isPrime_eq {n : Nat} (hn : n < 2 ^ 64) : isPrime n = some (decide n.Prime) := by
  unfold isPrime
  split
  · have : n = 0 ∨ n = 1 ∨ n = 2 ∨ n = 3 := by omega
    rcases this with rfl | rfl | rfl | rfl <;> simp <;> decide
  · rename_i h3
    split
    · rename_i hd
      have hnp : ¬ n.Prime := by
        rcases hd with hd | hd
        · exact not_prime_of_dvd (le_refl 2) (by omega) (Nat.dvd_of_mod_eq_zero hd)
        · exact not_prime_of_dvd (by omega) (by omega) (Nat.dvd_of_mod_eq_zero hd)
      simp [hnp]
    · rename_i hd
      push Not at hd
      have h2 : ¬ 2 ∣ n := fun h => hd.1 (Nat.mod_eq_zero_of_dvd h)
      have h3' : ¬ 3 ∣ n := fun h => hd.2 (Nat.mod_eq_zero_of_dvd h)
      have hno : NoDivisorBelow n 5 := by
        intro d hd2 hd5 hdvd
        have : d = 2 ∨ d = 3 ∨ d = 4 := by omega
        rcases this with rfl | rfl | rfl
        · exact h2 hdvd
        · exact h3' hdvd
        · exact h2 ((by decide : 2 ∣ 4).trans hdvd)
      split
      · have hp := prime_of_noDivisorBelow (by omega) hno (by omega)
        simp [hp]
      · exact isPrimeLoop_eq hn (by omega) h2 h3' n 5 (by decide) (by omega) hno

/-! ## The prime below a number -/

structure IsPrimeBelow (n p : Nat) : Prop where
  prime : p.Prime
  le : p ≤ n
  greatest : ∀ q, q.Prime → q ≤ n → q ≤ p

theorem findPrimeBelowLoop_spec (fuel n : Nat) (h3 : 3 ≤ n) (hodd : n % 2 = 1)
    (hn : n < 2 ^ 64) (hfuel : n ≤ 2 * fuel) :
    ∃ p, findPrimeBelowLoop fuel n = some p ∧ IsPrimeBelow n p := by
  induction fuel generalizing n with
  | zero => omega
  | succ fuel ih =>
      rw [findPrimeBelowLoop, if_pos (by omega), isPrime_eq hn]
      by_cases hp : n.Prime
      · exact ⟨n, by simp [hp], hp, le_refl n, fun q _ h => h⟩
      · have h5 : n ≠ 3 := by rintro rfl; exact hp Nat.prime_three
        obtain ⟨p, hloop, hspec⟩ := ih (n - 2) (by omega) (by omega) (by omega) (by omega)
        refine ⟨p, by simp [hp, subU64_of_le (by omega : 2 ≤ n), hloop], hspec.prime,
          by have := hspec.le; omega, fun q hq hle => ?_⟩
        have hq1 : q ≠ n := by rintro rfl; exact hp hq
        by_cases hq2 : q = n - 1
        · -- `n - 1` is even and above 2
          have heven : q % 2 = 0 := by omega
          rcases hq.eq_two_or_odd with h | h
          · have := hspec.prime.two_le; omega
          · omega
        · exact hspec.greatest q hq (by omega)

/-- From 2 on, `find_prime_below` returns the greatest prime not exceeding its argument. -/
theorem findPrimeBelow_spec {n : Nat} (h2 : 2 ≤ n) (hn : n < 2 ^ 64) :
    ∃ p, findPrimeBelow n = some p ∧ IsPrimeBelow n p := by
  unfold findPrimeBelow
  split
  · obtain rfl : n = 2 := by omega
    exact ⟨2, rfl, Nat.prime_two, le_refl 2, fun q _ h => h⟩
  · split
    · have h4 : 4 ≤ n := by omega
      obtain ⟨p, hloop, hspec⟩ :=
        findPrimeBelowLoop_spec n (n - 1) (by omega) (by omega) (by omega) (by omega)
      refine ⟨p, hloop, hspec.prime, by have := hspec.le; omega, fun q hq hle => ?_⟩
      by_cases hqn : q = n
      · rcases hq.eq_two_or_odd with h | h <;> omega
      · exact hspec.greatest q hq (by omega)
    · exact findPrimeBelowLoop_spec n n (by omega) (by omega) hn (by omega)

theorem findPrimeBelow_of_le_two {n : Nat} (h : n ≤ 2) : findPrimeBelow n = some 2 := if_pos h

/-- The prime is found, and by Bertrand's postulate the numbers above it stay below its double. -/
theorem findPrimeBelow_bounds {n m : Nat} (hn : n < 2 ^ 64) (hm : findPrimeBelow n = some m) :
    m.Prime ∧ m ≤ max n 2 ∧ n ≤ 2 * m := by
  by_cases h2 : 2 ≤ n
  · obtain ⟨p, hp, hspec⟩ := findPrimeBelow_spec h2 hn
    obtain rfl : m = p := by simpa [hm] using hp
    refine ⟨hspec.prime, by have := hspec.le; omega, ?_⟩
    obtain ⟨q, hq, hlt, hle⟩ := Nat.exists_prime_lt_and_le_two_mul (n / 2) (by omega)
    have := hspec.greatest q hq (by omega)
    omega
  · rw [findPrimeBelow_of_le_two (by omega)] at hm
    obtain rfl : 2 = m := by simpa using hm
    exact ⟨Nat.prime_two, by omega, by omega⟩

theorem findPrimeBelow_isSome {n : Nat} (hn : n < 2 ^ 64) : ∃ m, findPrimeBelow n = some m := by
  by_cases h2 : 2 ≤ n
  · obtain ⟨p, hp, -⟩ := findPrimeBelow_spec h2 hn
    exact ⟨p, hp⟩
  · exact ⟨2, findPrimeBelow_of_le_two (by omega)⟩

/-! ## Both searches on every word -/

/-- Neither search overflows or runs on forever, whatever the `u64`: one decides primality, the
other returns the greatest prime not exceeding its argument, or 2 when there is none. -/
theorem prime_search_correct {n : Nat} (hn : n < 2 ^ 64) :
    isPrime n = some (decide n.Prime) ∧
      ∃ p, findPrimeBelow n = some p ∧ (2 ≤ n → IsPrimeBelow n p) ∧ (n < 2 → p = 2) := by
  refine ⟨isPrime_eq hn, ?_⟩
  by_cases h2 : 2 ≤ n
  · obtain ⟨p, hp, hspec⟩ := findPrimeBelow_spec h2 hn
    exact ⟨p, hp, fun _ => hspec, fun hlt => by omega⟩
  · have htwo := findPrimeBelow_of_le_two (n := n) (by omega)
    exact ⟨2, htwo, fun h => absurd h h2, fun _ => rfl⟩

/-- The largest word is a multiple of 3 with a prime below it. -/
theorem prime_search_correct_u64Max :
    isPrime u64Max = some false ∧ ∃ p, findPrimeBelow u64Max = some p ∧ IsPrimeBelow u64Max p := by
  obtain ⟨hprime, p, hp, hspec, -⟩ := prime_search_correct (show u64Max < 2 ^ 64 by decide)
  have hcomposite : ¬ u64Max.Prime :=
    not_prime_of_dvd (d := 3) (by decide) (by decide) (by decide)
  exact ⟨by rw [hprime, decide_eq_false hcomposite], p, hp, hspec (by decide)⟩

end Encointer.Assignment
