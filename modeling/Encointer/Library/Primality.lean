import Mathlib.NumberTheory.LucasPrimality

/-!
# Witnesses of primality

A witness is an element of order `p - 1` modulo `p`, with the prime factors of
`p - 1`. Checking it takes few multiplications, so large primes can be checked.
-/

namespace Encointer

namespace Primality

/-- Powers modulo `m`, by squaring; the first argument bounds the number of squares. -/
def modPow (m : Nat) : Nat → Nat → Nat → Nat
  | 0, _, _ => 1 % m
  | fuel + 1, base, exponent =>
      if exponent = 0 then
        1 % m
      else
        let root := modPow m fuel base (exponent / 2)
        root * root % m * base ^ (exponent % 2) % m

theorem modPow_eq (m : Nat) {fuel : Nat} (base : Nat) {exponent : Nat}
    (hfuel : exponent < 2 ^ fuel) : modPow m fuel base exponent = base ^ exponent % m := by
  induction fuel generalizing exponent with
  | zero =>
      have hzero : exponent = 0 := by simpa using hfuel
      rw [hzero, modPow, pow_zero]
  | succ fuel ih =>
      rw [modPow]
      by_cases hzero : exponent = 0
      · rw [if_pos hzero, hzero, pow_zero]
      · have hhalf : exponent / 2 < 2 ^ fuel := by
          rw [pow_succ] at hfuel
          omega
        have hsplit : exponent = exponent / 2 + exponent / 2 + exponent % 2 := by omega
        rw [if_neg hzero]
        simp only [ih hhalf]
        rw [← Nat.mul_mod, Nat.mod_mul_mod, ← pow_add, ← pow_add, ← hsplit]

/-- `a` has order `p - 1` modulo `p`, and `p - 1` is the product of the factors. -/
def Witness (p a : Nat) (factors : List Nat) : Prop :=
  1 < p ∧ factors.prod + 1 = p ∧ modPow p (p.log2 + 1) a (p - 1) = 1 ∧
    ∀ q ∈ factors, modPow p (p.log2 + 1) a ((p - 1) / q) ≠ 1

instance Witness.decidable (p a : Nat) (factors : List Nat) : Decidable (Witness p a factors) :=
  inferInstanceAs (Decidable (_ ∧ _))

theorem modPow_eq_one_iff {p : Nat} (hp : 1 < p) (a : Nat) {n : Nat} (hn : n ≤ p - 1) :
    modPow p (p.log2 + 1) a n = 1 ↔ (a : ZMod p) ^ n = 1 := by
  have hfuel : n < 2 ^ (p.log2 + 1) := by
    have hp' := Nat.lt_log2_self (n := p)
    omega
  have hcast : (a : ZMod p) ^ n = 1 ↔ a ^ n % p = 1 % p := by
    rw [← Nat.cast_pow, ← ZMod.natCast_eq_natCast_iff', Nat.cast_one]
  rw [modPow_eq p a hfuel, hcast, Nat.mod_eq_of_lt hp]

/-- What has a witness with prime factors is prime. -/
theorem prime_of_witness {p a : Nat} {factors : List Nat} (hw : Witness p a factors)
    (hprime : ∀ q ∈ factors, q.Prime) : p.Prime := by
  obtain ⟨hp, hprod, hone, hne⟩ := hw
  have hfactors : factors.prod = p - 1 := by omega
  apply lucas_primality p (a : ZMod p) ((modPow_eq_one_iff hp a le_rfl).1 hone)
  intro q hq hdvd
  rw [← hfactors, Prime.dvd_prod_iff hq.prime] at hdvd
  obtain ⟨q', hmem, hdvd'⟩ := hdvd
  have heq : q = q' := (Nat.prime_dvd_prime_iff_eq hq (hprime q' hmem)).1 hdvd'
  rw [← heq] at hmem
  intro hpow
  exact hne q hmem ((modPow_eq_one_iff hp a (Nat.div_le_self (p - 1) q)).2 hpow)

/-- Numbers with witnesses, whose factors are known or stand before them. -/
def Certificate (known : List Nat) : List (Nat × Nat × List Nat) → Prop
  | [] => True
  | (p, a, factors) :: rest =>
      Witness p a factors ∧ (∀ q ∈ factors, q ∈ known) ∧ Certificate (p :: known) rest

instance Certificate.decidable (known : List Nat) :
    ∀ entries, Decidable (Certificate known entries)
  | [] => inferInstanceAs (Decidable True)
  | (p, a, factors) :: rest =>
      haveI := Certificate.decidable (p :: known) rest
      inferInstanceAs (Decidable (Witness p a factors ∧ (∀ q ∈ factors, q ∈ known) ∧
        Certificate (p :: known) rest))

theorem Certificate.prime {known : List Nat} {entries : List (Nat × Nat × List Nat)}
    (h : Certificate known entries) (hknown : ∀ q ∈ known, q.Prime) :
    ∀ e ∈ entries, e.1.Prime := by
  induction entries generalizing known with
  | nil =>
      intro e he
      cases he
  | cons e rest ih =>
      obtain ⟨p, a, factors⟩ := e
      obtain ⟨hw, hfactors, hrest⟩ := h
      have hp : p.Prime := prime_of_witness hw fun q hq => hknown q (hfactors q hq)
      have hknown' : ∀ q ∈ p :: known, q.Prime := by
        intro q hq
        rcases List.mem_cons.1 hq with rfl | hq
        · exact hp
        · exact hknown q hq
      intro e he
      rcases List.mem_cons.1 he with rfl | he
      · exact hp
      · exact ih hrest hknown' e he

end Primality

end Encointer
