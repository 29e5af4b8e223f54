import Mathlib.NumberTheory.LucasPrimality
import Mathlib.Tactic.NormNum.Prime
import UtxoWallet.Curve.Point

/-! # The field and the order are prime

Lucas's test shows that a number is prime by a witness and the primes that make up the number before
it. The larger of these have witnesses of their own.
-/

namespace UtxoWallet

/-! ## Powers -/

namespace Modular

theorem power_eq (m a n : Nat) : power m a n = a ^ n % m := by
  fun_induction power m a n with
  | case1 a => simp
  | case2 a n hn half hodd ih =>
    have hsplit : n = n / 2 + n / 2 + 1 := by omega
    rw [show half = _ from ih, ← Nat.pow_mod, Nat.mul_mod_mod]
    conv => rhs; rw [hsplit, Nat.pow_succ, Nat.mul_comm, Nat.pow_add, ← Nat.mul_pow]
  | case3 a n hn half heven ih =>
    have hsplit : n = n / 2 + n / 2 := by omega
    rw [show half = _ from ih, ← Nat.pow_mod]
    conv => rhs; rw [hsplit, Nat.pow_add, ← Nat.mul_pow]

end Modular

namespace Curve

/-! ## Witnesses -/

/-- Why a number is prime. The factors make up the number before it. -/
structure Witness where
  number : Nat
  base : Nat
  factors : List Nat

namespace Witness

/-- The base comes back to one at the last power, and at no power that leaves out one factor. -/
def passes (w : Witness) : Bool :=
  decide (1 < w.number) && w.factors.prod == w.number - 1 &&
    Modular.power w.number w.base (w.number - 1) == 1 &&
    w.factors.all fun q => Modular.power w.number w.base ((w.number - 1) / q) != 1

theorem natCast_pow_eq_one_iff {n : Nat} (hn : 1 < n) (a k : Nat) :
    (a : ZMod n) ^ k = 1 ↔ Modular.power n a k = 1 := by
  have h := ZMod.natCast_eq_natCast_iff' (a ^ k) 1 n
  rw [Nat.mod_eq_of_lt hn] at h
  rw [Modular.power_eq, ← h, Nat.cast_pow, Nat.cast_one]

theorem prime_of_passes {w : Witness} (h : w.passes = true) (hfactors : ∀ q ∈ w.factors, q.Prime) :
    w.number.Prime := by
  simp only [passes, Bool.and_eq_true, decide_eq_true_eq, beq_iff_eq, List.all_eq_true,
    bne_iff_ne] at h
  obtain ⟨⟨⟨hone, hprod⟩, hlast⟩, hbefore⟩ := h
  refine lucas_primality w.number (w.base : ZMod w.number) ?_ ?_
  · exact (natCast_pow_eq_one_iff hone _ _).mpr hlast
  · intro q hq hdvd
    rw [← hprod] at hdvd
    obtain ⟨r, hr, hqr⟩ := (Prime.dvd_prod_iff hq.prime).mp hdvd
    have heq : q = r := (Nat.prime_dvd_prime_iff_eq hq (hfactors r hr)).mp hqr
    rw [heq, ne_eq, natCast_pow_eq_one_iff hone]
    exact hbefore r hr

/-- Each witness passes, and its factors are known or have witnesses before it. -/
def allPass : (known : List Nat) → List Witness → Bool
  | _, [] => true
  | known, w :: ws =>
    w.passes && w.factors.all (known.contains ·) && allPass (w.number :: known) ws

theorem prime_of_allPass {known : List Nat} {ws : List Witness} (h : allPass known ws = true)
    (hknown : ∀ q ∈ known, q.Prime) : ∀ w ∈ ws, w.number.Prime := by
  induction ws generalizing known with
  | nil => simp
  | cons w ws ih =>
    simp only [allPass, Bool.and_eq_true, List.all_eq_true, List.contains_iff_mem] at h
    obtain ⟨⟨hpasses, hfactors⟩, hrest⟩ := h
    have hw : w.number.Prime := prime_of_passes hpasses fun q hq => hknown q (hfactors q hq)
    have hknown' : ∀ q ∈ w.number :: known, q.Prime := List.forall_mem_cons.mpr ⟨hw, hknown⟩
    exact List.forall_mem_cons.mpr ⟨hw, ih hrest hknown'⟩

end Witness

/-! ## The two primes -/

def smallPrimes : List Nat :=
  [2, 3, 5, 7, 11, 17, 19, 23, 29, 41, 43, 53, 71, 107, 127, 131, 173, 197, 229, 257, 311, 373, 641,
   1201, 1297, 1531, 2411, 3023, 3407, 3677, 3769, 16879, 17449, 18169, 38189, 65537, 78283, 104471,
   126241, 155317, 490463, 704251]

theorem prime_of_mem_smallPrimes : ∀ q ∈ smallPrimes, q.Prime := by
  norm_num [smallPrimes]

def witnesses : List Witness :=
  [⟨3969899, 2, [2, 19, 104471]⟩,
   ⟨6700417, 5, [2, 2, 2, 2, 2, 2, 2, 3, 17449]⟩,
   ⟨9350987, 2, [2, 17, 229, 1201]⟩,
   ⟨187019741, 2, [2, 2, 5, 9350987]⟩,
   ⟨191039911, 3, [2, 3, 5, 41, 155317]⟩,
   ⟨204061199, 11, [2, 11, 23, 107, 3769]⟩,
   ⟨311245691, 2, [2, 5, 7, 17, 29, 29, 311]⟩,
   ⟨622491383, 5, [2, 311245691]⟩,
   ⟨34282281433, 17, [2, 2, 2, 3, 7, 204061199]⟩,
   ⟨66417393611, 6, [2, 5, 53, 173, 197, 3677]⟩,
   ⟨1002328039319, 19, [2, 126241, 3969899]⟩,
   ⟨11290956913871, 13, [2, 5, 17, 66417393611]⟩,
   ⟨46076956964474543, 5, [2, 23, 18169, 78283, 704251]⟩,
   ⟨208150935158385979, 2, [2, 3, 11, 43, 127, 3023, 191039911]⟩,
   ⟨2624747550333869278416773953, 7,
    [2, 2, 2, 2, 2, 2, 3, 3, 1297, 16879, 208150935158385979]⟩,
   ⟨774023187263532362759620327192479577272145303, 3,
    [2, 3, 3, 2411, 34282281433, 11290956913871, 46076956964474543]⟩,
   ⟨835945042244614951780389953367877943453916927241, 11,
    [2, 2, 2, 3, 3, 3, 5, 774023187263532362759620327192479577272145303]⟩,
   ⟨order, 7,
    [2, 2, 2, 2, 3, 71, 131, 373, 3407, 17449, 38189, 187019741, 622491383, 1002328039319,
     2624747550333869278416773953]⟩,
   ⟨fieldPrime, 6,
    [2, 3, 5, 5, 17, 257, 641, 1531, 65537, 490463, 6700417,
     835945042244614951780389953367877943453916927241]⟩]

theorem allPass_witnesses : Witness.allPass smallPrimes witnesses = true := by
  decide +kernel

theorem prime_of_mem_witnesses : ∀ n ∈ witnesses.map (·.number), n.Prime :=
  List.forall_mem_map.mpr (Witness.prime_of_allPass allPass_witnesses prime_of_mem_smallPrimes)

theorem order_prime : order.Prime := prime_of_mem_witnesses order (by simp [witnesses])

theorem fieldPrime_prime : fieldPrime.Prime :=
  prime_of_mem_witnesses fieldPrime (by simp [witnesses])

end Curve

end UtxoWallet
