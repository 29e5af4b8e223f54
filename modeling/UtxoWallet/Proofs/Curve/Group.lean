import Mathlib.AlgebraicGeometry.EllipticCurve.Jacobian.Point
import Mathlib.FieldTheory.Finite.Basic
import UtxoWallet.Curve.Multiple
import UtxoWallet.Proofs.Curve.Prime

/-! # Multiples of a point are multiples in the group

The Jacobian coordinates stand for points of the group of the curve. Doubling, adding and taking
multiples of coordinates do the same with the points they stand for.
-/

namespace UtxoWallet.Curve

open WeierstrassCurve (toJacobian)

instance : Fact fieldPrime.Prime := ⟨fieldPrime_prime⟩

abbrev Residue := ZMod fieldPrime

/-! ## The arithmetic of coordinates -/

theorem mul_lt (a b : Nat) : mul a b < fieldPrime := Nat.mod_lt _ fieldPrime_prime.pos

theorem sub_lt (a b : Nat) : sub a b < fieldPrime := Nat.mod_lt _ fieldPrime_prime.pos

theorem natCast_mul (a b : Nat) : (mul a b : Residue) = a * b := by
  rw [mul, ZMod.natCast_mod, Nat.cast_mul]

theorem natCast_add (a b : Nat) : (add a b : Residue) = a + b := by
  rw [add, ZMod.natCast_mod, Nat.cast_add]

theorem natCast_sub {a b : Nat} (h : b < fieldPrime) : (sub a b : Residue) = a - b := by
  rw [sub, Modular.sub, ZMod.natCast_mod, Nat.cast_add, Nat.cast_sub h.le, ZMod.natCast_self,
    zero_sub, sub_eq_add_neg]

theorem natCast_inj_of_lt {a b : Nat} (ha : a < fieldPrime) (hb : b < fieldPrime) :
    (a : Residue) = b ↔ a = b := by
  rw [ZMod.natCast_eq_natCast_iff', Nat.mod_eq_of_lt ha, Nat.mod_eq_of_lt hb]

theorem natCast_eq_zero_of_lt {a : Nat} (ha : a < fieldPrime) : (a : Residue) = 0 ↔ a = 0 := by
  rw [← Nat.cast_zero, natCast_inj_of_lt ha fieldPrime_prime.pos]

/-- Fermat's inverse is the inverse of the field. -/
theorem natCast_inverse {m : Nat} [hm : Fact m.Prime] (h : 2 < m) (a : Nat) :
    (Modular.inverse m a : ZMod m) = (a : ZMod m)⁻¹ := by
  rw [Modular.inverse, Modular.power_eq, ZMod.natCast_mod, Nat.cast_pow]
  by_cases ha : (a : ZMod m) = 0
  · rw [ha, zero_pow (by omega), inv_zero]
  · have hfermat := ZMod.pow_card_sub_one_eq_one ha
    rw [show m - 1 = m - 2 + 1 by omega, pow_succ] at hfermat
    exact eq_inv_of_mul_eq_one_left hfermat

/-! ## The group -/

/-- `y ^ 2 = x ^ 3 - 3 x + b`. -/
def weierstrass : WeierstrassCurve Residue := ⟨0, 0, 0, -3, coefficient⟩

abbrev Group := weierstrass.toAffine.Point

theorem discriminant_ne_zero : weierstrass.Δ ≠ 0 := by
  have h : weierstrass.Δ = -((432 * coefficient ^ 2 - 1728 : Nat) : Residue) := by
    rw [Nat.cast_sub (by decide)]
    simp only [weierstrass, WeierstrassCurve.Δ, WeierstrassCurve.b₂, WeierstrassCurve.b₄,
      WeierstrassCurve.b₆, WeierstrassCurve.b₈]
    push_cast
    ring
  rw [h, neg_ne_zero, ne_eq, ZMod.natCast_eq_zero_iff]
  decide +kernel

theorem nonsingular_iff {x y : Residue} :
    weierstrass.toAffine.Nonsingular x y ↔ y ^ 2 = x ^ 3 - 3 * x + coefficient := by
  rw [← WeierstrassCurve.Affine.equation_iff_nonsingular_of_Δ_ne_zero discriminant_ne_zero,
    WeierstrassCurve.Affine.equation_iff]
  simp only [weierstrass]
  constructor
  · intro h
    linear_combination h
  · intro h
    linear_combination h

theorem nonsingular_of_valid {q : Point} (h : q.Valid) :
    weierstrass.toAffine.Nonsingular (q.x : Residue) (q.y : Residue) := by
  obtain ⟨-, -, hsquare⟩ := h
  rw [nonsingular_iff]
  have hcast := congrArg (Nat.cast : Nat → Residue) hsquare
  rw [Point.squareAt, ZMod.natCast_mod, ZMod.natCast_mod] at hcast
  push_cast [Nat.cast_sub (show 3 ≤ fieldPrime by decide), ZMod.natCast_self] at hcast
  linear_combination hcast

theorem valid_of_nonsingular {q : Point} (hx : q.x < fieldPrime) (hy : q.y < fieldPrime)
    (h : weierstrass.toAffine.Nonsingular (q.x : Residue) (q.y : Residue)) : q.Valid := by
  refine ⟨hx, hy, ?_⟩
  rw [nonsingular_iff] at h
  have hlt : Point.squareAt q.x < fieldPrime := Nat.mod_lt _ fieldPrime_prime.pos
  rw [← natCast_inj_of_lt (Nat.mod_lt _ fieldPrime_prime.pos) hlt, Point.squareAt,
    ZMod.natCast_mod, ZMod.natCast_mod]
  push_cast [Nat.cast_sub (show 3 ≤ fieldPrime by decide), ZMod.natCast_self]
  linear_combination h

/-! ## What coordinates stand for -/

namespace Jacobian

def triple (j : Jacobian) : Fin 3 → Residue := ![j.x, j.y, j.z]

/-- Reduced coordinates of a point of the group. -/
structure StandsFor (j : Jacobian) (g : Group) : Prop where
  x_lt : j.x < fieldPrime
  y_lt : j.y < fieldPrime
  z_lt : j.z < fieldPrime
  nonsingular : weierstrass.toJacobian.Nonsingular j.triple
  toAffine : WeierstrassCurve.Jacobian.Point.toAffine weierstrass.toJacobian j.triple = g

theorem standsFor_infinity : infinity.StandsFor 0 where
  x_lt := fieldPrime_prime.one_lt
  y_lt := fieldPrime_prime.one_lt
  z_lt := fieldPrime_prime.pos
  nonsingular := by
    simpa [triple, infinity] using WeierstrassCurve.Jacobian.nonsingular_zero
  toAffine := WeierstrassCurve.Jacobian.Point.toAffine_of_Z_eq_zero (by simp [triple, infinity])

theorem triple_double (j : Jacobian) :
    (double j).triple = weierstrass.toJacobian.dblXYZ j.triple := by
  have hx : ((double j).x : Residue) =
      (3 * ((j.x - j.z ^ 2) * (j.x + j.z ^ 2))) ^ 2 - 8 * (j.x * j.y ^ 2) := by
    simp only [double, natCast_sub, natCast_add, natCast_mul, mul_lt, Nat.cast_ofNat]
    ring
  have hz : ((double j).z : Residue) = 2 * j.y * j.z := by
    simp only [double, natCast_sub, natCast_add, natCast_mul, mul_lt]
    ring
  have hy : ((double j).y : Residue) =
      3 * ((j.x - j.z ^ 2) * (j.x + j.z ^ 2)) * (4 * (j.x * j.y ^ 2) - (double j).x) -
        8 * j.y ^ 4 := by
    rw [hx]
    simp only [double, natCast_sub, natCast_add, natCast_mul, mul_lt, sub_lt, Nat.cast_ofNat]
    ring
  funext i
  fin_cases i
  all_goals
    simp only [triple, hx, hy, hz, weierstrass, WeierstrassCurve.Jacobian.dblXYZ,
      WeierstrassCurve.Jacobian.dblX, WeierstrassCurve.Jacobian.dblY,
      WeierstrassCurve.Jacobian.dblZ, WeierstrassCurve.Jacobian.negDblY,
      WeierstrassCurve.Jacobian.dblU_eq, WeierstrassCurve.Jacobian.negY, Fin.zero_eta, Fin.mk_one,
      Fin.reduceFinMk, Matrix.cons_val]
    ring

theorem StandsFor.double {j : Jacobian} {g : Group} (h : j.StandsFor g) :
    j.double.StandsFor (g + g) where
  x_lt := sub_lt _ _
  y_lt := sub_lt _ _
  z_lt := sub_lt _ _
  nonsingular := by
    rw [triple_double, ← WeierstrassCurve.Jacobian.add_self]
    exact WeierstrassCurve.Jacobian.nonsingular_add h.nonsingular h.nonsingular
  toAffine := by
    rw [triple_double, ← WeierstrassCurve.Jacobian.add_self,
      WeierstrassCurve.Jacobian.Point.toAffine_add h.nonsingular h.nonsingular, h.toAffine]

theorem StandsFor.eq_zero {j : Jacobian} {g : Group} (h : j.StandsFor g) (hz : j.z = 0) :
    g = 0 := by
  rw [← h.toAffine]
  exact WeierstrassCurve.Jacobian.Point.toAffine_of_Z_eq_zero (by simp [triple, hz])

theorem StandsFor.triple_z_ne_zero {j : Jacobian} {g : Group} (h : j.StandsFor g) (hz : j.z ≠ 0) :
    j.triple 2 ≠ 0 := by
  simpa [triple, natCast_eq_zero_of_lt h.z_lt] using hz

open scoped WeierstrassCurve.Jacobian in
/-- The chord formula, up to the factor that the coordinates allow. -/
theorem triple_add {j k : Jacobian} (hj : weierstrass.toJacobian.Nonsingular j.triple)
    (hk : weierstrass.toJacobian.Nonsingular k.triple) (hjz : j.z ≠ 0) (hkz : k.z ≠ 0)
    (hx : mul j.x (mul k.z k.z) ≠ mul k.x (mul j.z j.z)) :
    (j.add k).triple =
      (-(j.z * k.z : Residue)) • weierstrass.toJacobian.addXYZ j.triple k.triple := by
  have hX := WeierstrassCurve.Jacobian.addX_eq' hj.left hk.left
  have hY := @WeierstrassCurve.Jacobian.negAddY_eq' Residue _ weierstrass j.triple k.triple
  have hx' : ((j.add k).x : Residue) =
      (k.y * j.z ^ 3 - j.y * k.z ^ 3) ^ 2 - (k.x * j.z ^ 2 - j.x * k.z ^ 2) ^ 3 -
        2 * (j.x * k.z ^ 2 * (k.x * j.z ^ 2 - j.x * k.z ^ 2) ^ 2) := by
    simp only [Jacobian.add, if_neg hjz, if_neg hkz, if_neg hx, natCast_sub, natCast_mul, mul_lt,
      Nat.cast_ofNat]
    ring
  have hy' : ((j.add k).y : Residue) =
      (k.y * j.z ^ 3 - j.y * k.z ^ 3) *
          (j.x * k.z ^ 2 * (k.x * j.z ^ 2 - j.x * k.z ^ 2) ^ 2 - (j.add k).x) -
        j.y * k.z ^ 3 * (k.x * j.z ^ 2 - j.x * k.z ^ 2) ^ 3 := by
    rw [hx']
    simp only [Jacobian.add, if_neg hjz, if_neg hkz, if_neg hx, natCast_sub, natCast_mul, mul_lt,
      sub_lt, Nat.cast_ofNat]
    ring
  have hz' : ((j.add k).z : Residue) = (k.x * j.z ^ 2 - j.x * k.z ^ 2) * (j.z * k.z) := by
    simp only [Jacobian.add, if_neg hjz, if_neg hkz, if_neg hx, natCast_sub, natCast_mul, mul_lt]
    ring
  simp only [WeierstrassCurve.Jacobian.addZ, triple, weierstrass, Matrix.cons_val] at hX hY
  rw [WeierstrassCurve.Jacobian.smul_fin3]
  funext i
  fin_cases i
  all_goals
    simp only [triple, weierstrass, WeierstrassCurve.Jacobian.addXYZ,
      WeierstrassCurve.Jacobian.addY, WeierstrassCurve.Jacobian.negY_eq,
      WeierstrassCurve.Jacobian.addZ, Fin.zero_eta, Fin.mk_one, Fin.reduceFinMk, Matrix.cons_val]
  · rw [hx']
    linear_combination -hX
  · rw [hy', hx']
    linear_combination -hY - (j.y * k.z ^ 3 - k.y * j.z ^ 3 : Residue) * hX
  · rw [hz']
    ring

theorem first_eq_iff {j k : Jacobian} :
    mul j.x (mul k.z k.z) = mul k.x (mul j.z j.z) ↔
      j.triple 0 * k.triple 2 ^ 2 = k.triple 0 * j.triple 2 ^ 2 := by
  rw [← natCast_inj_of_lt (mul_lt _ _) (mul_lt _ _)]
  simp only [natCast_mul, triple, Matrix.cons_val, sq]

theorem second_eq_iff {j k : Jacobian} :
    mul j.y (mul k.z (mul k.z k.z)) = mul k.y (mul j.z (mul j.z j.z)) ↔
      j.triple 1 * k.triple 2 ^ 3 = k.triple 1 * j.triple 2 ^ 3 := by
  rw [← natCast_inj_of_lt (mul_lt _ _) (mul_lt _ _)]
  simp only [natCast_mul, triple, Matrix.cons_val, pow_succ', pow_zero, mul_one]

section Add

variable {j k : Jacobian} {g h : Group}

theorem StandsFor.add_of_same (hj : j.StandsFor g) (hk : k.StandsFor h) (hjz : j.z ≠ 0)
    (hkz : k.z ≠ 0) (hx : mul j.x (mul k.z k.z) = mul k.x (mul j.z j.z))
    (hy : mul j.y (mul k.z (mul k.z k.z)) = mul k.y (mul j.z (mul j.z j.z))) :
    (j.add k).StandsFor (g + h) := by
  have hequiv := WeierstrassCurve.Jacobian.equiv_of_X_eq_of_Y_eq (hj.triple_z_ne_zero hjz)
    (hk.triple_z_ne_zero hkz) (first_eq_iff.mp hx) (second_eq_iff.mp hy)
  have hgh : g = h := by
    rw [← hj.toAffine, ← hk.toAffine]
    exact WeierstrassCurve.Jacobian.Point.toAffine_of_equiv hequiv
  have hadd : j.add k = j.double := by
    simp only [Jacobian.add, if_neg hjz, if_neg hkz, if_pos hx, if_pos hy]
  rw [hadd, ← hgh]
  exact hj.double

open scoped WeierstrassCurve.Jacobian in
theorem StandsFor.add_of_opposite (hj : j.StandsFor g) (hk : k.StandsFor h) (hjz : j.z ≠ 0)
    (hkz : k.z ≠ 0) (hx : mul j.x (mul k.z k.z) = mul k.x (mul j.z j.z))
    (hy : mul j.y (mul k.z (mul k.z k.z)) ≠ mul k.y (mul j.z (mul j.z j.z))) :
    (j.add k).StandsFor (g + h) := by
  have hne := WeierstrassCurve.Jacobian.not_equiv_of_Y_ne fun h => hy (second_eq_iff.mpr h)
  have hzero : g + h = 0 := by
    rw [← hj.toAffine, ← hk.toAffine,
      ← WeierstrassCurve.Jacobian.Point.toAffine_add hj.nonsingular hk.nonsingular,
      WeierstrassCurve.Jacobian.add_of_not_equiv hne]
    exact WeierstrassCurve.Jacobian.Point.toAffine_of_Z_eq_zero
      (WeierstrassCurve.Jacobian.addZ_of_X_eq (first_eq_iff.mp hx))
  have hadd : j.add k = infinity := by
    simp only [Jacobian.add, if_neg hjz, if_neg hkz, if_pos hx, if_neg hy]
  rw [hadd, hzero]
  exact standsFor_infinity

open scoped WeierstrassCurve.Jacobian in
theorem StandsFor.add_of_chord (hj : j.StandsFor g) (hk : k.StandsFor h) (hjz : j.z ≠ 0)
    (hkz : k.z ≠ 0) (hx : mul j.x (mul k.z k.z) ≠ mul k.x (mul j.z j.z)) :
    (j.add k).StandsFor (g + h) := by
  have hne := WeierstrassCurve.Jacobian.not_equiv_of_X_ne fun h => hx (first_eq_iff.mpr h)
  have hunit : IsUnit (-(j.z * k.z : Residue)) :=
    (neg_ne_zero.mpr (mul_ne_zero (hj.triple_z_ne_zero hjz) (hk.triple_z_ne_zero hkz))).isUnit
  have htriple := triple_add hj.nonsingular hk.nonsingular hjz hkz hx
  rw [← WeierstrassCurve.Jacobian.add_of_not_equiv hne] at htriple
  refine ⟨?_, ?_, ?_, ?_, ?_⟩
  · simp only [Jacobian.add, if_neg hjz, if_neg hkz, if_neg hx, sub_lt]
  · simp only [Jacobian.add, if_neg hjz, if_neg hkz, if_neg hx, sub_lt]
  · simp only [Jacobian.add, if_neg hjz, if_neg hkz, if_neg hx, mul_lt]
  · rw [htriple, WeierstrassCurve.Jacobian.nonsingular_smul _ hunit]
    exact WeierstrassCurve.Jacobian.nonsingular_add hj.nonsingular hk.nonsingular
  · rw [htriple, WeierstrassCurve.Jacobian.Point.toAffine_smul _ hunit,
      WeierstrassCurve.Jacobian.Point.toAffine_add hj.nonsingular hk.nonsingular, hj.toAffine,
      hk.toAffine]

theorem StandsFor.add (hj : j.StandsFor g) (hk : k.StandsFor h) :
    (j.add k).StandsFor (g + h) := by
  by_cases hjz : j.z = 0
  · rw [Jacobian.add, if_pos hjz, hj.eq_zero hjz, zero_add]
    exact hk
  by_cases hkz : k.z = 0
  · rw [Jacobian.add, if_neg hjz, if_pos hkz, hk.eq_zero hkz, add_zero]
    exact hj
  by_cases hx : mul j.x (mul k.z k.z) = mul k.x (mul j.z j.z)
  · by_cases hy : mul j.y (mul k.z (mul k.z k.z)) = mul k.y (mul j.z (mul j.z j.z))
    · exact hj.add_of_same hk hjz hkz hx hy
    · exact hj.add_of_opposite hk hjz hkz hx hy
  · exact hj.add_of_chord hk hjz hkz hx

end Add

theorem StandsFor.multiple {j : Jacobian} {g : Group} (h : j.StandsFor g) (n : Nat) :
    (multiple n j).StandsFor (n • g) := by
  fun_induction Jacobian.multiple n j with
  | case1 =>
    rw [zero_nsmul]
    exact standsFor_infinity
  | case2 n hn even hodd ih =>
    have hsplit : n = n / 2 + n / 2 + 1 := by omega
    rw [hsplit, succ_nsmul, add_nsmul]
    exact ih.double.add h
  | case3 n hn even heven ih =>
    have hsplit : n = n / 2 + n / 2 := by omega
    rw [hsplit, add_nsmul]
    exact ih.double

end Jacobian

/-! ## Points of the curve -/

namespace Point

def toGroup (q : Point) (h : q.Valid) : Group := .some q.x q.y (nonsingular_of_valid h)

theorem toGroup_inj {q r : Point} {hq : q.Valid} {hr : r.Valid} (h : q.toGroup hq = r.toGroup hr) :
    q = r := by
  rw [toGroup, toGroup, WeierstrassCurve.Affine.Point.some.injEq, natCast_inj_of_lt hq.1 hr.1,
    natCast_inj_of_lt hq.2.1 hr.2.1] at h
  rw [← Point.mk.injEq] at h
  exact h

theorem standsFor_toJacobian {q : Point} (h : q.Valid) : q.toJacobian.StandsFor (q.toGroup h) where
  x_lt := h.1
  y_lt := h.2.1
  z_lt := fieldPrime_prime.one_lt
  nonsingular := by
    simpa [Jacobian.triple, toJacobian] using
      (WeierstrassCurve.Jacobian.nonsingular_some (q.x : Residue) q.y).mpr (nonsingular_of_valid h)
  toAffine := by
    have hns := (WeierstrassCurve.Jacobian.nonsingular_some (q.x : Residue) q.y).mpr
      (nonsingular_of_valid h)
    simpa [Jacobian.triple, toJacobian, toGroup] using
      WeierstrassCurve.Jacobian.Point.toAffine_some hns

end Point

namespace Jacobian

theorem StandsFor.toPoint {j : Jacobian} {g : Group} (h : j.StandsFor g) (hg : g ≠ 0) :
    ∃ hvalid : j.toPoint.Valid, j.toPoint.toGroup hvalid = g := by
  have hz : j.z ≠ 0 := fun hz => hg (h.eq_zero hz)
  have hzp := h.triple_z_ne_zero hz
  have hx : (j.toPoint.x : Residue) = j.triple 0 / j.triple 2 ^ 2 := by
    simp only [Jacobian.toPoint, natCast_mul, natCast_inverse (show 2 < fieldPrime by decide),
      triple, Matrix.cons_val]
    ring
  have hy : (j.toPoint.y : Residue) = j.triple 1 / j.triple 2 ^ 3 := by
    simp only [Jacobian.toPoint, natCast_mul, natCast_inverse (show 2 < fieldPrime by decide),
      triple, Matrix.cons_val]
    ring
  have hns := (WeierstrassCurve.Jacobian.nonsingular_of_Z_ne_zero hzp).mp h.nonsingular
  have hvalid : j.toPoint.Valid := by
    refine valid_of_nonsingular (mul_lt _ _) (mul_lt _ _) ?_
    rw [hx, hy]
    exact hns
  refine ⟨hvalid, ?_⟩
  rw [← h.toAffine, WeierstrassCurve.Jacobian.Point.toAffine_of_Z_ne_zero h.nonsingular hzp,
    Point.toGroup, WeierstrassCurve.Affine.Point.some.injEq]
  exact ⟨hx, hy⟩

end Jacobian

end UtxoWallet.Curve
