import UtxoWallet.Proofs.Curve.Signature

/-! # What the check of a signature decides

Over the field of scalars and the group of the curve: the number of the digest and `r`, each divided
by `s`, weigh the generator and the key, and the first coordinate of the sum gives `r` back.
-/

namespace UtxoWallet.Curve

/-! ## Sums that come to nothing -/

theorem Point.toGroup_ne_zero {q : Point} (h : q.Valid) : q.toGroup h ≠ 0 :=
  WeierstrassCurve.Affine.Point.some_ne_zero _

theorem Jacobian.StandsFor.z_eq_zero {j : Jacobian} (h : j.StandsFor 0) : j.z = 0 := by
  by_contra hz
  have hzero := h.toAffine
  rw [WeierstrassCurve.Jacobian.Point.toAffine_of_Z_ne_zero h.nonsingular
    (h.triple_z_ne_zero hz)] at hzero
  exact WeierstrassCurve.Affine.Point.some_ne_zero _ hzero

/-- Where there is no first coordinate, zero stands for it. -/
theorem Jacobian.StandsFor.toPoint_x_of_zero {j : Jacobian} (h : j.StandsFor 0) :
    j.toPoint.x = 0 := by
  rw [Jacobian.toPoint, h.z_eq_zero, ← natCast_eq_zero_of_lt (mul_lt _ _)]
  simp only [natCast_mul, natCast_inverse (show 2 < fieldPrime by decide), Nat.cast_zero, inv_zero,
    mul_zero]

namespace Signature

variable {key : Point} {digest : List UInt8} {sig : Signature}

/-- A number divided by `s`, as a multiplier. -/
def weight (sig : Signature) (n : Nat) : Nat := ((n : ZMod order) * (sig.s : ZMod order)⁻¹).val

theorem mul_inverse_mod (sig : Signature) (n : Nat) :
    n * Modular.inverse order sig.s % order = sig.weight n := by
  have hlt : n * Modular.inverse order sig.s % order < order := Nat.mod_lt _ order_prime.pos
  rw [weight, ← ZMod.val_natCast_of_lt hlt, ZMod.natCast_mod, Nat.cast_mul,
    natCast_inverse (show 2 < order by decide)]

theorem weight_digestNumber (sig : Signature) (digest : List UInt8) :
    sig.weight (digestNumber digest) = sig.weight (BigEndian.value digest) := by
  rw [weight, weight, digestNumber, ZMod.natCast_mod]

/-- The numbers are in range, and some point of the curve is the weighted sum and has `r` for its
first coordinate. -/
structure IsOf (sig : Signature) (key : Group) (digest : List UInt8) : Prop where
  valid : sig.Valid
  sum : ∃ (q : Point) (h : q.Valid),
    q.toGroup h = sig.weight (BigEndian.value digest) • base + sig.weight sig.r • key ∧
      q.x % order = sig.r

theorem verify_eq_true_iff (hkey : key.Valid) :
    verify key digest sig = true ↔ sig.IsOf (key.toGroup hkey) digest := by
  have hsum := (standsFor_multiple_generator (sig.weight (BigEndian.value digest))).add
    ((Point.standsFor_toJacobian hkey).multiple (sig.weight sig.r))
  rw [verify, decide_eq_true_eq, mul_inverse_mod, mul_inverse_mod, weight_digestNumber]
  constructor
  · rintro ⟨hvalid, hr⟩
    have hne : sig.weight (BigEndian.value digest) • base + sig.weight sig.r • key.toGroup hkey ≠
        0 := by
      intro hzero
      rw [hzero] at hsum
      rw [hsum.toPoint_x_of_zero, Nat.zero_mod] at hr
      exact hvalid.1.1.ne hr
    obtain ⟨hpoint, hgroup⟩ := hsum.toPoint hne
    exact ⟨hvalid, _, hpoint, hgroup, hr⟩
  · rintro ⟨hvalid, q, hq, hgroup, hr⟩
    obtain ⟨hpoint, hsame⟩ := hsum.toPoint (hgroup ▸ Point.toGroup_ne_zero hq)
    have heq := Point.toGroup_inj (hsame.trans hgroup.symm)
    rw [heq]
    exact ⟨hvalid, hr⟩

end Signature

end UtxoWallet.Curve
