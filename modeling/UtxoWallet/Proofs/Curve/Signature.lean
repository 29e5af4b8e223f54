import UtxoWallet.Curve.Signature
import UtxoWallet.Proofs.Bytes.Der
import UtxoWallet.Proofs.Curve.Encoding
import UtxoWallet.Proofs.Curve.Group

/-! # A signature is valid under the signer's public point

The point of a secret is a multiple of the generator, and the order of the generator is prime. So
what the check adds up is the multiple that the nonce gave.
-/

namespace UtxoWallet.Curve

instance : Fact order.Prime := ⟨order_prime⟩

/-! ## The generator -/

theorem valid_generator : Point.generator.Valid := by decide +kernel

def base : Group := Point.generator.toGroup valid_generator

theorem standsFor_multiple_generator (n : Nat) :
    (Point.generator.toJacobian.multiple n).StandsFor (n • base) :=
  (Point.standsFor_toJacobian valid_generator).multiple n

theorem order_nsmul_base : order • base = 0 :=
  (standsFor_multiple_generator order).eq_zero (by decide +kernel)

theorem addOrderOf_base : addOrderOf base = order :=
  addOrderOf_eq_prime order_nsmul_base (WeierstrassCurve.Affine.Point.some_ne_zero _)

theorem nsmul_base_eq_iff {m n : Nat} :
    m • base = n • base ↔ (m : ZMod order) = n := by
  rw [nsmul_eq_nsmul_iff_modEq, addOrderOf_base, ZMod.natCast_eq_natCast_iff]

theorem SecretKey.natCast_scalar_ne_zero (k : SecretKey) : (k.scalar : ZMod order) ≠ 0 := by
  rw [ne_eq, ZMod.natCast_eq_zero_iff]
  exact Nat.not_dvd_of_pos_of_lt k.pos k.lt

theorem SecretKey.nsmul_base_ne_zero (k : SecretKey) : k.scalar • base ≠ 0 := by
  rw [← zero_nsmul base, ne_eq, nsmul_base_eq_iff, Nat.cast_zero]
  exact k.natCast_scalar_ne_zero

theorem SecretKey.toGroup_point (k : SecretKey) :
    ∃ h : k.point.Valid, k.point.toGroup h = k.scalar • base :=
  (standsFor_multiple_generator k.scalar).toPoint k.nsmul_base_ne_zero

theorem SecretKey.valid_point (k : SecretKey) : k.point.Valid := k.toGroup_point.1

/-! ## Signatures -/

namespace Signature

/-- The check adds up this many times the generator. -/
theorem natCast_check (secret nonce : SecretKey) (digest : List UInt8)
    (h : (withNonce secret nonce digest).Valid) :
    ((digestNumber digest * Modular.inverse order (withNonce secret nonce digest).s % order +
        (withNonce secret nonce digest).r *
          Modular.inverse order (withNonce secret nonce digest).s % order * secret.scalar : Nat) :
      ZMod order) = nonce.scalar := by
  have hs : ((withNonce secret nonce digest).s : ZMod order) =
      (nonce.scalar : ZMod order)⁻¹ *
        (digestNumber digest + (withNonce secret nonce digest).r * secret.scalar) := by
    simp only [withNonce, ZMod.natCast_mod, Nat.cast_mul, Nat.cast_add,
      natCast_inverse (show 2 < order by decide)]
  have hne : ((withNonce secret nonce digest).s : ZMod order) ≠ 0 := by
    rw [ne_eq, ZMod.natCast_eq_zero_iff]
    exact Nat.not_dvd_of_pos_of_lt h.2.1 h.2.2
  have hscaled : (digestNumber digest + (withNonce secret nonce digest).r * secret.scalar :
      ZMod order) = nonce.scalar * (withNonce secret nonce digest).s := by
    rw [hs, mul_inv_cancel_left₀ nonce.natCast_scalar_ne_zero]
  push_cast [ZMod.natCast_mod, natCast_inverse (show 2 < order by decide)]
  calc
    _ = (digestNumber digest + (withNonce secret nonce digest).r * secret.scalar : ZMod order) *
          ((withNonce secret nonce digest).s : ZMod order)⁻¹ := by ring
    _ = nonce.scalar := by rw [hscaled, mul_inv_cancel_right₀ hne]

theorem verify_withNonce (secret nonce : SecretKey) (digest : List UInt8)
    (h : (withNonce secret nonce digest).Valid) :
    verify secret.point digest (withNonce secret nonce digest) = true := by
  obtain ⟨hsecret, hpublic⟩ := secret.toGroup_point
  obtain ⟨hnonce, hcommitted⟩ := nonce.toGroup_point
  have hkey := Point.standsFor_toJacobian hsecret
  rw [hpublic] at hkey
  have hsum := (standsFor_multiple_generator (digestNumber digest *
    Modular.inverse order (withNonce secret nonce digest).s % order)).add
      (hkey.multiple ((withNonce secret nonce digest).r *
        Modular.inverse order (withNonce secret nonce digest).s % order))
  rw [← mul_nsmul', ← add_nsmul, nsmul_base_eq_iff.mpr (natCast_check secret nonce digest h)]
    at hsum
  obtain ⟨hvalid, hpoint⟩ := hsum.toPoint nonce.nsmul_base_ne_zero
  have heq := Point.toGroup_inj (hpoint.trans hcommitted.symm)
  rw [verify, decide_eq_true_eq, heq]
  exact ⟨h, rfl⟩

theorem withNonce_of_sign {secret : SecretKey} {digest : List UInt8} {sig : Signature}
    (h : sign secret digest = some sig) :
    sig.Valid ∧ ∃ nonce, withNonce secret nonce digest = sig := by
  simp only [sign, Option.bind_eq_bind, Option.bind_eq_some_iff, guard, Option.pure_def] at h
  obtain ⟨nonce, -, _, hguard, hsig⟩ := h
  split at hguard
  · next hvalid =>
    rw [Option.some.injEq] at hsig
    rw [hsig] at hvalid
    exact ⟨hvalid, nonce, hsig⟩
  · cases hguard

theorem verify_of_sign {secret : SecretKey} {digest : List UInt8} {sig : Signature}
    (h : sign secret digest = some sig) : verify secret.point digest sig = true := by
  obtain ⟨hvalid, nonce, rfl⟩ := withNonce_of_sign h
  exact verify_withNonce secret nonce digest hvalid

/-! ## Written form -/

theorem length_writeUnsigned_le {n : Nat} (h : n < order) : (Der.writeUnsigned n).length ≤ 39 := by
  have hcontent : (Der.unsignedContent n).length ≤ 32 + 1 :=
    Der.length_unsignedContent_le (h.trans order_lt)
  have hlimit : (Der.unsignedContent n).length < Der.lengthLimit := by
    rw [Der.lengthLimit]
    omega
  have hwrite := Der.length_write_le (e := ⟨Der.integer, Der.unsignedContent n⟩) hlimit
  simp only at hwrite
  rw [Der.writeUnsigned]
  omega

theorem ofDer?_toDer {sig : Signature} (h : sig.Valid) : ofDer? sig.toDer = some sig := by
  have hr := length_writeUnsigned_le h.1.2
  have hs := length_writeUnsigned_le h.2.2
  have hlength : (Der.writeUnsigned sig.r ++ Der.writeUnsigned sig.s).length < Der.lengthLimit := by
    rw [List.length_append, Der.lengthLimit]
    omega
  have hreadS := Der.readUnsigned_write (h.2.2.trans order_lt) (by decide) []
  rw [List.append_nil] at hreadS
  rw [ofDer?, toDer, Der.only_write (by decide) hlength]
  simp [Der.readUnsigned_write (h.1.2.trans order_lt) (by decide), hreadS, guard, h]

/-- A valid signature has one spelling, and nothing else is read. -/
theorem ofDer?_eq_some_iff {bytes : List UInt8} {sig : Signature} :
    ofDer? bytes = some sig ↔ sig.Valid ∧ bytes = sig.toDer := by
  constructor
  · intro h
    simp only [ofDer?, Option.bind_eq_bind, Option.bind_eq_some_iff, Option.guard_eq_some',
      Option.pure_def, Option.some.injEq, List.isEmpty_iff] at h
    obtain ⟨content, hcontent, ⟨r, afterR⟩, hr, ⟨s, afterS⟩, hs, _, ⟨hend, hvalid⟩, rfl⟩ := h
    refine ⟨hvalid, ?_⟩
    dsimp only at hr hs hend
    have hr := Der.eq_writeUnsigned_of_readUnsigned hr
    have hs := Der.eq_writeUnsigned_of_readUnsigned hs
    rw [Der.eq_write_of_only hcontent, hr, hs, hend, List.append_nil, toDer]
  · rintro ⟨hvalid, rfl⟩
    exact ofDer?_toDer hvalid

end Signature

end UtxoWallet.Curve
