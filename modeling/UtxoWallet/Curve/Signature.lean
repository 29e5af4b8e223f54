import UtxoWallet.Bytes.Der
import UtxoWallet.Curve.Nonce

/-! # Signatures

ECDSA over a digest of thirty-two bytes. Either of the two values for `s` is written and accepted.
-/

namespace UtxoWallet.Curve

structure Signature where
  r : Nat
  s : Nat
deriving DecidableEq, Repr

namespace Signature

/-- Both numbers lie between one and the order less one. -/
def Valid (sig : Signature) : Prop :=
  (0 < sig.r ∧ sig.r < order) ∧ 0 < sig.s ∧ sig.s < order

instance (sig : Signature) : Decidable sig.Valid := by unfold Valid; infer_instance

/-- A digest as a number modulo the order. -/
def digestNumber (digest : List UInt8) : Nat := BigEndian.value digest % order

/-! ## Signing and checking -/

def withNonce (secret nonce : SecretKey) (digest : List UInt8) : Signature :=
  let r := nonce.point.x % order
  ⟨r, Modular.inverse order nonce.scalar * ((digestNumber digest + r * secret.scalar) % order) %
    order⟩

/-- No signature has a zero in it. -/
def sign (secret : SecretKey) (digest : List UInt8) : Option Signature := do
  let nonce ← Nonce.of secret digest
  let sig := withNonce secret nonce digest
  guard sig.Valid
  return sig

def verify (key : Point) (digest : List UInt8) (sig : Signature) : Bool :=
  let w := Modular.inverse order sig.s
  let u := digestNumber digest * w % order
  let v := sig.r * w % order
  let sum := (Point.generator.toJacobian.multiple u).add (key.toJacobian.multiple v)
  decide (sig.Valid ∧ sum.toPoint.x % order = sig.r)

/-! ## Written form -/

def toDer (sig : Signature) : List UInt8 :=
  Der.write ⟨Der.sequence, Der.writeUnsigned sig.r ++ Der.writeUnsigned sig.s⟩

def ofDer? (bytes : List UInt8) : Option Signature := do
  let content ← Der.only Der.sequence bytes
  let (r, rest) ← Der.readUnsigned content
  let (s, rest) ← Der.readUnsigned rest
  guard (rest.isEmpty ∧ (⟨r, s⟩ : Signature).Valid)
  return ⟨r, s⟩

end Signature

end UtxoWallet.Curve
