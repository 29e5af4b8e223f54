import UtxoWallet.Curve.Encoding
import UtxoWallet.Curve.Multiple

/-! # Secret keys -/

namespace UtxoWallet.Curve

/-- A multiplier of the generator, between one and the order less one. -/
structure SecretKey where
  scalar : Nat
  pos : 0 < scalar
  lt : scalar < order
deriving DecidableEq, Repr

namespace SecretKey

def ofNat? (n : Nat) : Option SecretKey :=
  if h : 0 < n ∧ n < order then some ⟨n, h.1, h.2⟩ else none

def bytes (k : SecretKey) : List UInt8 := BigEndian.bytes width k.scalar

def point (k : SecretKey) : Point := Point.generator.multiple k.scalar

theorem ofNat?_scalar (k : SecretKey) : ofNat? k.scalar = some k := by
  simp [ofNat?, k.pos, k.lt]

theorem scalar_of_ofNat? {n : Nat} {k : SecretKey} (h : ofNat? n = some k) : k.scalar = n := by
  unfold ofNat? at h
  split at h
  · rw [← Option.some.inj h]
  · cases h

end SecretKey

end UtxoWallet.Curve
