/-! # The curve P-256

`y ^ 2 = x ^ 3 - 3 x + b` over the integers modulo `fieldPrime`, and its point of order `order`.
-/

/-! ## Arithmetic modulo a prime -/

namespace UtxoWallet.Modular

/-- `a ^ n` modulo `m`, by repeated squaring. -/
def power (m a n : Nat) : Nat :=
  if n = 0 then 1 % m
  else
    let half := power m (a * a % m) (n / 2)
    if n % 2 = 1 then a * half % m else half
termination_by n

def sub (m a b : Nat) : Nat := (a + (m - b)) % m

/-- Fermat's inverse for a prime `m`. Zero has none and gives zero. -/
def inverse (m a : Nat) : Nat := power m a (m - 2)

/-- A square root modulo a prime `m` that leaves three modulo four. -/
def sqrt? (m a : Nat) : Option Nat :=
  let root := power m a ((m + 1) / 4)
  if root * root % m = a % m then some root else none

theorem mul_self_of_sqrt? {m a root : Nat} (h : sqrt? m a = some root) :
    root * root % m = a % m := by
  simp only [sqrt?, Option.ite_none_right_eq_some] at h
  rw [← Option.some.inj h.2]
  exact h.1

end UtxoWallet.Modular

/-! ## Points -/

namespace UtxoWallet.Curve

def fieldPrime : Nat := 0xFFFFFFFF00000001000000000000000000000000FFFFFFFFFFFFFFFFFFFFFFFF

def order : Nat := 0xFFFFFFFF00000000FFFFFFFFFFFFFFFFBCE6FAADA7179E84F3B9CAC2FC632551

def coefficient : Nat := 0x5AC635D8AA3A93E7B3EBBD55769886BC651D06B0CC53B0F63BCE3C3E27D2604B

/-- A point other than the one at infinity. -/
structure Point where
  x : Nat
  y : Nat
deriving DecidableEq, Repr

namespace Point

def generator : Point where
  x := 0x6B17D1F2E12C4247F8BCE6E563A440F277037D812DEB33A0F4A13945D898C296
  y := 0x4FE342E2FE1A7F9B8EE7EB4A7C0F9E162BCE33576B315ECECBB6406837BF51F5

/-- The square that a point with this `x` has for its `y`. -/
def squareAt (x : Nat) : Nat := (x * x * x + (fieldPrime - 3) * x + coefficient) % fieldPrime

/-- Reduced coordinates, on the curve. -/
def Valid (q : Point) : Prop :=
  q.x < fieldPrime ∧ q.y < fieldPrime ∧ q.y * q.y % fieldPrime = squareAt q.x

instance (q : Point) : Decidable q.Valid := by unfold Valid; infer_instance

/-- The point with this `x` whose `y` is odd or not. -/
def ofParity? (x : Nat) (odd : Bool) : Option Point := do
  let root ← Modular.sqrt? fieldPrime (squareAt x)
  return if root % 2 = odd.toNat then ⟨x, root⟩ else ⟨x, fieldPrime - root⟩

/-- The point with this `x` whose `y` is the smaller of the two. -/
def ofSmaller? (x : Nat) : Option Point := do
  let root ← Modular.sqrt? fieldPrime (squareAt x)
  return ⟨x, min root (fieldPrime - root)⟩

end Point

end UtxoWallet.Curve
