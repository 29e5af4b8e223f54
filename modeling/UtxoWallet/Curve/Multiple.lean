import UtxoWallet.Curve.Point

/-! # Multiples of a point

Sums are formed in Jacobian coordinates, where a point is `(x / z ^ 2, y / z ^ 3)` and no step
divides. The point at infinity has a zero `z`.
-/

namespace UtxoWallet.Curve

structure Jacobian where
  x : Nat
  y : Nat
  z : Nat
deriving DecidableEq, Repr

def mul (a b : Nat) : Nat := a * b % fieldPrime
def add (a b : Nat) : Nat := (a + b) % fieldPrime
def sub (a b : Nat) : Nat := Modular.sub fieldPrime a b

def Point.toJacobian (q : Point) : Jacobian := ⟨q.x, q.y, 1⟩

namespace Jacobian

def infinity : Jacobian := ⟨1, 1, 0⟩

/-- The point at infinity has no coordinates and gives zeros, which no point of the curve has. -/
def toPoint (j : Jacobian) : Point :=
  let w := Modular.inverse fieldPrime j.z
  let w2 := mul w w
  ⟨mul j.x w2, mul j.y (mul w w2)⟩

def double (j : Jacobian) : Jacobian :=
  let delta := mul j.z j.z
  let gamma := mul j.y j.y
  let beta := mul j.x gamma
  let alpha := mul 3 (mul (sub j.x delta) (add j.x delta))
  let x := sub (mul alpha alpha) (mul 8 beta)
  let sum := add j.y j.z
  let z := sub (sub (mul sum sum) gamma) delta
  let y := sub (mul alpha (sub (mul 4 beta) x)) (mul 8 (mul gamma gamma))
  ⟨x, y, z⟩

protected def add (j k : Jacobian) : Jacobian :=
  if j.z = 0 then k
  else if k.z = 0 then j
  else
    let jj := mul j.z j.z
    let kk := mul k.z k.z
    let u := mul j.x kk
    let v := mul k.x jj
    let s := mul j.y (mul k.z kk)
    let t := mul k.y (mul j.z jj)
    if u = v then if s = t then double j else infinity
    else
      let h := sub v u
      let r := sub t s
      let h2 := mul h h
      let h3 := mul h h2
      let uh := mul u h2
      let x := sub (sub (mul r r) h3) (mul 2 uh)
      let y := sub (mul r (sub uh x)) (mul s h3)
      ⟨x, y, mul h (mul j.z k.z)⟩

/-- `n` times a point, by doubling. -/
def multiple (n : Nat) (j : Jacobian) : Jacobian :=
  if n = 0 then infinity
  else
    let even := double (multiple (n / 2) j)
    if n % 2 = 1 then even.add j else even
termination_by n

end Jacobian

def Point.multiple (n : Nat) (q : Point) : Point := (q.toJacobian.multiple n).toPoint

end UtxoWallet.Curve
