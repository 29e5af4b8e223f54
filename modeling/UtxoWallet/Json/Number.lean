import UtxoWallet.Json.Reader
import UtxoWallet.Text.Decimal

/-! # Numbers

A number is read digit by digit. Only then is it asked what it counts and whether it is too large.
-/

namespace UtxoWallet.Json

structure Number where
  negative : Bool
  whole : List Char
  /-- The digits behind the point. There are none without a point. -/
  fraction : List Char
  exponent : Option Int
deriving DecidableEq, Repr

/-! ## Reading -/

namespace Reader

/-- A digit that has to stand here. At the end of the text the fault is `atEnd`. -/
def digit (atEnd : Fault) : Reader Char := do
  match ← peek with
  | none => fail atEnd
  | some c => if c.isDigit then char else fail .malformed

def digits (atEnd : Fault) : Reader (List Char) := do
  let d ← digit atEnd
  let ds ← run Char.isDigit
  return d :: ds

/-- No other digit follows a zero in front. -/
def wholeDigits (atEnd : Fault) : Reader (List Char) := do
  let ds ← digits atEnd
  if ds.head? = some '0' ∧ ds.length ≠ 1 then fail .malformed else return ds

def fraction (atEnd : Fault) : Reader (List Char) := do
  match ← accept ['.'] with
  | some _ => digits atEnd
  | none => return []

def exponent (atEnd : Fault) : Reader (Option Int) := do
  match ← accept ['e', 'E'] with
  | none => return none
  | some _ =>
    let sign ← accept ['+', '-']
    let size : Int := Text.digitsValue (← digits atEnd)
    return some (if sign = some '-' then -size else size)

def number (atEnd : Fault) : Reader Number := do
  let sign ← accept ['-']
  let whole ← wholeDigits atEnd
  let fraction ← fraction atEnd
  let exponent ← exponent atEnd
  return ⟨sign.isSome, whole, fraction, exponent⟩

end Reader

/-! ## Size

A number that is no whole number is held with fifty-three bits, as a few leading digits times a
power of ten.
-/

/-- Takes digits on while they fit into sixty-four bits, and tells how many did. -/
def gather : (sum : Nat) → List Char → Nat × Nat
  | sum, [] => (sum, 0)
  | sum, d :: ds =>
    let next := 10 * sum + (d.toNat - '0'.toNat)
    if next < UInt64.size then
      let (total, count) := gather next ds
      (total, count + 1)
    else (sum, 0)

/-- The nearest number of fifty-three bits, the even one of two. -/
def roundBits (n : Nat) : Nat :=
  let unit := 1 <<< (n.log2 - 52)
  let down := n / unit
  let excess := 2 * (n % unit)
  if unit < excess ∨ (excess = unit ∧ down % 2 = 1) then (down + 1) * unit else down * unit

/-- The least size that is rounded to infinity. -/
def overflowBound : Nat := 1 <<< 1024 - 1 <<< 970

namespace Number

/-- The leading digits, and the power of ten to multiply them with. -/
def leading (n : Number) : Nat × Int :=
  let (whole, wholeCount) := gather 0 n.whole
  let (sum, fractionCount) := gather whole n.fraction
  (sum, (n.whole.length - wholeCount : Int) - fractionCount + n.exponent.getD 0)

def isTooLarge (n : Number) : Bool :=
  let (sum, power) := n.leading
  decide (sum ≠ 0) && decide (0 ≤ power) &&
    (decide (308 < power) ||
      decide (overflowBound ≤ roundBits sum * roundBits (Nat.pow 10 power.toNat)))

def natural? (n : Number) : Option UInt64 :=
  let value := Text.digitsValue n.whole
  if !n.negative ∧ n.fraction.isEmpty ∧ n.exponent.isNone ∧ value < UInt64.size then
    some (UInt64.ofNat value)
  else none

end Number

end UtxoWallet.Json
