import UtxoWallet.Bytes.Hex
import UtxoWallet.Text.Pieces

/-! # Internet addresses of thirty-two bits

Up to four numbers with points between them. The last number fills all bytes that are left.
-/

namespace UtxoWallet.Url

structure Ipv4 where
  value : UInt32
deriving DecidableEq, Repr

namespace Ipv4

/-! ## Numbers -/

/-- The value of digits in a base. No digits are zero. -/
def digits? (base : Nat) (cs : List Char) : Option Nat :=
  cs.foldlM (fun n c => do
    let d ← Hex.digitValue? c
    guard (d < base)
    return base * n + d) 0

/-- A number is hexadecimal behind `0x`, octal behind another zero, and else decimal. -/
def number? : List Char → Option Nat
  | [] => none
  | '0' :: 'x' :: cs => digits? 16 cs
  | '0' :: 'X' :: cs => digits? 16 cs
  | '0' :: c :: cs => digits? 8 (c :: cs)
  | cs => digits? 10 cs

/-! ## Addresses -/

/-- The parts of a name. One point at the end goes for nothing. -/
def parts (cs : List Char) : List (List Char) :=
  match (Text.pieces (· == '.') cs).reverse with
  | [] => []
  | [p] => [p]
  | p :: ps => if p.isEmpty then ps.reverse else (p :: ps).reverse

/-- Whether a name can only be meant as an address: its last part is a number. -/
def isMeant (cs : List Char) : Bool :=
  match (parts cs).getLast? with
  | none => false
  | some last => (!last.isEmpty && last.all Char.isDigit) || (number? last).isSome

/-- The value of the parts from some byte on, of which there are `left`. -/
def value? (left : Nat) : List Nat → Option Nat
  | [] => none
  | [n] => if n < 1 <<< (8 * left) then some n else none
  | n :: ns => do
    guard (n < 256)
    return n <<< (8 * (left - 1)) + (← value? (left - 1) ns)

def ofText? (cs : List Char) : Option Ipv4 := do
  guard ((parts cs).length ≤ 4)
  let value ← value? 4 (← (parts cs).mapM number?)
  return ⟨UInt32.ofNat value⟩

def text (a : Ipv4) : String :=
  let n := a.value.toNat
  s!"{n >>> 24}.{n >>> 16 % 256}.{n >>> 8 % 256}.{n % 256}"

end Ipv4

end UtxoWallet.Url
