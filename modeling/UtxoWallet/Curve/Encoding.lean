import UtxoWallet.Bytes.BigEndian
import UtxoWallet.Curve.Point

/-! # Points as bytes

A first byte tells the form: both coordinates, the first one and the parity of the second, or the
first one alone. The point at infinity and mixed forms are refused.
-/

namespace UtxoWallet.Curve

def width : Nat := 32

namespace Point

def uncompressed (q : Point) : List UInt8 :=
  0x04 :: BigEndian.bytes width q.x ++ BigEndian.bytes width q.y

def compressed (q : Point) : List UInt8 :=
  UInt8.ofNat (2 + q.y % 2) :: BigEndian.bytes width q.x

def fromForm (form : UInt8) (coordinates : List UInt8) : Option Point :=
  let x := BigEndian.value (coordinates.take width)
  let y := BigEndian.value (coordinates.drop width)
  if form = 0x04 then
    if coordinates.length = 2 * width then some ⟨x, y⟩ else none
  else if coordinates.length ≠ width then none
  else if form = 0x02 then ofParity? x false
  else if form = 0x03 then ofParity? x true
  else if form = 0x05 then ofSmaller? x
  else none

def ofBytes? : List UInt8 → Option Point
  | [] => none
  | form :: coordinates => do
    let q ← fromForm form coordinates
    guard q.Valid
    return q

end Point

end UtxoWallet.Curve
