import UtxoWallet.Bytes.Der
import UtxoWallet.Curve.Encoding
import UtxoWallet.Key.Fault
import UtxoWallet.Text.Blank

/-! # The address of a key

A public key is written as the algorithm, the curve and the point. The address is that in base64
without padding.
-/

namespace UtxoWallet.Key

open Curve

/-! ## Bytes -/

def algorithm : List UInt8 := [0x2A, 0x86, 0x48, 0xCE, 0x3D, 0x02, 0x01]

def curve : List UInt8 := [0x2A, 0x86, 0x48, 0xCE, 0x3D, 0x03, 0x01, 0x07]

def writePublic (q : Point) : List UInt8 :=
  let names :=
    Der.write ⟨Der.objectIdentifier, algorithm⟩ ++ Der.write ⟨Der.objectIdentifier, curve⟩
  Der.write ⟨Der.sequence, Der.write ⟨Der.sequence, names⟩ ++
    Der.write ⟨Der.bitString, Der.wholeBytes q.uncompressed⟩⟩

/-- The parts of a written key, before anyone looks at what they say. -/
structure Parts where
  algorithm : List UInt8
  parameters : Option Der.Element
  unused : UInt8
  point : List UInt8
deriving DecidableEq, Repr

def readParameters (bytes : List UInt8) : Option (Option Der.Element) :=
  if bytes.isEmpty then some none
  else do
    let (e, rest) ← Der.read bytes
    guard rest.isEmpty
    return some e

def readParts (bytes : List UInt8) : Option Parts := do
  let content ← Der.only Der.sequence bytes
  let (names, rest) ← Der.readTag Der.sequence content
  let (algorithm, parameters) ← Der.readObjectIdentifier names
  let parameters ← readParameters parameters
  let ((unused, point), rest) ← Der.readBitString rest
  guard rest.isEmpty
  return ⟨algorithm, parameters, unused, point⟩

def isCurve (e : Der.Element) : Except Fault Bool :=
  if e.tag = Der.objectIdentifier ∧ Der.isObjectIdentifier e.content then .ok (e.content == curve)
  else .error .form

/-- The algorithm is judged first, then the curve, then the point. -/
def readPublic (bytes : List UInt8) : Except Fault Point := do
  let parts ← (readParts bytes).elim (.error .form) .ok
  if parts.algorithm ≠ algorithm then throw .algorithm
  let parameters ← parts.parameters.elim (.error .noCurve) .ok
  if !(← isCurve parameters) then throw .curve
  if parts.unused ≠ 0 then throw .form
  (Point.ofBytes? parts.point).elim (.error .form) .ok

/-! ## Text -/

def address (q : Point) : String := String.ofList (Base64.encode (writePublic q))

/-- The key that an address stands for. Padding does no harm. -/
def ofAddress (text : String) : Except Fault Point := do
  let bare := String.ofList (Base64.unpadded text.toList)
  let bytes ← (Base64.decode bare.toUTF8.data.toList).mapError .base64
  readPublic bytes

end UtxoWallet.Key
