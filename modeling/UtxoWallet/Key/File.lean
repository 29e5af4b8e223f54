import UtxoWallet.Bytes.Pem
import UtxoWallet.Curve.SecretKey
import UtxoWallet.Key.Address

/-! # The file of a key

A secret key is written with its public point, in armour.
-/

namespace UtxoWallet.Key

open Curve

def label : List Char := "EC PRIVATE KEY".toList

/-! ## Bytes -/

def version : List UInt8 := [1]

def writeSecret (k : SecretKey) : List UInt8 :=
  Der.write ⟨Der.sequence,
    Der.write ⟨Der.integer, version⟩ ++ Der.write ⟨Der.octetString, k.bytes⟩ ++
    Der.write ⟨Der.contextual 1,
      Der.write ⟨Der.bitString, Der.wholeBytes k.point.uncompressed⟩⟩⟩

/-- Twenty-four bytes may do, where the rest would be zeros. -/
def leastWidth : Nat := 24

def readScalar (bytes : List UInt8) : Option SecretKey := do
  guard (leastWidth ≤ bytes.length ∧ bytes.length ≤ width)
  SecretKey.ofNat? (BigEndian.value bytes)

/-- Whether a byte is the tag of an element that stands in place `number`. -/
def isPlace (number : UInt8) (tag : UInt8) : Bool :=
  tag == 0x80 + number || tag == Der.contextual number

/-- Steps over the name of a curve. Any name will do. -/
def skipCurve (bytes : List UInt8) : Option (List UInt8) :=
  match bytes with
  | [] => some []
  | tag :: _ =>
    if isPlace 0 tag then do
      let (content, rest) ← Der.readTag (Der.contextual 0) bytes
      let (_, after) ← Der.readObjectIdentifier content
      guard after.isEmpty
      return rest
    else some bytes

/-- Steps over any more elements in the place of the curve. -/
def skipPlace : List UInt8 → Option (List UInt8)
  | [] => some []
  | tag :: bytes =>
    if isPlace 0 tag then
      match _h : Der.read (tag :: bytes) with
      | none => none
      | some (_, rest) => skipPlace rest
    else some (tag :: bytes)
termination_by bytes => bytes.length
decreasing_by exact Der.length_read _h

/-- The bytes of the public point, if there are any. Nothing may follow. -/
def readPoint (bytes : List UInt8) : Option (Option (List UInt8)) :=
  if bytes.isEmpty then some none
  else do
    let content ← Der.only (Der.contextual 1) bytes
    let ((unused, point), rest) ← Der.readBitString content
    guard (unused = 0 ∧ rest.isEmpty)
    return some point

/-- The point is the secret's, in either of its usual forms. -/
def belongs (k : SecretKey) (point : List UInt8) : Bool :=
  point == k.point.uncompressed || point == k.point.compressed

def readSecret (bytes : List UInt8) : Option SecretKey := do
  let content ← Der.only Der.sequence bytes
  let (number, rest) ← Der.readTag Der.integer content
  guard (number = version)
  let (scalar, rest) ← Der.readTag Der.octetString rest
  let rest ← skipCurve rest
  let rest ← skipPlace rest
  let point ← readPoint rest
  let k ← readScalar scalar
  guard (point.all (belongs k))
  return k

/-! ## Text -/

def pem (k : SecretKey) : String := String.ofList (Pem.encode label (writeSecret k))

/-- The key in a text. Blanks around it do no harm. -/
def ofPem (text : String) : Except Fault SecretKey :=
  ((Pem.decode label (Text.trimBlanks text.toList)).bind readSecret).elim (.error .file) .ok

/-- A key as a message may show it: the public half only. -/
def shown (k : SecretKey) : String :=
  "KeyPair \x7b public: \"" ++ address k.point ++ "\", .. \x7d"

end UtxoWallet.Key
