import UtxoWallet.Bytes.Hex

/-! # Percent form

A byte that may not stand for itself is written as a percent sign and two digits.
-/

namespace UtxoWallet.Url.Percent

def isForeign (c : Char) : Bool := c.toNat < 0x20 || 0x7F ≤ c.toNat

def escape (b : UInt8) : List Char := '%' :: (Hex.encode [b]).map Char.toUpper

/-- A text in which only characters stand for themselves that are neither foreign nor reserved. -/
def encode (reserved : List Char) (cs : List Char) : List Char :=
  cs.flatMap fun c =>
    if isForeign c || reserved.contains c then (String.utf8EncodeChar c).flatMap escape else [c]

/-- The bytes of a text. A percent sign without two digits stands for itself. -/
def decode : List Char → List UInt8
  | [] => []
  | '%' :: a :: b :: cs =>
    match Hex.decode [a, b] with
    | some bytes => bytes ++ decode cs
    | none => 0x25 :: decode (a :: b :: cs)
  | c :: cs => String.utf8EncodeChar c ++ decode cs

/-- The text that was encoded, unless its bytes are none. -/
def decodeText? (cs : List Char) : Option String := String.fromUTF8? ⟨(decode cs).toArray⟩

/-! ## Reserved characters -/

def inFragment : List Char := " \"<>`".toList

def inQuery : List Char := " \"#<>".toList

def inPath : List Char := " \"<>`#?\x7b\x7d".toList

def inCredentials : List Char := inPath ++ "/:;=@[\\]^|".toList

end UtxoWallet.Url.Percent
