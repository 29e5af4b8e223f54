import UtxoWallet.Text.Quoted

/-! # Addresses

An address is a text over the base64 alphabet, signs of padding included. It holds no blank, so it
can stand as one word in a record.
-/

namespace UtxoWallet.Address

def isBase64 (c : Char) : Bool := c.isAlphanum || c == '+' || c == '/' || c == '='

inductive Fault where
  | empty
  /-- The first character outside the alphabet, and how many bytes stand before it. -/
  | invalidCharacter (char : Char) (position : Nat)
deriving DecidableEq, Repr

def Fault.message : Fault → String
  | .empty => "address must be a non-empty string"
  | .invalidCharacter char position =>
    s!"invalid address character {Text.quoted char} at position {position}"

/-! ## Checking -/

def firstStray (position : Nat) : List Char → Option (Char × Nat)
  | [] => none
  | c :: cs => if isBase64 c then firstStray (position + c.utf8Size) cs else some (c, position)

def check (address : String) : Except Fault Unit :=
  if address.isEmpty then .error .empty
  else
    match firstStray 0 address.toList with
    | some (c, position) => .error (.invalidCharacter c position)
    | none => .ok ()

/-! ## Shortening -/

/-- The characters that make up the first `n` bytes, unless a character reaches over that place. -/
def takeBytes : (n : Nat) → List Char → Option (List Char)
  | 0, _ => some []
  | _ + 1, [] => none
  | n + 1, c :: cs =>
    if c.utf8Size ≤ n + 1 then (c :: ·) <$> takeBytes (n + 1 - c.utf8Size) cs else none

/-- What follows the first `n` bytes, unless a character reaches over that place. -/
def dropBytes : (n : Nat) → List Char → Option (List Char)
  | 0, cs => some cs
  | _ + 1, [] => none
  | n + 1, c :: cs =>
    if c.utf8Size ≤ n + 1 then dropBytes (n + 1 - c.utf8Size) cs else none

/-- The first and the last `keep` bytes. Twice that number is a number of sixty-four bits again. A
cut inside a character, or past the end, has no answer. -/
def abbreviate (address : String) (keep : UInt64) : Option String :=
  if address.utf8ByteSize ≤ (2 * keep).toNat then some address
  else do
    let first ← takeBytes keep.toNat address.toList
    let last ← dropBytes (address.utf8ByteSize - keep.toNat) address.toList
    return String.ofList (first ++ "...".toList ++ last)

end UtxoWallet.Address
