import UtxoWallet.Bytes.BigEndian

/-! # DER

Elements of a tag, a length and a content. A length is spelt in one way only, so each element has
one spelling.
-/

namespace UtxoWallet.Der

structure Element where
  tag : UInt8
  content : List UInt8
deriving DecidableEq, Repr

/-! ## Tags -/

def integer : UInt8 := 0x02
def bitString : UInt8 := 0x03
def octetString : UInt8 := 0x04
def objectIdentifier : UInt8 := 0x06
def sequence : UInt8 := 0x30

/-- The tag of a constructed element that only its place gives a meaning. -/
def contextual (number : UInt8) : UInt8 := 0xA0 + number

def universalTags : List UInt8 :=
  [0x01, 0x02, 0x03, 0x04, 0x05, 0x06, 0x09, 0x0A, 0x0C, 0x12, 0x13, 0x14, 0x15, 0x16, 0x17, 0x18,
   0x1A, 0x1E, 0x30, 0x31]

/-- Tags of one byte: the universal ones in use, and all of the other classes. -/
def isTag (b : UInt8) : Bool :=
  b ∈ universalTags || (decide (0x40 ≤ b) && decide (b % 32 ≠ 31))

/-! ## Lengths -/

def writeLength (n : Nat) : List UInt8 :=
  if n < 0x80 then [UInt8.ofNat n]
  else UInt8.ofNat (0x80 + (BigEndian.least n).length) :: BigEndian.least n

/-- A length and what follows it. Up to four bytes may spell one, and no more than it needs. -/
def readLength : List UInt8 → Option (Nat × List UInt8)
  | [] => none
  | b :: bs =>
    if b < 0x80 then some (b.toNat, bs)
    else if 0x81 ≤ b ∧ b ≤ 0x84 then
      let n := BigEndian.value (bs.take (b.toNat - 0x80))
      if writeLength n = b :: bs.take (b.toNat - 0x80) then some (n, bs.drop (b.toNat - 0x80))
      else none
    else none

/-! ## Elements -/

def write (e : Element) : List UInt8 := e.tag :: writeLength e.content.length ++ e.content

def read : List UInt8 → Option (Element × List UInt8)
  | [] => none
  | tag :: bytes => do
    guard (isTag tag)
    let (n, rest) ← readLength bytes
    guard (n ≤ rest.length)
    return (⟨tag, rest.take n⟩, rest.drop n)

theorem length_readLength_le {bytes rest : List UInt8} {n : Nat}
    (h : readLength bytes = some (n, rest)) : rest.length ≤ bytes.length := by
  unfold readLength at h
  split at h
  · cases h
  · split at h
    · cases h
      simp
    · split at h
      · simp only [Option.ite_none_right_eq_some, Option.some.injEq, Prod.mk.injEq] at h
        obtain ⟨_, _, rfl⟩ := h
        simp only [List.length_drop, List.length_cons]
        omega
      · cases h

theorem length_read {bytes rest : List UInt8} {e : Element} (h : read bytes = some (e, rest)) :
    rest.length < bytes.length := by
  unfold read at h
  split at h
  · cases h
  · obtain ⟨_, _, h⟩ := Option.bind_eq_some_iff.mp h
    obtain ⟨_, hlength, h⟩ := Option.bind_eq_some_iff.mp h
    obtain ⟨_, _, h⟩ := Option.bind_eq_some_iff.mp h
    have := length_readLength_le hlength
    cases h
    simp only [List.length_drop, List.length_cons]
    omega

def readTag (tag : UInt8) (bytes : List UInt8) : Option (List UInt8 × List UInt8) := do
  let (e, rest) ← read bytes
  guard (e.tag = tag)
  return (e.content, rest)

/-- The content of the one element that the bytes are. -/
def only (tag : UInt8) (bytes : List UInt8) : Option (List UInt8) := do
  let (content, rest) ← readTag tag bytes
  guard rest.isEmpty
  return content

/-! ## Whole numbers -/

/-- As few bytes as spell `n`, with a zero before them where the first bit would make it
negative. -/
def unsignedContent (n : Nat) : List UInt8 :=
  match BigEndian.least n with
  | [] => [0]
  | b :: bs => if b < 0x80 then b :: bs else 0 :: b :: bs

def writeUnsigned (n : Nat) : List UInt8 := write ⟨integer, unsignedContent n⟩

def readUnsigned (bytes : List UInt8) : Option (Nat × List UInt8) := do
  let (content, rest) ← readTag integer bytes
  let n := BigEndian.value content
  guard (content = unsignedContent n)
  return (n, rest)

/-! ## Object identifiers -/

/-- Each arc ends, in at most five bytes and below 2 ^ 32. -/
def arcsEnd : (before : Nat) → List UInt8 → Bool
  | before, [] => before == 0
  | before, b :: bs =>
    if 4 ≤ before ∧ 16 ≤ b then false
    else if b < 0x80 then arcsEnd 0 bs
    else arcsEnd (before + 1) bs

/-- The content of an object identifier of three arcs or more. -/
def isObjectIdentifier : List UInt8 → Bool
  | [] => false
  | b :: bs => decide (2 ≤ bs.length) && decide (bs.length ≤ 38) && decide (b < 120) && arcsEnd 0 bs

def readObjectIdentifier (bytes : List UInt8) : Option (List UInt8 × List UInt8) := do
  let (oid, rest) ← readTag objectIdentifier bytes
  guard (isObjectIdentifier oid)
  return (oid, rest)

/-! ## Bit strings -/

/-- Whole bytes as a bit string: none of the last byte's bits is unused. -/
def wholeBytes (bytes : List UInt8) : List UInt8 := 0 :: bytes

def readBitString (bytes : List UInt8) : Option ((UInt8 × List UInt8) × List UInt8) := do
  let (content, rest) ← readTag bitString bytes
  match content with
  | [] => none
  | unused :: bits =>
    guard (unused ≤ 7 ∧ (unused = 0 ∨ bits ≠ []))
    return ((unused, bits), rest)

end UtxoWallet.Der
