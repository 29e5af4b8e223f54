import UtxoWallet.Text.Classes
import UtxoWallet.Text.Pieces
import UtxoWallet.Url.Composition
import UtxoWallet.Url.Direction
import UtxoWallet.Url.Folding
import UtxoWallet.Url.Joiner
import UtxoWallet.Url.Punycode

/-! # Domain names

A name is a row of labels with points between them. Labels with characters beyond ASCII are written
in ASCII.
-/

namespace UtxoWallet.Url.Domain

open Punycode (isBasic)

/-! ## Characters -/

def isPlain (c : Char) : Bool :=
  ' ' < c && c < '\x7F' && !"%#/:<>?@[\\]^|".toList.contains c

/-- Characters with a glyph that are in no name all the same. -/
def oddRanges : List (Nat × Nat) :=
  [(0x2024, 0x2026), (0x2488, 0x249B), (0x2FF0, 0x2FFF), (0x31EF, 0x31EF), (0x33C2, 0x33C2),
   (0x33C7, 0x33C7), (0x33D8, 0x33D8), (0xFE12, 0xFE12), (0xFE19, 0xFE19), (0xFE30, 0xFE30),
   (0xFE52, 0xFE52), (0xFFFC, 0xFFFD), (0x1F100, 0x1F100)]

def isAllowed (c : Char) : Bool :=
  if isBasic c then isPlain c
  else Joiner.isJoiner c || !Text.isUnprintable c && !Text.inRanges oddRanges c

def fold (cs : List Char) : List Char := Composition.compose (cs.flatMap Folding.fold)

/-! ## Labels -/

/-- A mark has no letter to join at the start of a label. -/
def isLabel (cs : List Char) : Bool :=
  cs.all isAllowed && !cs.head?.any Text.isMark && Joiner.areFit [] cs

/-- What a label written in ASCII starts with. -/
def mark : List Char := "xn--".toList

/-- The label that is written behind the mark. -/
def marked? (written : List Char) : Option (List Char) := do
  let cs ← Punycode.decode written
  guard (fold cs = cs ∧ !cs.all isBasic ∧ Punycode.encode cs = written)
  return cs

def label? (cs : List Char) : Option (List Char) := do
  let label ← if mark.isPrefixOf cs then marked? (cs.drop mark.length) else some cs
  guard (isLabel label)
  return label

def write (label : List Char) : List Char :=
  if label.all isBasic then label else mark ++ Punycode.encode label

def ofText? (cs : List Char) : Option (List Char) := do
  let labels ← (Text.pieces (· == '.') (fold cs)).mapM label?
  guard (Direction.areClear labels)
  return ['.'].intercalate (labels.map write)

end UtxoWallet.Url.Domain
