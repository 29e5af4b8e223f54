import UtxoWallet.Text.Classes
import UtxoWallet.Url.Punycode

/-! # The direction of a domain name

Where one label runs from right to left, a reader must be able to tell the labels apart. So no label
mixes directions, and each shows its own at both ends.
-/

namespace UtxoWallet.Url.Direction

inductive Class where
  | left
  | right
  | number
  /-- A number that only stands among letters from right to left. -/
  | rightNumber
  /-- A mark, which runs as the character before it does. -/
  | mark
  | neutral
deriving DecidableEq, Repr

def numberRanges : List (Nat × Nat) := [(0x6F0, 0x6F9), (0x102E1, 0x102FB)]

def rightNumberRanges : List (Nat × Nat) :=
  [(0x660, 0x669), (0x66B, 0x66C), (0x10D30, 0x10D49), (0x10E60, 0x10E7E)]

def neutralRanges : List (Nat × Nat) :=
  [(0xA1, 0xD7), (0xF7, 0xF7), (0x2B9, 0x2BA), (0x2C2, 0x2CF), (0x2D2, 0x2ED), (0x2EF, 0x2FF),
   (0x375, 0x375), (0x3F6, 0x3F6), (0x58A, 0x58F), (0x606, 0x607), (0x609, 0x60A), (0x60C, 0x60C),
   (0x60E, 0x60F), (0x66A, 0x66A), (0x6DE, 0x6DE), (0x6E9, 0x6E9), (0x7F6, 0x7F9), (0x9F2, 0x9F3),
   (0x9FB, 0x9FB), (0xAF1, 0xAF1), (0xBF3, 0xBFA), (0xC78, 0xC7E), (0xE3F, 0xE3F), (0xF3A, 0xF3D),
   (0x1390, 0x1399), (0x1400, 0x1400), (0x169B, 0x169C), (0x17DB, 0x17DB), (0x17F0, 0x180A),
   (0x1940, 0x1945), (0x19DE, 0x19FF), (0x200C, 0x214D), (0x218A, 0x2335), (0x237B, 0x2394),
   (0x2396, 0x26AB), (0x26AD, 0x27FF), (0x2900, 0x2BFF), (0x2CE5, 0x2CEA), (0x2CF9, 0x2CFF),
   (0x2E00, 0x3004), (0x3008, 0x3020), (0x3030, 0x3030), (0x3037, 0x3037), (0x303D, 0x303F),
   (0x30A0, 0x30A0), (0x30FB, 0x30FB), (0x31C0, 0x31E5), (0x4DC0, 0x4DFF), (0xA490, 0xA4C6),
   (0xA60D, 0xA60F), (0xA673, 0xA67F), (0xA700, 0xA721), (0xA788, 0xA788), (0xA828, 0xA82B),
   (0xA838, 0xA839), (0xA874, 0xA877), (0xAB6A, 0xAB6B), (0xFBC3, 0xFE46), (0x10101, 0x10101),
   (0x10140, 0x1018C), (0x10190, 0x101A0), (0x1091F, 0x1091F), (0x10B39, 0x10B3F),
   (0x10D6E, 0x10D6E), (0x10ED0, 0x10ED8), (0x11052, 0x11065), (0x11660, 0x1166C),
   (0x11FD5, 0x11FF1), (0x16FE2, 0x16FE2), (0x1CC00, 0x1CEF0), (0x1D1E9, 0x1D245),
   (0x1D300, 0x1D356), (0x1E2FF, 0x1E2FF), (0x1EEF0, 0x1F12F), (0x1F16D, 0x1F16F),
   (0x1F1AD, 0x1F1AD), (0x1F260, 0x1FBFA)]

/-- Blocks of scripts from right to left. What is neither a mark nor a number nor neutral there is a
letter. -/
def rightRanges : List (Nat × Nat) :=
  [(0x5BE, 0x8C9), (0xFBB2, 0xFE73), (0x10800, 0x10FF6), (0x1E800, 0x1ED3D)]

def basicClassOf (c : Char) : Class :=
  if c.isAlpha then .left else if c.isDigit then .number else .neutral

def classOf (c : Char) : Class :=
  if Punycode.isBasic c then basicClassOf c
  else if Text.isNonspacing c then .mark
  else if Text.inRanges numberRanges c then .number
  else if Text.inRanges rightNumberRanges c then .rightNumber
  else if Text.inRanges neutralRanges c then .neutral
  else if Text.inRanges rightRanges c then .right
  else .left

/-- Whether a label says that its name has a direction to look after. -/
def runsRight (cs : List Char) : Bool :=
  cs.any fun c => classOf c = .right || classOf c = .rightNumber

def lastClass? (classes : List Class) : Option Class := (classes.filter (· ≠ .mark)).getLast?

def isClear (cs : List Char) : Bool :=
  let classes := cs.map classOf
  match classes with
  | [] => true
  | .right :: _ =>
    !classes.contains .left && !(classes.contains .number && classes.contains .rightNumber) &&
      (lastClass? classes).any [.right, .number, .rightNumber].contains
  | .left :: _ =>
    !classes.contains .right && !classes.contains .rightNumber &&
      (lastClass? classes).any [.left, .number].contains
  | _ => false

/-- Names without a label from right to left are always clear. -/
def areClear (labels : List (List Char)) : Bool := !labels.any runsRight || labels.all isClear

end UtxoWallet.Url.Direction
