import UtxoWallet.Bytes.Hex
import UtxoWallet.Text.Decimal
import UtxoWallet.Text.Pieces

/-! # Internet addresses of a hundred and twenty-eight bits

Eight groups with colons between them. Two colons together stand for groups of zeros, once in an
address. The last two groups may be four bytes with points between them.
-/

namespace UtxoWallet.Url

structure Ipv6 where
  groups : List UInt16
  length_groups : groups.length = 8
deriving DecidableEq, Repr

namespace Ipv6

/-! ## Reading -/

def group? (cs : List Char) : Option UInt16 := do
  guard (0 < cs.length ∧ cs.length ≤ 4)
  let digits ← cs.mapM Hex.digitValue?
  return UInt16.ofNat (digits.foldl (16 * · + ·) 0)

def byte? (cs : List Char) : Option Nat := do
  let n ← Text.natural? cs
  guard (n < 256 ∧ (cs.length = 1 ∨ cs.head? ≠ some '0'))
  return n

/-- Two groups, written as four bytes. -/
def dotted? (cs : List Char) : Option (List UInt16) := do
  match ← (Text.pieces (· == '.') cs).mapM byte? with
  | [a, b, c, d] => return [UInt16.ofNat (256 * a + b), UInt16.ofNat (256 * c + d)]
  | _ => none

/-- The groups in some pieces. Only the last piece may have points. -/
def groups? (mayBeDotted : Bool) : List (List Char) → Option (List UInt16)
  | [] => some []
  | [last] =>
    match group? last with
    | some g => some [g]
    | none => if mayBeDotted then dotted? last else none
  | p :: ps => do return (← group? p) :: (← groups? mayBeDotted ps)

def groupsOf? (mayBeDotted : Bool) (cs : List Char) : Option (List UInt16) :=
  if cs.isEmpty then some [] else groups? mayBeDotted (Text.pieces (· == ':') cs)

/-- What stands before the first two colons together, and what follows them. -/
def cutAtGap : List Char → List Char × Option (List Char)
  | [] => ([], none)
  | ':' :: ':' :: cs => ([], some cs)
  | c :: cs => (c :: (cutAtGap cs).1, (cutAtGap cs).2)

def ofGroups? (groups : List UInt16) : Option Ipv6 :=
  if h : groups.length = 8 then some ⟨groups, h⟩ else none

/-- A gap stands for one group at least. -/
def ofText? (cs : List Char) : Option Ipv6 := do
  match cutAtGap cs with
  | (all, none) => ofGroups? (← groupsOf? true all)
  | (before, some after) => do
    let before ← groupsOf? false before
    let after ← groupsOf? true after
    let gap := 8 - (before.length + after.length)
    guard (0 < gap)
    ofGroups? (before ++ List.replicate gap 0 ++ after)

/-! ## Writing -/

def zerosAt (groups : List UInt16) (i : Nat) : Nat := ((groups.drop i).takeWhile (· == 0)).length

/-- Where the first longest row of zeros starts and how long it is. A single zero is no row. -/
def longestRow (groups : List UInt16) : Nat × Nat :=
  (List.range groups.length).foldl
    (fun best i => if best.2 < zerosAt groups i then (i, zerosAt groups i) else best) (0, 1)

def joined (groups : List UInt16) : String :=
  ":".intercalate (groups.map fun g => String.ofList (Nat.toDigits 16 g.toNat))

/-- The longest row of zeros is left out. -/
def text (a : Ipv6) : String :=
  let (start, length) := longestRow a.groups
  if 1 < length then joined (a.groups.take start) ++ "::" ++ joined (a.groups.drop (start + length))
  else joined a.groups

end Ipv6

end UtxoWallet.Url
