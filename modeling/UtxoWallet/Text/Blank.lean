import UtxoWallet.Text.Classes

/-! # Blanks

The White_Space property, and cutting a text at the characters that have it.
-/

namespace UtxoWallet.Text

def blankRanges : List (Nat × Nat) :=
  [(0x09, 0x0D), (0x20, 0x20), (0x85, 0x85), (0xA0, 0xA0), (0x1680, 0x1680), (0x2000, 0x200A),
   (0x2028, 0x2029), (0x202F, 0x202F), (0x205F, 0x205F), (0x3000, 0x3000)]

/-- The White_Space property. -/
def isBlank (c : Char) : Bool := inRanges blankRanges c

/-! ## Trimming -/

/-- Drops the longest end whose characters all satisfy `p`. -/
def dropTrailing (p : Char → Bool) (cs : List Char) : List Char :=
  (cs.reverse.dropWhile p).reverse

theorem dropTrailing_append_of_all {p : Char → Bool} {cs ds : List Char} (h : ds.all p = true) :
    dropTrailing p (cs ++ ds) = dropTrailing p cs := by
  have h' : ∀ a ∈ ds.reverse, p a = true := by
    intro a ha
    exact List.all_eq_true.mp h a (List.mem_reverse.mp ha)
  rw [dropTrailing, List.reverse_append, List.dropWhile_append_of_pos h', dropTrailing]

theorem dropTrailing_append_singleton {p : Char → Bool} {cs : List Char} {c : Char}
    (h : p c = false) : dropTrailing p (cs ++ [c]) = cs ++ [c] := by
  simp [dropTrailing, h]

def trimBlanks (cs : List Char) : List Char :=
  dropTrailing isBlank (cs.dropWhile isBlank)

def trim (s : String) : String := String.ofList (trimBlanks s.toList)

/-! ## Words -/

/-- The maximal runs of characters that are not blank. -/
def words : List Char → List (List Char)
  | [] => []
  | c :: cs =>
    if isBlank c then words cs
    else (c :: cs.takeWhile (!isBlank ·)) :: words (cs.dropWhile (!isBlank ·))
termination_by cs => cs.length
decreasing_by
  · simp
  · have := (List.dropWhile_suffix (l := cs) (!isBlank ·)).length_le
    simp only [List.length_cons]
    omega

def hasBlank (s : String) : Bool := s.toList.any isBlank

end UtxoWallet.Text
