import UtxoWallet.Text.Pieces
import UtxoWallet.Url.Percent

/-! # Paths in URLs

Steps to the same directory and to the one above are taken while a path is read.
-/

namespace UtxoWallet.Url.Path

abbrev Segment := List Char

def small (s : Segment) : String := String.ofList (s.map Char.toLower)

def staysHere (s : Segment) : Bool := [".", "%2e"].contains (small s)

def goesUp (s : Segment) : Bool := ["..", ".%2e", "%2e.", "%2e%2e"].contains (small s)

/-- A letter that names a drive. -/
def isDrive : Segment → Bool
  | [letter, mark] => letter.isAlpha && (mark == ':' || mark == '|')
  | _ => false

/-- Without the segment that comes first, which is the last one so far. A drive stays. -/
def up : List Segment → List Segment
  | [] => []
  | s :: above => if isDrive s then s :: above else above

/-- Takes the steps, from the segments in `above`. A step at the end leaves an empty segment. -/
def resolve (above : List Segment) : List Segment → List Segment
  | [] => above.reverse
  | [last] =>
    if goesUp last then ([] :: up above).reverse
    else if staysHere last then ([] :: above).reverse
    else (last :: above).reverse
  | s :: rest =>
    if goesUp s then resolve (up above) rest
    else if staysHere s then resolve above rest
    else resolve (s :: above) rest

/-- The path of a text, as seen from the directory with these segments. -/
def segmentsFrom (directory : List Segment) (isSlash : Char → Bool) (cs : List Char) :
    List Segment :=
  resolve directory.reverse ((Text.pieces isSlash cs).map (Percent.encode Percent.inPath))

def segments (isSlash : Char → Bool) (cs : List Char) : List Segment := segmentsFrom [] isSlash cs

def text (segments : List Segment) : String := String.ofList (segments.flatMap ('/' :: ·))

end UtxoWallet.Url.Path
