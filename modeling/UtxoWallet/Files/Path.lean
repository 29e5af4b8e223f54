import UtxoWallet.Files.Fault
import UtxoWallet.Text.Pieces

/-! # Paths

A path is a text with slashes. It is kept as it was given, and nothing is cleaned up.
-/

namespace UtxoWallet.Files.Path

def isAbsolute (path : String) : Bool := path.toList.head? == some '/'

/-- What `name` means from `directory`. An absolute name means itself. -/
def join (directory name : String) : String :=
  if isAbsolute name || directory.isEmpty then name
  else if directory.toList.getLast? == some '/' then directory ++ name
  else directory ++ "/" ++ name

/-! ## Segments -/

/-- The names on the way, without empty pieces. -/
def segments (path : String) : List String :=
  ((Text.pieces (· == '/') path.toList).filter (!·.isEmpty)).map String.ofList

/-- A slash at the end asks for a directory. -/
def endsWithSlash (path : String) : Bool := path.toList.getLast? == some '/'

/-! ## Limits -/

def nameLimit : Nat := 255

def pathLimit : Nat := 4095

/-- Why the system does not take a path, wherever it may lead. -/
def fault? (path : String) : Option Fault :=
  if '\x00' ∈ path.toList then some .nullInPath
  else if pathLimit < path.utf8ByteSize then some .nameTooLong
  else none

/-! ## Ancestors -/

/-- The segments that name something of their own. A dot does so only at the very start. -/
def components (path : String) : List String :=
  match segments path with
  | [] => []
  | s :: ss => (if s = "." ∧ isAbsolute path then [] else [s]) ++ ss.filter (· ≠ ".")

/-- Proper starts of a list, the longest first. -/
def properStarts {α : Type} (as : List α) : List (List α) :=
  (List.range as.length).reverse.map as.take

/-- The directories above a path, the nearest first. The last one is the root or the empty path. -/
def ancestors (path : String) : List String :=
  (properStarts (components path)).map fun names =>
    (if isAbsolute path then "/" else "") ++ "/".intercalate names

end UtxoWallet.Files.Path
