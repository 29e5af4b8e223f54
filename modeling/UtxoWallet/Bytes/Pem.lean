import UtxoWallet.Bytes.Base64

/-! # Armoured bytes

A line with a label, base64 in lines of sixty-four symbols, and a line with the label again. Lines
end in a line feed, a carriage return or both. Anything may stand before the first line.
-/

namespace UtxoWallet.Pem

def lineWidth : Nat := 64

def opening : List Char := "-----BEGIN ".toList
def closing : List Char := "-----END ".toList
def dashes : List Char := "-----".toList

/-! ## Pieces of a text -/

/-- What follows `start`, if the text starts with it. -/
def after? (start text : List Char) : Option (List Char) :=
  if start.isPrefixOf text then some (text.drop start.length) else none

/-- What stands before `stop`, if the text ends with it. -/
def before? (stop text : List Char) : Option (List Char) :=
  if stop.isSuffixOf text then some (text.take (text.length - stop.length)) else none

def afterLineEnd? : List Char → Option (List Char)
  | '\n' :: cs => some cs
  | '\r' :: '\n' :: cs => some cs
  | '\r' :: cs => some cs
  | _ => none

def beforeLineEnd? (cs : List Char) : Option (List Char) :=
  match cs.reverse with
  | '\n' :: '\r' :: rev => some rev.reverse
  | '\n' :: rev => some rev.reverse
  | '\r' :: rev => some rev.reverse
  | _ => none

/-- From the first opening on that starts a line. A null character before it is refused. -/
def skipPreamble : List Char → Option (List Char)
  | [] => none
  | c :: cs =>
    if c = '\x00' then none
    else if c = '\n' ∧ opening.isPrefixOf cs then some cs
    else skipPreamble cs

/-! ## The symbols -/

theorem length_afterLineEnd? {cs rest : List Char} (h : afterLineEnd? cs = some rest) :
    rest.length < cs.length := by
  unfold afterLineEnd? at h
  split at h
  · cases h
    exact Nat.lt_succ_self _
  · cases h
    exact Nat.lt_succ_of_lt (Nat.lt_succ_self _)
  · cases h
    exact Nat.lt_succ_self _
  · cases h

/-- The symbols of each line. Every line but the last is full. The last may have a line end too, and
may be empty. -/
def readLines (cs : List Char) : Option (List (List Char)) :=
  if cs.length ≤ lineWidth then some [(beforeLineEnd? cs).getD cs]
  else
    match _h : afterLineEnd? (cs.drop lineWidth) with
    | none => none
    | some [] => some [cs.take lineWidth]
    | some rest => (cs.take lineWidth :: ·) <$> readLines rest
termination_by cs.length
decreasing_by
  have := length_afterLineEnd? _h
  simp only [List.length_drop] at this
  omega

/-- The symbols of all lines together. Padding ends them, so that no line may follow it, not even an
empty one. -/
def joinLines (lines : List (List Char)) : Option (List Char) :=
  if lines.getLast? = some [] ∧ '=' ∈ lines.flatten then none else some lines.flatten

def splitLines (cs : List Char) : List (List Char) :=
  if cs.length ≤ lineWidth then [cs]
  else cs.take lineWidth :: splitLines (cs.drop lineWidth)
termination_by cs.length
decreasing_by
  simp only [List.length_drop, lineWidth] at *
  omega

/-! ## Writing and reading -/

def encode (label : List Char) (bytes : List UInt8) : List Char :=
  opening ++ label ++ dashes ++ ['\n'] ++
    ((splitLines (Base64.encodePadded bytes)).map (· ++ ['\n'])).flatten ++
    closing ++ label ++ dashes ++ ['\n']

/-- The bytes under a label. No line end may follow the last line. -/
def decode (label text : List Char) : Option (List UInt8) := do
  let text ← if opening.isPrefixOf text then some text else skipPreamble text
  let body ← after? (opening ++ label ++ dashes) text
  let body ← afterLineEnd? body
  let body ← before? (closing ++ label ++ dashes) body
  let body ← beforeLineEnd? body
  let symbols ← joinLines (← readLines body)
  Base64.decodePadded symbols

end UtxoWallet.Pem
