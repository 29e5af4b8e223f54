import UtxoWallet.Bytes.Hex
import UtxoWallet.Bytes.Utf8
import UtxoWallet.Text.Blank
import UtxoWallet.Text.Decimal
import UtxoWallet.Text.Pieces

/-! # Answers

An answer has a head of lines and, behind an empty line, a body. The head tells where the body ends.
-/

namespace UtxoWallet.Node

inductive Body where
  | whole (bytes : ByteArray)
  /-- It ends before its announced length. -/
  | short

def Body.text? : Body → Option String
  | .whole bytes => some (Utf8.text bytes)
  | .short => none

/-- What comes of a request that comes to an end. An answer may name a place to ask instead. -/
inductive Outcome where
  | noAnswer
  | answered (status : Nat) (body : Body) (location : Option String := none)

/-! ## Lines -/

/-- The bytes up to the next line feed, and what follows it. A carriage return before it belongs to
the line's end. -/
def line? : List UInt8 → Option (List UInt8 × List UInt8)
  | [] => none
  | 0x0A :: rest => some ([], rest)
  | 0x0D :: 0x0A :: rest => some ([], rest)
  | b :: bs => (line? bs).map fun p => (b :: p.1, p.2)

theorem length_line? {bytes line rest : List UInt8} (h : line? bytes = some (line, rest)) :
    rest.length < bytes.length := by
  fun_induction line? bytes generalizing line with
  | case1 => cases h
  | case2 =>
    cases h
    exact Nat.lt_succ_self _
  | case3 =>
    cases h
    exact Nat.lt_succ_of_lt (Nat.lt_succ_self _)
  | case4 b bs _ _ ih =>
    obtain ⟨p, hp, hpair⟩ := Option.map_eq_some_iff.mp h
    cases hpair
    exact Nat.lt_succ_of_lt (ih hp)

def dropEmptyLines : List UInt8 → List UInt8
  | 0x0A :: rest => dropEmptyLines rest
  | 0x0D :: 0x0A :: rest => dropEmptyLines rest
  | bytes => bytes

theorem length_dropEmptyLines (bytes : List UInt8) :
    (dropEmptyLines bytes).length ≤ bytes.length := by
  fun_induction dropEmptyLines bytes with
  | case1 rest ih => exact Nat.le_succ_of_le ih
  | case2 rest ih => exact Nat.le_succ_of_le (Nat.le_succ_of_le ih)
  | case3 => exact Nat.le_refl _

/-- Every byte is one character of a head. -/
def asText (bytes : List UInt8) : List Char := bytes.map Char.ofUInt8

/-- The lines up to the empty one, and what follows that. -/
def lines? (bytes : List UInt8) : Option (List (List Char) × List UInt8) :=
  match _h : line? bytes with
  | none => none
  | some ([], rest) => some ([], rest)
  | some (line, rest) => (lines? rest).map fun p => (asText line :: p.1, p.2)
termination_by bytes.length
decreasing_by exact length_line? _h

theorem length_lines? {bytes rest : List UInt8} {lines : List (List Char)}
    (h : lines? bytes = some (lines, rest)) : rest.length < bytes.length := by
  fun_induction lines? bytes generalizing lines with
  | case1 => cases h
  | case2 _ _ hline =>
    cases h
    exact length_line? hline
  | case3 _ _ _ _ hline ih =>
    obtain ⟨p, hp, hpair⟩ := Option.map_eq_some_iff.mp h
    cases hpair
    exact Nat.lt_trans (ih hp) (length_line? hline)

/-! ## Heads -/

structure Head where
  /-- Whether it is written in the older one of two versions. -/
  isOld : Bool
  status : Nat
  /-- Names in small letters, with their values. -/
  fields : List (String × List Char)
deriving DecidableEq, Repr

def isGap (c : Char) : Bool := c == ' ' || c == '\t'

def trimGaps (cs : List Char) : List Char := Text.dropTrailing isGap (cs.dropWhile isGap)

def isInValue (c : Char) : Bool := c == '\t' || (' ' ≤ c && c ≠ '\x7F')

def isInName (c : Char) : Bool := c.isAlphanum || "!#$%&'*+-.^_`|~".toList.contains c

/-- Whether the version is the older one, and the rest of the line. -/
def version? (line : List Char) : Option (Bool × List Char) :=
  let old := "HTTP/1.0 ".toList
  let new := "HTTP/1.1 ".toList
  if new.isPrefixOf line then some (false, line.drop new.length)
  else if old.isPrefixOf line then some (true, line.drop old.length)
  else none

/-- A status has three digits. Some words may follow behind a space. -/
def statusLine? (line : List Char) : Option (Bool × Nat) := do
  let (isOld, rest) ← version? line
  let status ← Text.natural? (rest.take 3)
  guard (100 ≤ status ∧ (rest.length = 3 ∨ rest[3]? = some ' ') ∧ rest.all isInValue)
  return (isOld, status)

def field? (line : List Char) : Option (String × List Char) := do
  let (name, value) := Text.cut (· == ':') line
  let value ← value
  guard (!name.isEmpty ∧ name.all isInName ∧ value.all isInValue)
  return (String.ofList (name.map Char.toLower), trimGaps value)

def fieldLimit : Nat := 100

def Head.ofLines? : List (List Char) → Option Head
  | [] => none
  | first :: lines => do
    let (isOld, status) ← statusLine? first
    let fields ← lines.mapM field?
    guard (fields.length ≤ fieldLimit)
    return { isOld, status, fields }

/-- The head at the start of some bytes, and what follows it. -/
def Head.cut? (bytes : List UInt8) : Option (Head × List UInt8) :=
  match lines? (dropEmptyLines bytes) with
  | none => none
  | some (lines, rest) => (Head.ofLines? lines).map (·, rest)

theorem Head.length_cut? {bytes rest : List UInt8} {head : Head}
    (h : Head.cut? bytes = some (head, rest)) : rest.length < bytes.length := by
  unfold Head.cut? at h
  split at h
  · cases h
  · next lines rest' hlines =>
    obtain ⟨head', _, hpair⟩ := Option.map_eq_some_iff.mp h
    cases hpair
    exact Nat.lt_of_lt_of_le (length_lines? hlines) (length_dropEmptyLines bytes)

def Head.values (head : Head) (name : String) : List (List Char) :=
  (head.fields.filter (·.1 = name)).map (·.2)

/-- The first place that a head names, if it is text. -/
def Head.location? (head : Head) : Option String := do
  let value ← (head.values "location").head?
  String.fromUTF8? ⟨(value.map Char.toUInt8).toArray⟩

/-! ## Bodies -/

inductive Framing where
  | empty
  /-- It comes in pieces, each behind its length. The last piece is empty. -/
  | pieces
  | bytes (length : Nat)
  /-- It goes on until the connection ends. -/
  | untilEnd
deriving DecidableEq, Repr

/-- Answers with these statuses end with their head, whatever follows it. -/
def bodilessStatuses : List Nat := [101, 204, 304]

def agreedLength? (announced : List (List Char)) : Option Nat := do
  match ← (announced.flatMap (Text.pieces (· == ','))).mapM (Text.natural? <| trimGaps ·) with
  | [] => none
  | n :: ns =>
    guard (ns.all (· = n) ∧ n < UInt64.size - 2)
    return n

/-- The last coding that was applied to a body. -/
def lastCoding (value : List Char) : String :=
  String.ofList ((trimGaps ((Text.pieces (· == ',') value).getLastD [])).map Char.toLower)

def Head.framing? (head : Head) : Option Framing :=
  if head.status ∈ bodilessStatuses then some .empty
  else
    match (head.values "transfer-encoding").getLast?, head.values "content-length" with
    | some value, _ =>
      if head.isOld then none
      else if lastCoding value = "chunked" then some .pieces
      else some .untilEnd
    | none, [] => some .untilEnd
    | none, announced => (agreedLength? announced).map .bytes

def leadingDigits : List UInt8 → List Nat
  | [] => []
  | b :: bs =>
    match Hex.digitValue? (Char.ofUInt8 b) with
    | none => []
    | some d => d :: leadingDigits bs

/-- What is left of a line behind a length. Blanks, and a semicolon with what it brings, go for
nothing. -/
def dropExtension (bytes : List UInt8) : List UInt8 :=
  let rest := bytes.dropWhile fun b => isGap (Char.ofUInt8 b)
  if rest.head? = some 0x3B then rest.dropWhile fun b => b ≠ 0x0D && b ≠ 0x0A else rest

theorem length_dropExtension (bytes : List UInt8) :
    (dropExtension bytes).length ≤ bytes.length := by
  unfold dropExtension
  dsimp only
  split
  · exact Nat.le_trans (List.dropWhile_suffix _).length_le (List.dropWhile_suffix _).length_le
  · exact (List.dropWhile_suffix _).length_le

/-- The length of a piece, and what follows the line that tells it. -/
def pieceLength? (bytes : List UInt8) : Option (Nat × List UInt8) :=
  let digits := leadingDigits bytes
  let length := digits.foldl (16 * · + ·) 0
  if digits.isEmpty ∨ UInt64.size ≤ length then none
  else
    match dropExtension (bytes.drop digits.length) with
    | 0x0D :: 0x0A :: rest => some (length, rest)
    | _ => none

theorem length_pieceLength? {bytes rest : List UInt8} {n : Nat}
    (h : pieceLength? bytes = some (n, rest)) : rest.length < bytes.length := by
  unfold pieceLength? at h
  dsimp only at h
  split at h
  · cases h
  · split at h
    · next hrest =>
      cases h
      have hle := length_dropExtension (bytes.drop (leadingDigits bytes).length)
      rw [hrest] at hle
      simp only [List.length_cons, List.length_drop] at hle
      omega
    · cases h

/-- What may stand behind the last piece: more fields, and an empty line. -/
def isTrailer (bytes : List UInt8) : Bool :=
  (lines? bytes).any fun p => p.1.all fun line => (field? line).isSome

def joinPieces (bytes : List UInt8) : Option (List UInt8) :=
  match _h : pieceLength? bytes with
  | none => none
  | some (0, rest) => if isTrailer rest then some [] else none
  | some (n, rest) =>
    match _hmore : rest.drop n with
    | 0x0D :: 0x0A :: more => (joinPieces more).map (rest.take n ++ ·)
    | _ => none
termination_by bytes.length
decreasing_by
  have hrest := length_pieceLength? _h
  have hdrop := congrArg List.length _hmore
  simp only [List.length_cons, List.length_drop] at hdrop
  omega

def Framing.body (framing : Framing) (bytes : List UInt8) : Body :=
  let found :=
    match framing with
    | .empty => some []
    | .pieces => joinPieces bytes
    | .bytes n => if bytes.length < n then none else some (bytes.take n)
    | .untilEnd => some bytes
  found.elim .short fun bytes => .whole ⟨bytes.toArray⟩

/-! ## Answers -/

/-- Whether an answer only announces another one. -/
def Head.isInterim (head : Head) : Bool := head.status < 200 && head.status != 101

def Outcome.ofList (bytes : List UInt8) : Outcome :=
  match _h : Head.cut? bytes with
  | none => .noAnswer
  | some (head, rest) =>
    if head.isInterim then ofList rest
    else
      (head.framing?).elim .noAnswer fun framing =>
        .answered head.status (framing.body rest) head.location?
termination_by bytes.length
decreasing_by exact Head.length_cut? _h

def Outcome.ofBytes (bytes : ByteArray) : Outcome := .ofList bytes.data.toList

end UtxoWallet.Node
