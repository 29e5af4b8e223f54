import UtxoWallet.Text.Blank
import UtxoWallet.Text.Decimal
import UtxoWallet.Url.Basic
import UtxoWallet.Url.Path

/-! # Reading URLs

A text is read leniently where it is clear what is meant: backslashes go for slashes, and a missing
or a third slash before a host is forgiven.
-/

namespace UtxoWallet.Url

/-! ## Schemes -/

def cutScheme? (cs : List Char) : Option (String × List Char) :=
  match Text.cut (· == ':') cs with
  | (_, none) => none
  | (name, some rest) =>
    if name.head?.any Char.isAlpha && name.all (fun c => c.isAlphanum || "+-.".toList.contains c)
    then some (String.ofList (name.map Char.toLower), rest)
    else none

/-! ## Authorities -/

/-- What stands before the last at sign, if there is one, and what follows it. -/
def cutCredentials (cs : List Char) : Option (List Char) × List Char :=
  match Text.cut (· == '@') cs.reverse with
  | (_, none) => (none, cs)
  | (place, some credentials) => (some credentials.reverse, place.reverse)

/-- The host, and what follows the first colon that is not in brackets. -/
def cutPort (inBrackets : Bool) : List Char → List Char × Option (List Char)
  | [] => ([], none)
  | c :: cs =>
    if c = ':' ∧ !inBrackets then ([], some cs)
    else
      let inBrackets := c == '[' || (inBrackets && c != ']')
      (c :: (cutPort inBrackets cs).1, (cutPort inBrackets cs).2)

/-- The number after a host, unless it is the usual one. No digits are no number. -/
def readPort (usual : Option UInt16) (digits : List Char) : Option (Option UInt16) :=
  if digits.isEmpty then some none
  else do
    let n ← Text.natural? digits
    guard (n < UInt16.size)
    return if usual = some (UInt16.ofNat n) then none else some (UInt16.ofNat n)

/-- Only hosts on a network must be there. -/
def readHost (isNetwork : Bool) (cs : List Char) : Option (Option Host) :=
  if isNetwork then (Host.ofText? cs).map some
  else if cs.isEmpty then some none
  else (Host.ofOpaque? cs).map some

/-- Without a host there are no credentials and no number. -/
def readAuthority (usual : Option UInt16) (cs : List Char) : Option Authority := do
  let (credentials, place) := cutCredentials cs
  guard (credentials = none ∨ !place.isEmpty)
  let (username, password) := Text.cut (· == ':') (credentials.getD [])
  let (name, digits) := cutPort false place
  let authority : Authority := {
    username := String.ofList (Percent.encode Percent.inCredentials username)
    password := (password.filter (!·.isEmpty)).map fun cs =>
      String.ofList (Percent.encode Percent.inCredentials cs)
    host := ← readHost usual.isSome name
    portNumber := ← readPort usual (digits.getD []) }
  guard (authority.host.isSome ∨ (digits = none ∧ !authority.hasCredentials))
  return authority

/-! ## Behind the scheme -/

def isSlash (c : Char) : Bool := c == '/'

def isEitherSlash (c : Char) : Bool := c == '/' || c == '\\'

/-- A host on a network, behind any number of slashes, and a path from its root. -/
def readNetwork (usual : UInt16) (cs : List Char) : Option (Option Authority × String) := do
  let cs := cs.dropWhile isEitherSlash
  let authority ← readAuthority (some usual) (cs.takeWhile (!isEitherSlash ·))
  let path := (cs.dropWhile (!isEitherSlash ·)).drop 1
  return (some authority, Path.text (Path.segments isEitherSlash path))

/-- Files on this host, which needs no name. -/
def readFileHost (cs : List Char) : Option (Option Host) :=
  if cs.isEmpty then some none
  else (Host.ofText? cs).map fun host => if host = .domain "localhost" then none else some host

/-- A path to a file starts with one slash only. -/
def filePath (cs : List Char) : String :=
  match (Path.segments isEitherSlash cs).dropWhile List.isEmpty with
  | [] => "/"
  | segments => Path.text segments

def readFile (cs : List Char) : Option (Option Authority × String) :=
  match cs with
  | a :: b :: rest =>
    if isEitherSlash a && isEitherSlash b then do
      let name := rest.takeWhile (!isEitherSlash ·)
      if Path.isDrive name then return (some { host := none }, filePath rest)
      let host ← readFileHost name
      return (some { host }, filePath ((rest.dropWhile (!isEitherSlash ·)).drop 1))
    else some (some { host := none }, filePath cs)
  | _ => some (some { host := none }, filePath cs)

def readOther : List Char → Option (Option Authority × String)
  | '/' :: '/' :: cs => do
    let authority ← readAuthority none (cs.takeWhile (!isSlash ·))
    match cs.dropWhile (!isSlash ·) with
    | [] => return (some authority, "")
    | _ :: path => return (some authority, Path.text (Path.segments isSlash path))
  | '/' :: path => some (none, Path.text (Path.segments isSlash path))
  | path => some (none, String.ofList (Percent.encode [] path))

def readHierarchy (scheme : String) (cs : List Char) : Option (Option Authority × String) :=
  match usualPort? scheme with
  | some usual => readNetwork usual cs
  | none => if scheme = "file" then readFile cs else readOther cs

/-! ## URLs -/

/-- Controls and spaces at the ends, and tabs and line ends anywhere, go for nothing. -/
def clean (cs : List Char) : List Char :=
  (Text.dropTrailing (· ≤ ' ') (cs.dropWhile (· ≤ ' '))).filter
    fun c => c ≠ '\t' && c ≠ '\n' && c ≠ '\r'

def reservedInQuery (scheme : String) : List Char :=
  if (usualPort? scheme).isSome || scheme = "file" then '\'' :: Percent.inQuery
  else Percent.inQuery

/-- A place, with what follows a question mark and what follows a number sign. -/
def assemble (scheme : String) (place : Option Authority × String)
    (query fragment : Option (List Char)) : Url where
  scheme
  authority := place.1
  path := place.2
  query := query.map fun cs => String.ofList (Percent.encode (reservedInQuery scheme) cs)
  fragment := fragment.map fun cs => String.ofList (Percent.encode Percent.inFragment cs)

def ofText? (text : String) : Option Url := do
  let (cs, fragment) := Text.cut (· == '#') (clean text.toList)
  let (cs, query) := Text.cut (· == '?') cs
  let (scheme, rest) ← cutScheme? cs
  let place ← readHierarchy scheme rest
  return assemble scheme place query fragment

/-! ## References

A reference names a place in full, or as it is seen from another place.
-/

def inReference : List Char := "-._~:/?#[]@!$&'()*+,;=".toList

/-- Whether a text has nothing in it that a reference may not have. -/
def isReference : List Char → Bool
  | [] => true
  | '%' :: a :: b :: cs =>
    (Hex.digitValue? a).isSome && (Hex.digitValue? b).isSome && isReference cs
  | c :: cs => (c.isAlphanum || inReference.contains c) && isReference cs

/-- The host and the path that are seen from a place on a network. -/
def readFrom (base : Url) (usual : UInt16) : List Char → Option (Option Authority × String)
  | [] => some (base.authority, base.path)
  | '/' :: '/' :: cs => readNetwork usual cs
  | '/' :: cs => some (base.authority, Path.text (Path.segments isSlash cs))
  | cs =>
    let directory := (Text.pieces isSlash (base.path.toList.drop 1)).dropLast
    some (base.authority, Path.text (Path.segmentsFrom directory isSlash cs))

/-- What a reference names, as it is seen from a place on a network. A reference to nothing is to the
place itself, its query included. -/
def join? (base : Url) (text : String) : Option Url := do
  let usual ← usualPort? base.scheme
  guard (isReference text.toList)
  let (cs, fragment) := Text.cut (· == '#') text.toList
  let (cs, query) := Text.cut (· == '?') cs
  match cutScheme? cs with
  | some (_, rest) =>
    guard ("//".toList.isPrefixOf rest)
    ofText? text
  | none =>
    let place ← readFrom base usual cs
    let query := query.or (if cs.isEmpty then base.query.map (·.toList) else none)
    return assemble base.scheme place query fragment

end UtxoWallet.Url
