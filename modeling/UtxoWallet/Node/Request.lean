import UtxoWallet.Bytes.Base64
import UtxoWallet.Node.Error
import UtxoWallet.Url.Reading

/-! # Requests -/

namespace UtxoWallet.Node

inductive Method where
  | get
  | post
deriving DecidableEq, Repr

def Method.name : Method → String
  | .get => "GET"
  | .post => "POST"

/-! ## Credentials -/

structure Credentials where
  name : String
  password : Option String
deriving DecidableEq, Repr

/-- Whose credentials a URL carries. Those that are no text stay in the URL. -/
def Credentials.ofUrl? (url : Url) : Option Credentials := do
  let authority ← url.authority
  let name ← Url.Percent.decodeText? authority.username.toList
  let password := authority.password.bind fun text => Url.Percent.decodeText? text.toList
  guard (name ≠ "" ∨ password.isSome)
  return ⟨name, password⟩

def withoutCredentials (url : Url) : Url :=
  { url with authority := url.authority.map fun a => { a with username := "", password := none } }

def Credentials.header (c : Credentials) : String :=
  let text := c.name ++ ":" ++ c.password.getD ""
  "Basic " ++ String.ofList (Base64.encodePadded text.toUTF8.data.toList)

/-! ## URLs that can be asked for -/

def schemes : List String := ["http", "https"]

def urlLimit : Nat := 65534

/-- Whether a host fits into a request. -/
def isSendable (host : Url.Host) : Bool := !host.text.toList.any ("\"`\x7b\x7d".toList.contains ·)

/-- Whether a URL fits into a request, be its scheme spoken or not. -/
def fits (url : Url) : Bool := url.host?.any isSendable && url.text.utf8ByteSize ≤ urlLimit

def isSpoken (url : Url) : Bool := schemes.contains url.scheme

def canBeSent (url : Url) : Bool := isSpoken url && fits url

/-! ## Requests -/

structure Request where
  method : Method
  url : Url
  credentials : Option Credentials
  body : Option String
  /-- The URL whose answer led here. -/
  referrer : Option String := none
deriving DecidableEq, Repr

namespace Request

def contentType (r : Request) : Option String := r.body.map fun _ => "application/json"

def ofText (method : Method) (text : String) (body : Option String) : Except Breach Request :=
  match Url.ofText? text with
  | none => .error .noUrl
  | some url =>
    let credentials := Credentials.ofUrl? url
    let url := if credentials.isSome then withoutCredentials url else url
    if canBeSent url then .ok { method, url, credentials, body } else .error (.unusable url.text)

/-! ## Redirects

An answer with one of these statuses and a place leads there.
-/

/-- A question that is put elsewhere after one of these is put as it was. -/
def repeatStatuses : List Nat := [307, 308]

def redirectStatuses : List Nat := [301, 302, 303] ++ repeatStatuses

/-- Where an answer to this request leads. An answer that leads nowhere is final. -/
def place? (r : Request) (status : Nat) (location : Option String) : Option Url := do
  guard (status ∈ redirectStatuses)
  let url ← r.url.join? (← location)
  guard (fits url)
  return url

/-- What is told to another host of this URL. A plain host is told nothing of an encrypted one. -/
def referrerTo (url next : Url) : Option String :=
  if url.scheme = "https" ∧ next.scheme = "http" then none
  else some { withoutCredentials url with fragment := none }.text

/-- The request that follows an answer. Most answers lead to a question without a body, and only the
same host is told the credentials again. -/
def redirected (r : Request) (status : Nat) (url : Url) : Request where
  method := if status ∈ repeatStatuses then r.method else .get
  url
  credentials :=
    if url.host? = r.url.host? ∧ url.portNumber? = r.url.portNumber? then r.credentials else none
  body := if status ∈ repeatStatuses then r.body else none
  referrer := referrerTo r.url url

end Request

end UtxoWallet.Node
