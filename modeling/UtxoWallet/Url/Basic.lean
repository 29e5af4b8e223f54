import UtxoWallet.Url.Host

/-! # URLs -/

namespace UtxoWallet

namespace Url

structure Authority where
  /-- In percent form, as the password is. -/
  username : String := ""
  password : Option String := none
  host : Option Host
  portNumber : Option UInt16 := none
deriving DecidableEq, Repr

end Url

/-- A URL in its normal form. The texts in it are in percent form. -/
structure Url where
  /-- In small letters. -/
  scheme : String
  authority : Option Url.Authority
  path : String
  query : Option String := none
  fragment : Option String := none
deriving DecidableEq, Repr

namespace Url

namespace Authority

def hasCredentials (a : Authority) : Bool := a.username ≠ "" || a.password.isSome

def credentialsText (a : Authority) : String :=
  if a.hasCredentials then a.username ++ a.password.elim "" (":" ++ ·) ++ "@" else ""

def text (a : Authority) : String :=
  a.credentialsText ++ a.host.elim "" Host.text ++ a.portNumber.elim "" fun n => s!":{n}"

end Authority

/-- A path must not look like an authority. -/
def pathText (url : Url) : String :=
  if url.authority.isNone && url.path.startsWith "//" then "/." ++ url.path else url.path

def target (url : Url) : String := url.pathText ++ url.query.elim "" ("?" ++ ·)

def text (url : Url) : String :=
  url.scheme ++ ":" ++ url.authority.elim "" (fun a => "//" ++ a.text) ++ url.target ++
    url.fragment.elim "" ("#" ++ ·)

def host? (url : Url) : Option Host := url.authority.bind (·.host)

/-! ## Schemes -/

/-- The schemes of hosts on a network, each with its usual number. -/
def usualPorts : List (String × UInt16) :=
  [("http", 80), ("https", 443), ("ws", 80), ("wss", 443), ("ftp", 21)]

def usualPort? (scheme : String) : Option UInt16 := usualPorts.lookup scheme

/-- The number at which a host listens, be it named or not. -/
def portNumber? (url : Url) : Option UInt16 :=
  (url.authority.bind (·.portNumber)).or (usualPort? url.scheme)

end Url

end UtxoWallet
