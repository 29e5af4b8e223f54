import UtxoWallet.Node.Request

/-! # Requests as bytes

One exchange over a connection that is closed afterwards.
-/

namespace UtxoWallet.Node

structure Peer where
  host : Url.Host
  portNumber : UInt16
deriving DecidableEq, Repr

/-- Only the plain scheme is spoken. -/
def Peer.ofUrl? (url : Url) : Option Peer := do
  guard (url.scheme = "http")
  return ⟨← url.host?, ← url.portNumber?⟩

/-- How a host is looked up, without the brackets of an address. -/
def Peer.lookupName (peer : Peer) : String :=
  match peer.host with
  | .ipv6 address => address.text
  | host => host.text

/-- The host as a request names it, with its number where that is not the usual one. -/
def hostHeader (url : Url) : String :=
  (url.authority.map fun a => { a with username := "", password := none }.text).getD ""

def Request.headLines (r : Request) : List String :=
  [s!"{r.method.name} {r.url.target} HTTP/1.1"] ++
  (r.contentType.map ("content-type: " ++ ·)).toList ++
  (r.credentials.map ("authorization: " ++ ·.header)).toList ++
  (r.referrer.map ("referer: " ++ ·)).toList ++
  ["accept: */*", s!"host: {hostHeader r.url}", "connection: close"] ++
  (r.body.map fun body => s!"content-length: {body.utf8ByteSize}").toList

def Request.message (r : Request) : ByteArray :=
  (String.join (r.headLines.map (· ++ "\r\n")) ++ "\r\n" ++ r.body.getD "").toUTF8

end UtxoWallet.Node
