import UtxoWallet.Json.Reader
import UtxoWallet.Node.Url

/-! # Why a node cannot be asked or does not help -/

namespace UtxoWallet.Node

/-- How an exchange does not come about, or breaks off. -/
inductive Breach where
  | noUrl
  /-- Nothing can be sent to this URL, or to one that it leads to. -/
  | unusable (url : String)
  | noAnswer (url : String)
  | tooManyRedirects (url : String)
  | shortBody
deriving DecidableEq, Repr

inductive Error where
  /-- The URL is the one that was called, as it was given. -/
  | http (endpoint url : String) (breach : Breach)
  | status (endpoint url : String) (code : Nat) (body : String)
  | json (fault : Json.Fault)
  | invalidUrl (fault : UrlFault)
deriving DecidableEq, Repr

def Breach.message : Breach → String
  | .noUrl => "builder error"
  | .unusable url => s!"builder error for url ({url})"
  | .noAnswer url => s!"error sending request for url ({url})"
  | .tooManyRedirects url => s!"error following redirect for url ({url})"
  | .shortBody => "error decoding response body"

def jsonMessage : Json.Fault → String
  | .endOfText => "the text ends inside a value"
  | .mismatch => "a value is not of the expected shape"
  | .malformed => "the text is malformed"

def Error.message : Error → String
  | .http endpoint url breach => s!"HTTP error calling {endpoint} at {url}: {breach.message}"
  | .status endpoint url code body => s!"{endpoint} at {url} returned HTTP {code}: {body}"
  | .json fault => s!"JSON error: {jsonMessage fault}"
  | .invalidUrl fault => s!"invalid node URL: {fault.message}"

end UtxoWallet.Node
