import UtxoWallet.Ledger.Wire
import UtxoWallet.Node.Answer
import UtxoWallet.Node.Call
import UtxoWallet.Node.Request

/-! # Calls over HTTP

Each call is one request, and more where answers lead to other places. The answer that counts is the
last one. Below four hundred it is a success, and only the unspent outputs are read from it.
-/

namespace UtxoWallet.Node

open Ledger

/-- How many characters of an error's body are kept. -/
def errorBodyLimit : Nat := 500

/-- The start of a body. One that cannot be read counts as empty. -/
def Body.excerpt (body : Body) : String :=
  String.ofList ((body.text?.getD "").toList.take errorBodyLimit)

/-! ## Exchanges -/

/-- How it goes on after a request. -/
inductive Turn where
  | ends (result : Except Breach (Nat × Body))
  /-- It leads to another place. -/
  | leads (status : Nat) (url : Url)

/-- What one request comes to, when `first` was asked first. -/
def Request.turn (first : Url) (r : Request) : Outcome → Turn
  | .noAnswer => .ends (.error (.noAnswer first.text))
  | .answered status body location =>
    match r.place? status location with
    | none => .ends (.ok (status, body))
    | some url => .leads status url

/-- How many answers may lead on. -/
def redirectLimit : Nat := 10

/-- Makes a request and those that its answers lead to, up to an answer that leads nowhere. A failure
names the URL that was asked first. -/
def follow {m : Type → Type} [Monad m] (transport : Request → m Outcome) (first : Url) :
    (left : Nat) → Request → m (Except Breach (Nat × Body))
  | 0, r => do
    match r.turn first (← transport r) with
    | .ends result => return result
    | .leads _ _ => return .error (.tooManyRedirects first.text)
  | left + 1, r => do
    match r.turn first (← transport r) with
    | .ends result => return result
    | .leads status url =>
      if isSpoken url then follow transport first left (r.redirected status url)
      else return .error (.unusable first.text)

/-! ## Calls -/

namespace Call

def url (base : String) (call : Call) : String := base ++ call.endpoint

def method : Call → Method
  | .unspent => .get
  | .block _ => .post
  | .submit _ => .post

def body? : Call → Option String
  | .unspent => none
  | .block address => some (String.ofList (Json.Written.text address))
  | .submit tx => some tx.toJson

def request (base : String) (call : Call) : Except Breach Request :=
  Request.ofText call.method (call.url base) call.body?

def failure (base : String) (call : Call) (breach : Breach) : Error :=
  .http call.endpoint (call.url base) breach

def success (base : String) (call : Call) : Except Breach (Nat × Body) → Except Error Body
  | .error breach => .error (call.failure base breach)
  | .ok (status, body) =>
    if 400 ≤ status then .error (.status call.endpoint (call.url base) status body.excerpt)
    else .ok body

def readUnspent (base : String) (body : Body) : Except Error (List Unspent) :=
  match body.text? with
  | none => .error (unspent.failure base .shortBody)
  | some text => (Unspent.listOfJson text).mapError .json

def answer (base : String) (result : Except Breach (Nat × Body)) : (call : Call) → call.Answer
  | .unspent => do readUnspent base (← success base .unspent result)
  | .block address => (success base (.block address) result).map fun _ => ()
  | .submit tx => (success base (.submit tx) result).map fun _ => ()

/-- Makes a call, with something that brings requests to the node. -/
def exchange {m : Type → Type} [Monad m] (transport : Request → m Outcome) (base : String)
    (call : Call) : m call.Answer :=
  match call.request base with
  | .error breach => pure (.error (call.failure base breach))
  | .ok request => do return call.answer base (← follow transport request.url redirectLimit request)

end Call

end UtxoWallet.Node
