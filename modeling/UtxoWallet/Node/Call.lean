import UtxoWallet.Ledger.Transaction
import UtxoWallet.Node.Error

/-! # What a node can be asked -/

namespace UtxoWallet.Node

open Ledger

inductive Call where
  /-- All unspent outputs, of every owner. -/
  | unspent
  /-- A block whose reward goes to an address. -/
  | block (rewardAddress : String)
  | submit (tx : Transaction)
deriving DecidableEq, Repr

namespace Call

abbrev Result : Call → Type
  | .unspent => List Unspent
  | .block _ => Unit
  | .submit _ => Unit

abbrev Answer (call : Call) : Type := Except Error call.Result

def endpoint : Call → String
  | .unspent => "/transactions/unspent"
  | .block _ => "/blocks"
  | .submit _ => "/transactions"

end Call

structure Config where
  url : String
  /-- How many milliseconds an answer may take. Without a limit it may take for ever. -/
  timeout : Option Nat := none
deriving DecidableEq, Repr

def Config.ofAddress (node : String) : Except Error Config :=
  (normalUrl node).map (fun url => { url }) |>.mapError .invalidUrl

/-- The same configuration, with its URL in the normal form. -/
def Config.normal (config : Config) : Except Error Config :=
  (normalUrl config.url).map (fun url => { config with url }) |>.mapError .invalidUrl

end UtxoWallet.Node
