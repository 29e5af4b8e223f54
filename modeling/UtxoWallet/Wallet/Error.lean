import UtxoWallet.Files.Fault
import UtxoWallet.Key.Fault
import UtxoWallet.Ledger.Address
import UtxoWallet.Ledger.Error
import UtxoWallet.Node.Error

/-! # Why a wallet cannot do what it is asked to -/

namespace UtxoWallet.Wallet

inductive ConfigFault where
  /-- No node is known. The hint tells where to name one. -/
  | noNode (hint : String)
  | node (error : Node.Error)
deriving DecidableEq, Repr

inductive Error where
  /-- A line of the record file that is no record, counted from one. -/
  | malformedRecord (line : Nat) (content : String)
  | duplicateWallet (name : String)
  | walletNotFound (name : String)
  | invalidName (name : String)
  | invalidKeyRef (keyRef : String)
  | invalidAddress (fault : Address.Fault)
  | insufficientFunds (need available : UInt64)
  | invalidAmount
  | keyDecode (fault : Key.Fault)
  | keyEncode (reason : String)
  /-- The key file holds the key of another address. -/
  | keyMismatch (name : String)
  | network (error : Node.Error)
  | transaction (error : Ledger.Error)
  | config (fault : ConfigFault)
  | io (fault : Files.Fault)
deriving DecidableEq, Repr

def ConfigFault.message : ConfigFault → String
  | .noNode hint => s!"no node configured ({hint})"
  | .node error => error.message

namespace Error

def message : Error → String
  | malformedRecord line content => s!"malformed wallet record on line {line}: '{content}'"
  | duplicateWallet name => s!"wallet '{name}' already exists"
  | walletNotFound name => s!"wallet '{name}' does not exist"
  | invalidName name => s!"invalid wallet name '{name}' (letters and digits only)"
  | invalidKeyRef keyRef => s!"invalid key reference '{keyRef}'"
  | invalidAddress fault => s!"invalid address: {fault.message}"
  | insufficientFunds need available => s!"insufficient funds: need {need}, have {available}"
  | invalidAmount => "amount must be positive"
  | keyDecode fault => s!"failed to decode private key: {fault.message}"
  | keyEncode reason => s!"failed to encode key: {reason}"
  | keyMismatch name => s!"private key of wallet '{name}' does not match its address"
  | network error => s!"network error: {error.message}"
  | transaction error => s!"transaction error: {error.message}"
  | config fault => s!"configuration error: {fault.message}"
  | io fault => s!"I/O error: {fault.message}"

/-- What is wrong with a transaction, as the wallet tells it. Missing funds and bad amounts are the
wallet's own errors. -/
def ofLedger : Ledger.Error → Error
  | .insufficientFunds need available => insufficientFunds need available
  | .invalidAmount => invalidAmount
  | error => transaction error

end Error

end UtxoWallet.Wallet
