import UtxoWallet.Ledger.Draft
import UtxoWallet.Ledger.Signing
import UtxoWallet.Node.Call
import UtxoWallet.Wallet.Keystore

/-! # Wallets and a node -/

namespace UtxoWallet.Wallet

open Ledger

/-! ## Where the wallets are and which node to ask -/

structure Config where
  directory : String
  node : Option Node.Config := none
deriving DecidableEq, Repr

namespace Config

def withNode (config : Config) (node : String) : Except Error Config :=
  match Node.Config.ofAddress node with
  | .ok node => .ok { config with node := some node }
  | .error error => .error (.config (.node error))

def nodeOr (config : Config) (hint : String) : Except Error Node.Config :=
  config.node.elim (.error (.config (.noNode hint))) .ok

def ensureDirectory (config : Config) : Attempt Unit :=
  Attempt.file (.makeDirectories config.directory)

/-- The wallets in the directory, with key files as they are. -/
def keystore (config : Config) : Keystore := ⟨⟨config.directory⟩, .plain⟩

end Config

/-! ## Clients -/

structure Client where
  keystore : Keystore
  node : String

namespace Client

variable (c : Client)

/-! ## Funds -/

def owned (w : Wallet) (unspent : List Unspent) : List Unspent :=
  unspent.filter (·.isOwnedBy w.address)

def unspentOutputs (w : Wallet) : Attempt (List Unspent) := do
  return owned w (← Attempt.node c.node .unspent)

def totalOf (unspent : List Unspent) : Except Error UInt64 :=
  (total? 0 (unspent.map (·.amount))).elim (.error (.transaction .amountOverflow)) .ok

def balance (name : String) : Attempt UInt64 := do
  let w ← c.keystore.wallet name
  let unspent ← c.unspentOutputs w
  Attempt.ofExcept id (totalOf unspent)

def mineInto (name : String) : Attempt Unit := do
  let w ← c.keystore.wallet name
  Attempt.node c.node (.block w.address)

/-! ## Transfers -/

/-- A signed transfer that nobody has seen yet. -/
def prepareTransfer (sender recipient : String) (amount : UInt64) : Attempt Transaction := do
  let w ← c.keystore.wallet sender
  if amount = 0 then throw .invalidAmount
  Attempt.ofExcept .invalidAddress (Address.check recipient)
  let unspent ← c.unspentOutputs w
  let tx ← Attempt.ofExcept .ofLedger (Transaction.transfer unspent amount recipient w.address)
  let secret ← c.keystore.loadKey w
  Attempt.ofExcept .ofLedger (tx.sign secret)

/-- Hands a transfer to the node, and tells what was handed over. -/
def transfer (sender recipient : String) (amount : UInt64) : Attempt Transaction := do
  let tx ← c.prepareTransfer sender recipient amount
  Attempt.node c.node (.submit tx)
  return tx

end Client

end UtxoWallet.Wallet
