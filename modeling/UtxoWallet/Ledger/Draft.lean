import UtxoWallet.Ledger.Preimage
import UtxoWallet.Ledger.Selection

/-! # Drafts

A draft gathers inputs and outputs. A finished one is a transaction with its hash.
-/

namespace UtxoWallet.Ledger

structure Draft where
  inputs : List Input := []
  outputs : List Output := []
deriving DecidableEq, Repr

/-- The index of every new transaction, since nobody tells which one is next. -/
def firstIndex : UInt64 := 0

namespace Draft

/-! ## Gathering -/

/-- Any signature that the input has is kept. -/
def addInput (d : Draft) (i : Input) : Draft := { d with inputs := d.inputs ++ [i] }

def addInputs (d : Draft) (is : List Input) : Draft := { d with inputs := d.inputs ++ is }

def addOutput (d : Draft) (o : Output) : Draft := { d with outputs := d.outputs ++ [o] }

/-! ## Finishing -/

/-- The transaction before its hash is known. -/
def unhashed (d : Draft) : Transaction where
  kind := .standard
  index := firstIndex
  hash := ""
  inputs := d.inputs
  outputs := d.outputs

def build (d : Draft) : Except Error Transaction :=
  if d.inputs.isEmpty then .error .noInputs
  else if d.outputs.isEmpty then .error .noOutputs
  else if d.outputs.any (·.amount == 0) then .error .invalidAmount
  else if d.unhashed.outputTotal.isNone then .error .amountOverflow
  else .ok { d.unhashed with hash := d.unhashed.computedHash }

/-! ## Transfers -/

/-- Pays the recipient first, and the rest back if there is any. -/
def ofSelection (s : Selection) (amount : UInt64) (recipient changeAddress : String) : Draft :=
  let paid := (({} : Draft).addInputs s.inputs).addOutput ⟨amount, recipient⟩
  if s.change amount = 0 then paid else paid.addOutput ⟨s.change amount, changeAddress⟩

end Draft

def Transaction.transfer (unspent : List Unspent) (amount : UInt64)
    (recipient changeAddress : String) : Except Error Transaction := do
  let selection ← Selection.firstFit unspent amount
  (Draft.ofSelection selection amount recipient changeAddress).build

end UtxoWallet.Ledger
