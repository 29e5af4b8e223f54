import UtxoWallet.Json.Record
import UtxoWallet.Json.Writing
import UtxoWallet.Ledger.Transaction

/-! # Transactions as JSON

How a node spells transactions and their parts. An input may leave out its signature, and nothing
else may be left out.
-/

namespace UtxoWallet.Ledger

open Json

/-! ## Outputs -/

/-- What is known of an output while it is read. -/
structure OutputDraft where
  amount : Option UInt64 := none
  address : Option String := none

namespace Output

def format : Format OutputDraft Output where
  draft := {}
  members :=
    [{ name := "amount"
       isGiven := (·.amount.isSome)
       value := fun d => do return { d with amount := some (← Reader.natural) } },
     { name := "address"
       isGiven := (·.address.isSome)
       value := fun d => do return { d with address := some (← Reader.text) } }]
  finish d := do return ⟨← d.amount, ← d.address⟩

def written (o : Output) : List Char :=
  Written.object [("amount", Text.decimal o.amount), ("address", Written.text o.address)]

end Output

/-! ## Unspent outputs -/

structure UnspentDraft where
  outputHash : Option String := none
  outputIndex : Option UInt64 := none
  output : Option Output := none

namespace Unspent

def format : Format UnspentDraft Unspent where
  draft := {}
  members :=
    [{ name := "output_hash"
       isGiven := (·.outputHash.isSome)
       value := fun d => do return { d with outputHash := some (← Reader.text) } },
     { name := "output_index"
       isGiven := (·.outputIndex.isSome)
       value := fun d => do return { d with outputIndex := some (← Reader.natural) } },
     { name := "output"
       isGiven := (·.output.isSome)
       value := fun d => do return { d with output := some (← Reader.record Output.format) } }]
  finish d := do return ⟨← d.outputHash, ← d.outputIndex, ← d.output⟩

def written (u : Unspent) : List Char :=
  Written.object
    [("output_hash", Written.text u.outputHash), ("output_index", Text.decimal u.outputIndex),
     ("output", u.output.written)]

end Unspent

/-! ## Inputs -/

structure InputDraft where
  outputHash : Option String := none
  outputIndex : Option UInt64 := none
  signature : Option String := none

namespace Input

def format : Format InputDraft Input where
  draft := {}
  members :=
    [{ name := "output_hash"
       isGiven := (·.outputHash.isSome)
       value := fun d => do return { d with outputHash := some (← Reader.text) } },
     { name := "output_index"
       isGiven := (·.outputIndex.isSome)
       value := fun d => do return { d with outputIndex := some (← Reader.natural) } },
     { name := "signature"
       isGiven := (·.signature.isSome)
       value := fun d => do return { d with signature := some (← Reader.text) } }]
  finish d := do return ⟨← d.outputHash, ← d.outputIndex, d.signature.getD ""⟩

def written (i : Input) : List Char :=
  Written.object
    [("output_hash", Written.text i.outputHash), ("output_index", Text.decimal i.outputIndex),
     ("signature", Written.text i.signature)]

end Input

/-! ## Transactions -/

def Kind.name : Kind → String
  | .standard => "standard"

def Kind.reader : Json.Reader Kind := Reader.oneOf [(Kind.standard.name, .standard)]

structure TransactionDraft where
  kind : Option Kind := none
  index : Option UInt64 := none
  hash : Option String := none
  inputs : Option (List Input) := none
  outputs : Option (List Output) := none

namespace Transaction

def format : Format TransactionDraft Transaction where
  draft := {}
  members :=
    [{ name := "type"
       isGiven := (·.kind.isSome)
       value := fun d => do return { d with kind := some (← Kind.reader) } },
     { name := "index"
       isGiven := (·.index.isSome)
       value := fun d => do return { d with index := some (← Reader.natural) } },
     { name := "hash"
       isGiven := (·.hash.isSome)
       value := fun d => do return { d with hash := some (← Reader.text) } },
     { name := "inputs"
       isGiven := (·.inputs.isSome)
       value := fun d => do
        return { d with inputs := some (← Reader.list (Reader.record Input.format)) } },
     { name := "outputs"
       isGiven := (·.outputs.isSome)
       value := fun d => do
        return { d with outputs := some (← Reader.list (Reader.record Output.format)) } }]
  finish d := do return ⟨← d.kind, ← d.index, ← d.hash, ← d.inputs, ← d.outputs⟩

def written (tx : Transaction) : List Char :=
  Written.object
    [("type", Written.text tx.kind.name), ("index", Text.decimal tx.index),
     ("hash", Written.text tx.hash), ("inputs", Written.list (tx.inputs.map Input.written)),
     ("outputs", Written.list (tx.outputs.map Output.written))]

end Transaction

/-! ## Whole texts -/

def Transaction.ofJson (text : String) : Except Json.Fault Transaction :=
  (Reader.record Transaction.format).whole text

def Transaction.toJson (tx : Transaction) : String := String.ofList tx.written

def Unspent.listOfJson (text : String) : Except Json.Fault (List Unspent) :=
  (Reader.list (Reader.record Unspent.format)).whole text

def Unspent.listToJson (us : List Unspent) : String :=
  String.ofList (Written.list (us.map Unspent.written))

def Unspent.toJson (u : Unspent) : String := String.ofList u.written

def Input.toJson (i : Input) : String := String.ofList i.written

end UtxoWallet.Ledger
