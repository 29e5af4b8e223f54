import UtxoWallet.Bytes.Hex
import UtxoWallet.Digest.Sha256
import UtxoWallet.Ledger.Transaction
import UtxoWallet.Text.Decimal

/-! # The hash of a transaction

The hash covers the index, what is spent and what is made, and no signature. The numbers and texts
follow one another with nothing between them.
-/

namespace UtxoWallet.Ledger

open Text (decimal)

def Input.preimage (i : Input) : List Char := i.outputHash.toList ++ decimal i.outputIndex

def Output.preimage (o : Output) : List Char := decimal o.amount ++ o.address.toList

namespace Transaction

def preimageChars (tx : Transaction) : List Char :=
  decimal tx.index ++ tx.inputs.flatMap (·.preimage) ++ tx.outputs.flatMap (·.preimage)

def preimage (tx : Transaction) : String := String.ofList tx.preimageChars

def digest (tx : Transaction) : List UInt8 := Sha256.digest tx.preimage.toUTF8.data.toList

def computedHash (tx : Transaction) : String := Hex.text tx.digest

theorem computedHash_congr {tx tx' : Transaction} (h : tx.preimage = tx'.preimage) :
    tx.computedHash = tx'.computedHash := by
  rw [computedHash, computedHash, digest, digest, h]

end Transaction

end UtxoWallet.Ledger
