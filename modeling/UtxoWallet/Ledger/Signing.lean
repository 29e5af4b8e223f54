import UtxoWallet.Curve.Signature
import UtxoWallet.Ledger.Error
import UtxoWallet.Ledger.Preimage

/-! # Signing and checking transactions

One signature over the hash goes into every input.
-/

namespace UtxoWallet.Ledger

open Curve

/-- Equal up to the case of the letters a to z. -/
def sameIgnoringCase (s t : String) : Bool :=
  s.toList.map Char.toLower == t.toList.map Char.toLower

/-- Whether a text holds a signature of the digest. -/
def accepts (key : Point) (digest : List UInt8) (text : String) : Bool :=
  ((Hex.decode text.toList).bind Signature.ofDer?).any (Signature.verify key digest)

namespace Transaction

/-- The digest, if there is something to sign and the hash in the transaction still fits. -/
def currentDigest (tx : Transaction) : Except Error (List UInt8) :=
  if tx.inputs.isEmpty then .error .noInputs
  else if sameIgnoringCase tx.computedHash tx.hash then .ok tx.digest
  else .error (.staleHash tx.hash tx.computedHash)

def withSignature (tx : Transaction) (signature : String) : Transaction :=
  { tx with inputs := tx.inputs.map fun i => { i with signature } }

def sign (tx : Transaction) (key : SecretKey) : Except Error Transaction := do
  let digest ← tx.currentDigest
  match Signature.sign key digest with
  | some signature => return tx.withSignature (Hex.text signature.toDer)
  | none => throw (.signing "signature error")

def verify (tx : Transaction) (key : Point) : Except Error Unit := do
  let digest ← tx.currentDigest
  match tx.inputs.findIdx? (!accepts key digest ·.signature) with
  | some i => throw (.invalidSignature i)
  | none => return ()

end Transaction

end UtxoWallet.Ledger
