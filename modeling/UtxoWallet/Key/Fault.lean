import UtxoWallet.Bytes.Base64

/-! # What is wrong with a text that should hold a key -/

namespace UtxoWallet.Key

inductive Fault where
  | base64 (fault : Base64.Fault)
  /-- An address whose bytes do not hold a point in the expected form. -/
  | form
  | algorithm
  | noCurve
  | curve
  /-- A key file without a key that can be read. -/
  | file
  | notText
deriving DecidableEq, Repr

def Fault.message : Fault → String
  | .base64 (.symbol byte offset) => s!"Invalid symbol {byte}, offset {offset}."
  | .base64 (.length count) => s!"Invalid input length: {count}"
  | .base64 (.lastSymbol byte offset) => s!"Invalid last symbol {byte}, offset {offset}."
  | .form => "ASN.1 error"
  | .algorithm => "unknown/unsupported algorithm OID: 1.2.840.10045.2.1"
  | .noCurve => "AlgorithmIdentifier parameters missing"
  | .curve => "unknown/unsupported algorithm OID: 1.2.840.10045.3.1.7"
  | .file => "crypto error"
  | .notText => "key file is not valid UTF-8"

end UtxoWallet.Key
