/-! # Why a transaction cannot be made or trusted -/

namespace UtxoWallet.Ledger

inductive Error where
  | insufficientFunds (need available : UInt64)
  | invalidAmount
  | amountOverflow
  | noInputs
  | noOutputs
  | staleHash (stored computed : String)
  | signing (reason : String)
  /-- The first input whose signature is bad, counted from zero. -/
  | invalidSignature (input : Nat)
deriving DecidableEq, Repr

def Error.message : Error → String
  | .insufficientFunds need available => s!"insufficient funds: need {need}, have {available}"
  | .invalidAmount => "amount must be positive"
  | .amountOverflow => "amount overflow while summing outputs"
  | .noInputs => "transaction has no inputs"
  | .noOutputs => "transaction has no outputs"
  | .staleHash stored computed =>
    s!"stale transaction hash: stored {stored}, computed {computed}"
  | .signing reason => s!"signing error: {reason}"
  | .invalidSignature input => s!"invalid signature on input {input}"

end UtxoWallet.Ledger
