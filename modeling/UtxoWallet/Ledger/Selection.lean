import UtxoWallet.Ledger.Error
import UtxoWallet.Ledger.Transaction

/-! # Choosing what to spend

Outputs are taken in the order given until they cover the amount. Those after that are not looked
at.
-/

namespace UtxoWallet.Ledger

structure Selection where
  inputs : List Input
  total : UInt64
deriving DecidableEq, Repr

namespace Selection

/-- What is left of the selection after paying `amount`, and nothing if it falls short. -/
def change (s : Selection) (amount : UInt64) : UInt64 :=
  if amount ≤ s.total then s.total - amount else 0

/-- Goes on from `total`, which does not cover the amount yet. Beside the choice it tells which outputs
are left, those that it has not looked at. -/
def extend (amount total : UInt64) : List Unspent → Except Error Selection × List Unspent
  | [] => (.error (.insufficientFunds amount total), [])
  | u :: us =>
    match plus? total u.amount with
    | none => (.error .amountOverflow, us)
    | some sum =>
      if amount ≤ sum then (.ok ⟨[u.toInput], sum⟩, us)
      else
        let (more, left) := extend amount sum us
        (more.map fun s => { s with inputs := u.toInput :: s.inputs }, left)

/-- The choice for an amount, and the outputs that are left. -/
def choose (unspent : List Unspent) (amount : UInt64) : Except Error Selection × List Unspent :=
  if amount = 0 then (.error .invalidAmount, unspent) else extend amount 0 unspent

def firstFit (unspent : List Unspent) (amount : UInt64) : Except Error Selection :=
  (choose unspent amount).1

/-- How many outputs are looked at. -/
def pulled (unspent : List Unspent) (amount : UInt64) : Nat :=
  unspent.length - (choose unspent amount).2.length

end Selection

end UtxoWallet.Ledger
