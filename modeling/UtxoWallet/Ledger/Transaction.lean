/-! # Transactions

A transaction spends outputs of earlier ones and makes new outputs. Amounts are whole units.
-/

namespace UtxoWallet.Ledger

/-! ## Parts -/

/-- A reference to the output that is spent. The signature is empty until there is one. -/
structure Input where
  outputHash : String
  outputIndex : UInt64
  signature : String := ""
deriving DecidableEq, Repr

structure Output where
  amount : UInt64
  address : String
deriving DecidableEq, Repr

/-- An output that nobody has spent yet. -/
structure Unspent where
  outputHash : String
  outputIndex : UInt64
  output : Output
deriving DecidableEq, Repr

inductive Kind where
  | standard
deriving DecidableEq, Repr

structure Transaction where
  kind : Kind
  index : UInt64
  hash : String
  inputs : List Input
  outputs : List Output
deriving DecidableEq, Repr

def Input.isSigned (i : Input) : Bool := !i.signature.isEmpty

namespace Unspent

def amount (u : Unspent) : UInt64 := u.output.amount

def owner (u : Unspent) : String := u.output.address

def isOwnedBy (u : Unspent) (address : String) : Bool := u.owner == address

def toInput (u : Unspent) : Input := { outputHash := u.outputHash, outputIndex := u.outputIndex }

end Unspent

/-! ## Sums -/

/-- The sum of two amounts, if it is an amount. -/
def plus? (a b : UInt64) : Option UInt64 :=
  if a.toNat + b.toNat < UInt64.size then some (a + b) else none

/-- The sum of all amounts on top of `start`. -/
def total? (start : UInt64) : List UInt64 → Option UInt64
  | [] => some start
  | a :: as => (plus? start a).bind (total? · as)

/-- The sum without a bound. -/
def exactTotal : List UInt64 → Nat
  | [] => 0
  | a :: as => a.toNat + exactTotal as

theorem plus?_eq_none {a b : UInt64} : plus? a b = none ↔ UInt64.size ≤ a.toNat + b.toNat := by
  simp only [plus?, ite_eq_right_iff, reduceCtorEq, imp_false]
  omega

theorem toNat_of_plus? {a b c : UInt64} (h : plus? a b = some c) :
    c.toNat = a.toNat + b.toNat := by
  simp only [plus?, Option.ite_none_right_eq_some, Option.some.injEq] at h
  rw [← h.2, UInt64.toNat_add, Nat.mod_eq_of_lt h.1]

theorem total?_eq_none {amounts : List UInt64} {start : UInt64} :
    total? start amounts = none ↔ UInt64.size ≤ start.toNat + exactTotal amounts := by
  induction amounts generalizing start with
  | nil =>
    have := start.toNat_lt
    simp [total?, exactTotal]
    omega
  | cons a as ih =>
    rw [total?, exactTotal]
    cases h : plus? start a with
    | none =>
      have := plus?_eq_none.mp h
      simp only [Option.bind_none, true_iff]
      omega
    | some sum => rw [Option.bind_some, ih, toNat_of_plus? h, Nat.add_assoc]

theorem toNat_of_total? {amounts : List UInt64} {start sum : UInt64}
    (h : total? start amounts = some sum) : sum.toNat = start.toNat + exactTotal amounts := by
  induction amounts generalizing start with
  | nil =>
    rw [← Option.some.inj h]
    simp [exactTotal]
  | cons a as ih =>
    obtain ⟨_, hplus, htotal⟩ := Option.bind_eq_some_iff.mp h
    rw [ih htotal, toNat_of_plus? hplus, exactTotal, Nat.add_assoc]

/-! ## A whole transaction -/

namespace Transaction

def amounts (tx : Transaction) : List UInt64 := tx.outputs.map (·.amount)

def outputTotal (tx : Transaction) : Option UInt64 := total? 0 tx.amounts

def isSigned (tx : Transaction) : Bool := !tx.inputs.isEmpty && tx.inputs.all (·.isSigned)

end Transaction

end UtxoWallet.Ledger
