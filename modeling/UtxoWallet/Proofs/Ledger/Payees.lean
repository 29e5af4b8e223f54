import UtxoWallet.Proofs.Ledger.Preimage

/-! # A hash tells who is paid

Whatever the inputs are, the first letter that is no hexadecimal digit begins the first address.
From there on addresses of one width tell each output from the next, although they hold digits and
such letters themselves.
-/

namespace UtxoWallet.Ledger

open Text (decimal)

section

variable {tx tx' : Transaction}

/-! ## Paying nobody -/

/-- Only an address brings in a letter that is no hexadecimal digit. -/
theorem IsLegible.outputs_eq_nil_iff (h : IsLegible tx) :
    tx.outputs = [] ↔ ∀ c ∈ tx.preimageChars, isHexDigit c = true := by
  rw [Transaction.preimageChars, ← Transaction.front, List.forall_mem_append]
  constructor
  · intro hnil
    rw [hnil]
    exact ⟨h.isHexDigit_of_mem_front, List.forall_mem_nil _⟩
  · rintro ⟨-, hdigits⟩
    by_contra hne
    obtain ⟨o, os, hos⟩ := List.exists_cons_of_ne_nil hne
    obtain ⟨-, cs, hcs⟩ := h.addresses o (by simp [hos])
    have hmem : 'M' ∈ tx.outputs.flatMap (·.preimage) := by simp [hos, Output.preimage, hcs]
    exact absurd (hdigits 'M' hmem) (by decide)

theorem IsLegible.outputs_eq_nil_of_preimage (h : IsLegible tx) (h' : IsLegible tx')
    (heq : tx.preimage = tx'.preimage) : tx.outputs = [] ↔ tx'.outputs = [] := by
  rw [h.outputs_eq_nil_iff, h'.outputs_eq_nil_iff, preimage_eq_iff.mp heq]

/-! ## Paying somebody -/

theorem front_of_refs (hindex : tx.index = tx'.index)
    (hrefs : tx.inputs.map (·.ref) = tx'.inputs.map (·.ref)) : tx.front = tx'.front := by
  rw [Transaction.front, Transaction.front, hindex, preimage_of_refs hrefs]

/-- Transactions with one preimage pay the same addresses in the same order, and from the second
output on the same amounts. The first amount is known once index and inputs are. -/
theorem payees_of_preimage (h : IsLegible tx) (h' : IsLegible tx')
    (heq : tx.preimage = tx'.preimage) :
    tx.outputs.length = tx'.outputs.length ∧
      tx.outputs.map (·.address) = tx'.outputs.map (·.address) ∧
      tx.outputs.tail.map (·.amount) = tx'.outputs.tail.map (·.amount) ∧
      (tx.index = tx'.index → tx.inputs.map (·.ref) = tx'.inputs.map (·.ref) →
        tx.outputs = tx'.outputs) := by
  cases hos : tx.outputs with
  | nil =>
    rw [(h.outputs_eq_nil_of_preimage h' heq).mp hos]
    exact ⟨rfl, rfl, rfl, fun _ _ => rfl⟩
  | cons o os =>
    cases hos' : tx'.outputs with
    | nil =>
      rw [(h.outputs_eq_nil_of_preimage h' heq).mpr hos'] at hos
      cases hos
    | cons o' os' =>
      obtain ⟨hamount, haddress, rfl⟩ := h.parts_of_preimage h' hos hos' heq
      refine ⟨rfl, ?_, rfl, ?_⟩
      · rw [List.map_cons, List.map_cons, haddress]
      · intro hindex hrefs
        rw [front_of_refs hindex hrefs, List.append_cancel_left_eq] at hamount
        rw [Output.eq_of_decimal hamount haddress]

end

/-! ## A preimage with two readings -/

/-- Nothing but digits follows the first letter. -/
def digitAddress : String := String.ofList ('M' :: List.replicate 121 '7')

def letterAddress : String := String.ofList ('M' :: List.replicate 121 'M')

theorem isAddress_ofList (c : Char) : IsAddress (String.ofList ('M' :: List.replicate 121 c)) := by
  rw [IsAddress, String.toList_ofList]
  exact ⟨rfl, _, rfl⟩

/-- Pays a first amount to the one address and five to the other. -/
def doublePayment (index : UInt64) (inputs : List Input) (first : UInt64) : Transaction :=
  ⟨.standard, index, "", inputs, [⟨first, digitAddress⟩, ⟨5, letterAddress⟩]⟩

theorem isLegible_doublePayment {index first : UInt64} {inputs : List Input}
    (h : inputs.all (·.outputHash.toList.all isHexDigit) = true) :
    IsLegible (doublePayment index inputs first) := by
  refine ⟨fun i hi => List.all_eq_true.mp (List.all_eq_true.mp h i hi), ?_⟩
  rw [doublePayment, List.forall_mem_cons, List.forall_mem_singleton]
  exact ⟨isAddress_ofList '7', isAddress_ofList 'M'⟩

def twoInputs : List Input := [⟨"0a", 12, ""⟩, ⟨"", 3, ""⟩]

def signedInput : List Input := [⟨"a", 12, "3045"⟩]

def unsignedInput : List Input := [⟨"a", 12, ""⟩]

/-- Index, inputs and first amount differ, and still the same addresses are paid. Signing does not
change what is paid. -/
theorem payees_of_doublePayment :
    (doublePayment 7 twoInputs 4).preimage = (doublePayment 70 signedInput 34).preimage ∧
      (doublePayment 7 twoInputs 4).outputs.map (·.address) =
        (doublePayment 70 signedInput 34).outputs.map (·.address) ∧
      (doublePayment 7 twoInputs 4).outputs.tail.map (·.amount) =
        (doublePayment 70 signedInput 34).outputs.tail.map (·.amount) ∧
      (doublePayment 70 unsignedInput 34).outputs = (doublePayment 70 signedInput 34).outputs := by
  have htwo : IsLegible (doublePayment 7 twoInputs 4) := isLegible_doublePayment (by decide)
  have hunsigned : IsLegible (doublePayment 70 unsignedInput 34) :=
    isLegible_doublePayment (by decide)
  have hsigned : IsLegible (doublePayment 70 signedInput 34) := isLegible_doublePayment (by decide)
  have heq : (doublePayment 7 twoInputs 4).preimage = (doublePayment 70 signedInput 34).preimage := by
    decide +kernel
  obtain ⟨-, haddresses, hamounts, -⟩ := payees_of_preimage htwo hsigned heq
  obtain ⟨-, -, -, houtputs⟩ := payees_of_preimage hunsigned hsigned rfl
  exact ⟨heq, haddresses, hamounts, houtputs rfl rfl⟩

end UtxoWallet.Ledger
