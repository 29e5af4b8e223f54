import UtxoWallet.Ledger.Draft
import UtxoWallet.Proofs.Ledger.Selection
import UtxoWallet.Proofs.Result

/-! # What a transfer is made of -/

namespace UtxoWallet.Ledger

open Result Selection

/-! ## Outputs -/

/-- The payment, and the rest of the first `k` outputs if there is any. -/
def paidOutputs (us : List Unspent) (k : Nat) (amount : UInt64)
    (recipient changeAddress : String) : List Output :=
  ⟨amount, recipient⟩ ::
    if amount.toNat < sumTo us k then
      [⟨UInt64.ofNat (sumTo us k - amount.toNat), changeAddress⟩]
    else []

variable {us : List Unspent} {k : Nat} {amount : UInt64} {recipient changeAddress : String}

theorem toNat_rest (hlt : sumTo us k < UInt64.size) :
    (UInt64.ofNat (sumTo us k - amount.toNat)).toNat = sumTo us k - amount.toNat :=
  UInt64.toNat_ofNat_of_lt' (by omega)

/-- No unit is made and none is lost. -/
theorem exactTotal_paidOutputs (hlt : sumTo us k < UInt64.size)
    (henough : amount.toNat ≤ sumTo us k) :
    exactTotal ((paidOutputs us k amount recipient changeAddress).map (·.amount)) =
      sumTo us k := by
  rw [paidOutputs]
  split
  · simp only [exactTotal, List.map_cons, List.map_nil, toNat_rest hlt]
    omega
  · simp only [exactTotal, List.map_cons, List.map_nil]
    omega

theorem amount_ne_zero_of_mem_paidOutputs (hlt : sumTo us k < UInt64.size) (hne : amount ≠ 0)
    {o : Output} (ho : o ∈ paidOutputs us k amount recipient changeAddress) : o.amount ≠ 0 := by
  rw [paidOutputs, List.mem_cons] at ho
  rcases ho with rfl | hrest
  · exact hne
  · split at hrest
    · next hmore =>
      rw [List.mem_singleton] at hrest
      intro hzero
      have hvalue := congrArg UInt64.toNat hzero
      rw [hrest, toNat_rest hlt, UInt64.toNat_zero] at hvalue
      omega
    · cases hrest

/-! ## Whole transfers -/

/-- The transfer that spends the first `k` outputs, before its hash is known. -/
def unhashedTransfer (us : List Unspent) (k : Nat) (amount : UInt64)
    (recipient changeAddress : String) : Transaction where
  kind := .standard
  index := firstIndex
  hash := ""
  inputs := (us.take k).map (·.toInput)
  outputs := paidOutputs us k amount recipient changeAddress

/-- The transfer that spends the first `k` outputs. -/
def transferOf (us : List Unspent) (k : Nat) (amount : UInt64)
    (recipient changeAddress : String) : Transaction :=
  let tx := unhashedTransfer us k amount recipient changeAddress
  { tx with hash := tx.computedHash }

theorem hash_transferOf :
    (transferOf us k amount recipient changeAddress).hash =
      (transferOf us k amount recipient changeAddress).computedHash :=
  Transaction.computedHash_congr rfl

theorem chosen_ne_nil (h : Covers 0 amount.toNat us k) : (us.take k).map (·.toInput) ≠ [] := by
  have hpos := h.pos
  have hlength := h.le_length
  rw [Ne, List.map_eq_nil_iff, List.take_eq_nil_iff, not_or, ← List.length_eq_zero_iff]
  omega

theorem unhashed_ofSelection (hlt : sumTo us k < UInt64.size)
    (henough : amount.toNat ≤ sumTo us k) :
    (Draft.ofSelection (ofFirst 0 us k) amount recipient changeAddress).unhashed =
      unhashedTransfer us k amount recipient changeAddress := by
  have hchange := toNat_change hlt henough
  rw [Draft.ofSelection, Draft.unhashed, unhashedTransfer, paidOutputs]
  by_cases hmore : amount.toNat < sumTo us k
  · have hrest : (ofFirst 0 us k).change amount = UInt64.ofNat (sumTo us k - amount.toNat) :=
      UInt64.toNat_inj.mp (by rw [hchange, toNat_rest hlt])
    have hne : UInt64.ofNat (sumTo us k - amount.toNat) ≠ 0 := by
      intro hzero
      rw [hrest, hzero, UInt64.toNat_zero] at hchange
      omega
    simp only [hrest, if_neg hne, if_pos hmore]
    rfl
  · have hzero : (ofFirst 0 us k).change amount = 0 :=
      UInt64.toNat_inj.mp (by rw [hchange, UInt64.toNat_zero]; omega)
    simp only [if_pos hzero, if_neg hmore]
    rfl

/-- The checks of a draft let every transfer pass. -/
theorem build_ofSelection (hcover : Covers 0 amount.toNat us k) (hlt : sumTo us k < UInt64.size)
    (hne : amount ≠ 0) :
    (Draft.ofSelection (ofFirst 0 us k) amount recipient changeAddress).build =
      .ok (transferOf us k amount recipient changeAddress) := by
  have henough : amount.toNat ≤ sumTo us k := by simpa using hcover.enough
  have hunhashed : (Draft.ofSelection (ofFirst 0 us k) amount recipient changeAddress).unhashed =
      unhashedTransfer us k amount recipient changeAddress := unhashed_ofSelection hlt henough
  generalize Draft.ofSelection (ofFirst 0 us k) amount recipient changeAddress = d at hunhashed
  have hinputs : d.inputs = (us.take k).map (·.toInput) := congrArg Transaction.inputs hunhashed
  have houtputs : d.outputs = paidOutputs us k amount recipient changeAddress :=
    congrArg Transaction.outputs hunhashed
  have hsome : d.unhashed.outputTotal ≠ none := by
    rw [hunhashed, Transaction.outputTotal, Ne, total?_eq_none, Transaction.amounts,
      unhashedTransfer, exactTotal_paidOutputs hlt henough, UInt64.toNat_zero]
    omega
  rw [Draft.build, if_neg, if_neg, if_neg, if_neg, hunhashed, transferOf]
  · simpa using hsome
  · rw [houtputs]
    simpa using fun o ho => amount_ne_zero_of_mem_paidOutputs hlt hne ho
  · simp [houtputs, paidOutputs]
  · rw [hinputs, List.isEmpty_iff]
    exact chosen_ne_nil hcover

theorem transfer_eq_ok_iff {tx : Transaction} :
    Transaction.transfer us amount recipient changeAddress = .ok tx ↔
      amount ≠ 0 ∧ ∃ k, Covers 0 amount.toNat us k ∧ sumTo us k < UInt64.size ∧
        tx = transferOf us k amount recipient changeAddress := by
  rw [Transaction.transfer, bind_eq_ok]
  constructor
  · rintro ⟨s, hs, htx⟩
    obtain ⟨hne, k, hcover, hlt, rfl⟩ := firstFit_eq_ok_iff.mp hs
    rw [build_ofSelection hcover hlt hne] at htx
    exact ⟨hne, k, hcover, hlt, (Except.ok.inj htx).symm⟩
  · rintro ⟨hne, k, hcover, hlt, rfl⟩
    exact ⟨_, firstFit_eq_ok_iff.mpr ⟨hne, k, hcover, hlt, rfl⟩,
      build_ofSelection hcover hlt hne⟩

/-- Nothing is refused of a transfer but the choice of what it spends. -/
theorem transfer_eq_error_iff {e : Error} :
    Transaction.transfer us amount recipient changeAddress = .error e ↔
      firstFit us amount = .error e := by
  rw [Transaction.transfer]
  cases hfirst : firstFit us amount with
  | error e' => simp
  | ok s =>
    obtain ⟨hne, k, hcover, hlt, rfl⟩ := firstFit_eq_ok_iff.mp hfirst
    rw [ok_bind, build_ofSelection hcover hlt hne]
    simp

/-! ## A transfer and the choice -/

/-- All that was chosen is spent, and what is not paid is given back. -/
structure Spends (s : Selection) (amount : UInt64) (recipient changeAddress : String)
    (tx : Transaction) : Prop where
  kind : tx.kind = .standard
  index : tx.index = 0
  inputs : tx.inputs = s.inputs
  outputs : tx.outputs = ⟨amount, recipient⟩ ::
    if amount < s.total then [⟨s.total - amount, changeAddress⟩] else []
  total : tx.outputTotal = some s.total
  positive : ∀ o ∈ tx.outputs, o.amount ≠ 0
  unsigned : ∀ i ∈ tx.inputs, i.signature = ""
  hash : tx.hash = tx.computedHash

theorem amount_le_ofFirst (hlt : sumTo us k < UInt64.size) (henough : amount.toNat ≤ sumTo us k) :
    amount ≤ (ofFirst 0 us k).total := by
  rw [UInt64.le_iff_toNat_le, toNat_ofFirst_total hlt]
  exact henough

theorem paidOutputs_eq (hlt : sumTo us k < UInt64.size) (henough : amount.toNat ≤ sumTo us k) :
    paidOutputs us k amount recipient changeAddress = ⟨amount, recipient⟩ ::
      if amount < (ofFirst 0 us k).total then
        [⟨(ofFirst 0 us k).total - amount, changeAddress⟩]
      else [] := by
  have hrest : UInt64.ofNat (sumTo us k - amount.toNat) = (ofFirst 0 us k).total - amount := by
    rw [← UInt64.toNat_inj, toNat_rest hlt,
      UInt64.toNat_sub_of_le _ _ (amount_le_ofFirst hlt henough), toNat_ofFirst_total hlt]
  rw [paidOutputs, hrest]
  simp only [UInt64.lt_iff_toNat_lt, toNat_ofFirst_total hlt]

theorem total?_eq_some_iff {amounts : List UInt64} {sum : UInt64} :
    total? 0 amounts = some sum ↔ exactTotal amounts = sum.toNat := by
  constructor
  · intro h
    rw [toNat_of_total? h, UInt64.toNat_zero, Nat.zero_add]
  · intro h
    cases htotal : total? 0 amounts with
    | none =>
      have hover := total?_eq_none.mp htotal
      have hsize := sum.toNat_lt_size
      rw [UInt64.toNat_zero] at hover
      omega
    | some sum' =>
      have hsum := toNat_of_total? htotal
      rw [UInt64.toNat_zero, Nat.zero_add, h] at hsum
      rw [UInt64.toNat_inj.mp hsum]

theorem spends_transferOf (hlt : sumTo us k < UInt64.size) (henough : amount.toNat ≤ sumTo us k)
    (hne : amount ≠ 0) :
    Spends (ofFirst 0 us k) amount recipient changeAddress
      (transferOf us k amount recipient changeAddress) where
  kind := rfl
  index := rfl
  inputs := rfl
  outputs := paidOutputs_eq hlt henough
  total := by
    rw [Transaction.outputTotal, total?_eq_some_iff, toNat_ofFirst_total hlt]
    exact exactTotal_paidOutputs hlt henough
  positive := fun _ => amount_ne_zero_of_mem_paidOutputs hlt hne
  unsigned := by
    intro i hi
    obtain ⟨u, -, rfl⟩ := List.mem_map.mp hi
    rfl
  hash := hash_transferOf

/-- Once there is a choice nothing else is refused, and the choice is spent to the last unit. -/
theorem transfer_exact (us : List Unspent) (amount : UInt64) (recipient changeAddress : String) :
    (∀ e, Transaction.transfer us amount recipient changeAddress = .error e ↔
      firstFit us amount = .error e) ∧
    ∀ s, firstFit us amount = .ok s → s.inputs ≠ [] ∧ amount ≤ s.total ∧
      ∃ tx, (Draft.ofSelection s amount recipient changeAddress).build = .ok tx ∧
        Transaction.transfer us amount recipient changeAddress = .ok tx ∧
        Spends s amount recipient changeAddress tx := by
  refine ⟨fun e => transfer_eq_error_iff, ?_⟩
  intro s hs
  obtain ⟨hne, k, hcover, hlt, rfl⟩ := firstFit_eq_ok_iff.mp hs
  have henough : amount.toNat ≤ sumTo us k := by simpa using hcover.enough
  exact ⟨chosen_ne_nil hcover, amount_le_ofFirst hlt henough, _,
    build_ofSelection hcover hlt hne, transfer_eq_ok_iff.mpr ⟨hne, k, hcover, hlt, rfl⟩,
    spends_transferOf hlt henough hne⟩

end UtxoWallet.Ledger
