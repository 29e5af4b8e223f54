import UtxoWallet.Proofs.Wallet.Sending
import UtxoWallet.Proofs.Wallet.Transfer

/-! # A balance is what can be spent -/

namespace UtxoWallet.Wallet

open Attempt Ledger Result Selection

/-! ## Errors of funds -/

/-- What is said where funds are missing or too large to add up. -/
def Error.IsOfFunds (e : Error) : Prop :=
  (∃ need available, e = .insufficientFunds need available) ∨ e = .transaction .amountOverflow

/-- A protector that fails has something to say about the key, and not about funds. -/
def Protector.KnowsNoFunds (p : Protector) : Prop :=
  ∀ stored e, p.unprotect stored = .error e → ¬e.IsOfFunds

theorem Protector.knowsNoFunds_plain : Protector.plain.KnowsNoFunds := by
  intro stored e h
  change textOf stored = .error e at h
  rw [textOf] at h
  cases htext : String.fromUTF8? stored with
  | some text =>
    rw [htext] at h
    cases h
  | none =>
    rw [htext] at h
    cases h
    simp [Error.IsOfFunds]

variable {v u : World} {w : Wallet} {c : Client} {e : Error} {name recipient : String}
  {amount : UInt64} {unspent : List Unspent}

namespace Keystore

variable {k : Keystore}

theorem not_isOfFunds_of_readKey (hfunds : k.protector.KnowsNoFunds) {stored : ByteArray}
    (h : k.readKey w stored = .error e) : ¬e.IsOfFunds := by
  unfold readKey at h
  cases hpem : k.protector.unprotect stored with
  | error e' =>
    rw [hpem, error_bind, Except.error.injEq] at h
    rw [← h]
    exact hfunds stored e' hpem
  | ok pem =>
    rw [hpem, ok_bind] at h
    cases hkey : Key.ofPem pem with
    | error fault =>
      rw [hkey] at h
      cases h
      simp [Error.IsOfFunds]
    | ok secret =>
      rw [hkey, mapError_ok, ok_bind] at h
      split at h
      · cases h
        simp [Error.IsOfFunds]
      · cases h

theorem not_isOfFunds_of_loadKey (hfunds : k.protector.KnowsNoFunds)
    (h : ((k.loadKey w).perform v).1 = .error e) : ¬e.IsOfFunds := by
  rw [perform_loadKey] at h
  cases hread : v.files.read v.start (k.store.keyPath w) with
  | error fault =>
    rw [hread] at h
    cases h
    simp [Error.IsOfFunds]
  | ok stored =>
    rw [hread] at h
    exact not_isOfFunds_of_readKey hfunds h

end Keystore

theorem not_isOfFunds_of_sign {tx : Transaction} {secret : Curve.SecretKey} {e : Ledger.Error}
    (h : tx.sign secret = .error e) : ¬(Error.ofLedger e).IsOfFunds := by
  rcases Transaction.error_of_sign h with rfl | ⟨stored, computed, rfl⟩ | ⟨reason, rfl⟩
  · change ¬(Error.transaction .noInputs).IsOfFunds
    simp [Error.IsOfFunds]
  · change ¬(Error.transaction (.staleHash stored computed)).IsOfFunds
    simp [Error.IsOfFunds]
  · change ¬(Error.transaction (.signing reason)).IsOfFunds
    simp [Error.IsOfFunds]

theorem Error.ofLedger_cases (e : Ledger.Error) :
    (∃ need available, e = .insufficientFunds need available ∧
      ofLedger e = .insufficientFunds need available) ∨
    e = .invalidAmount ∧ ofLedger e = .invalidAmount ∨
    (∀ need available, e ≠ .insufficientFunds need available) ∧ ofLedger e = .transaction e := by
  cases e with
  | insufficientFunds need available => exact .inl ⟨need, available, rfl, rfl⟩
  | invalidAmount => exact .inr (.inl ⟨rfl, rfl⟩)
  | _ => exact .inr (.inr ⟨by simp, rfl⟩)

theorem Error.ofLedger_eq_insufficientFunds_iff {e : Ledger.Error} {need available : UInt64} :
    ofLedger e = .insufficientFunds need available ↔ e = .insufficientFunds need available := by
  rcases ofLedger_cases e with ⟨_, _, rfl, h⟩ | ⟨rfl, h⟩ | ⟨hne, h⟩
  · simp [h]
  · simp [h]
  · simp [h, hne]

theorem Error.ofLedger_eq_amountOverflow_iff {e : Ledger.Error} :
    ofLedger e = .transaction .amountOverflow ↔ e = .amountOverflow := by
  rcases ofLedger_cases e with ⟨_, _, rfl, h⟩ | ⟨rfl, h⟩ | ⟨-, h⟩
  · simp [h]
  · simp [h]
  · simp [h]

namespace Client

/-! ## Balances -/

theorem perform_balance (hw : (c.keystore.wallet name).perform v = (.ok w, v)) :
    (c.balance name).perform v =
      ((v.node v.asked c.node .unspent).mapError .network >>= fun us => totalOf (owned w us),
        { v with asked := v.asked ++ [⟨c.node, .unspent⟩] }) := by
  have hasked := perform_unspentOutputs c w v
  unfold balance
  rw [perform_bind_ok hw]
  cases hnode : v.node v.asked c.node .unspent with
  | error e =>
    rw [hnode] at hasked
    exact perform_bind_error hasked _
  | ok us =>
    rw [hnode] at hasked
    rw [perform_bind_ok hasked, perform_ofExcept, mapError_ok, ok_bind]
    cases totalOf (owned w us) <;> rfl

theorem perform_balance_of_unspent (hw : (c.keystore.wallet name).perform v = (.ok w, v))
    (h : v.node v.asked c.node .unspent = .ok unspent) :
    (c.balance name).perform v =
      (totalOf (owned w unspent), { v with asked := v.asked ++ [⟨c.node, .unspent⟩] }) := by
  rw [perform_balance hw, h, mapError_ok, ok_bind]

theorem totalOf_eq_ok_iff {us : List Unspent} {sum : UInt64} :
    totalOf us = .ok sum ↔ total? 0 (us.map (·.amount)) = some sum := by
  rw [totalOf]
  cases total? 0 (us.map (·.amount)) <;> simp

/-! ## Transfers -/

/-- Only the choice of outputs speaks of funds. -/
theorem prepareTransfer_eq_funds_iff (hfunds : c.keystore.protector.KnowsNoFunds)
    (he : e.IsOfFunds) (hready : Ready c name recipient amount v w)
    (h : v.node v.asked c.node .unspent = .ok unspent) :
    ((c.prepareTransfer name recipient amount).perform v).1 = .error e ↔
      ∃ e', firstFit (owned w unspent) amount = .error e' ∧ .ofLedger e' = e := by
  have hchoice : ∀ e', firstFit (owned w unspent) amount = .error e' ↔
      Transaction.transfer (owned w unspent) amount recipient w.address = .error e' :=
    fun _ => transfer_eq_error_iff.symm
  rw [perform_prepareTransfer_of_unspent hready h]
  simp only [hchoice]
  cases Transaction.transfer (owned w unspent) amount recipient w.address with
  | error e' => simp
  | ok tx =>
    -- With outputs chosen, only the key and the signature are left to fail.
    simp only [mapError_ok, ok_bind, reduceCtorEq, false_and, exists_false, iff_false]
    intro hend
    cases hkey : ((c.keystore.loadKey w).perform v).1 with
    | error e' =>
      rw [hkey] at hend
      cases hend
      exact Keystore.not_isOfFunds_of_loadKey hfunds hkey he
    | ok secret =>
      rw [hkey, ok_bind] at hend
      cases hsign : tx.sign secret with
      | error e' =>
        rw [hsign] at hend
        cases hend
        exact not_isOfFunds_of_sign hsign he
      | ok signed =>
        rw [hsign] at hend
        cases hend

/-- A refusal that comes before the node is asked is not of funds. -/
theorem not_isOfFunds_of_not_ready (hw : (c.keystore.wallet name).perform v = (.ok w, v))
    (hready : ¬Ready c name recipient amount v w)
    (h : ((c.prepareTransfer name recipient amount).perform v).1 = .error e) : ¬e.IsOfFunds := by
  by_cases hzero : amount = 0
  · rw [hzero, perform_prepareTransfer_of_zero hw] at h
    cases h
    simp [Error.IsOfFunds]
  · cases hcheck : Address.check recipient with
    | error fault =>
      rw [perform_prepareTransfer_of_stray hw hzero hcheck] at h
      cases h
      simp [Error.IsOfFunds]
    | ok => exact absurd ⟨hw, hzero, hcheck⟩ hready

theorem insufficientFunds_iff (hfunds : c.keystore.protector.KnowsNoFunds)
    (hready : Ready c name recipient amount v w)
    (h : v.node v.asked c.node .unspent = .ok unspent) (need available : UInt64) :
    ((c.prepareTransfer name recipient amount).perform v).1 =
        .error (.insufficientFunds need available) ↔
      need = amount ∧ totalOf (owned w unspent) = .ok available ∧ available < amount := by
  rw [prepareTransfer_eq_funds_iff hfunds (.inl ⟨need, available, rfl⟩) hready h, totalOf_eq_ok_iff,
    ← firstFit_eq_insufficientFunds_iff hready.amount]
  simp [Error.ofLedger_eq_insufficientFunds_iff]

/-- A transfer lacks funds exactly when the balance, told of the same outputs, falls short of it. A
balance too large to be told never does, and one that is told is never too large to be spent from. -/
theorem insufficientFunds_iff_balance (hfunds : c.keystore.protector.KnowsNoFunds)
    (hw : (c.keystore.wallet name).perform v = (.ok w, v)) (hfiles : u.files = v.files)
    (hstart : u.start = v.start) (hv : v.node v.asked c.node .unspent = .ok unspent)
    (hu : u.node u.asked c.node .unspent = .ok unspent) :
    let balance := ((c.balance name).perform v).1
    let prepared recipient amount := ((c.prepareTransfer name recipient amount).perform u).1
    (∀ recipient amount, Address.check recipient = .ok () → amount ≠ 0 →
      ∀ need available, prepared recipient amount = .error (.insufficientFunds need available) ↔
        need = amount ∧ balance = .ok available ∧ available < amount) ∧
    (balance = .error (.transaction .amountOverflow) → ∀ recipient amount need available,
      prepared recipient amount ≠ .error (.insufficientFunds need available)) ∧
    ∀ sum, balance = .ok sum → ∀ recipient amount,
      prepared recipient amount ≠ .error (.transaction .amountOverflow) := by
  intro balance prepared
  have hbalance : balance = totalOf (owned w unspent) :=
    congrArg Prod.fst (perform_balance_of_unspent hw hv)
  have hwu : (c.keystore.wallet name).perform u = (.ok w, u) := by
    obtain ⟨-, ws, hws, hfind⟩ := Keystore.perform_wallet_eq_ok.mp hw
    refine Keystore.perform_wallet_eq_ok.mpr ⟨rfl, ws, ?_, hfind⟩
    rw [← hws, Store.listed, Store.listed, hfiles, hstart]
  refine ⟨?_, ?_, ?_⟩
  · intro recipient amount hcheck hne need available
    rw [hbalance]
    exact insufficientFunds_iff hfunds ⟨hwu, hne, hcheck⟩ hu need available
  · intro hover recipient amount need available hprepared
    by_cases hready : Ready c name recipient amount u w
    · rw [insufficientFunds_iff hfunds hready hu, ← hbalance, hover] at hprepared
      cases hprepared.2.1
    · exact not_isOfFunds_of_not_ready hwu hready hprepared (.inl ⟨need, available, rfl⟩)
  · intro sum hsum recipient amount hprepared
    by_cases hready : Ready c name recipient amount u w
    · obtain ⟨e, he, hover⟩ := (prepareTransfer_eq_funds_iff hfunds (.inr rfl) hready hu).mp hprepared
      obtain rfl := Error.ofLedger_eq_amountOverflow_iff.mp hover
      rw [hbalance, totalOf_eq_ok_iff, total?_eq_none_of_firstFit he] at hsum
      cases hsum
    · exact not_isOfFunds_of_not_ready hwu hready hprepared (.inr rfl)

/-- Twenty units are not to be had of the fifteen that there are. -/
theorem insufficientFunds_iff_balance_sample :
    ((sampleClient.prepareTransfer "alice" "QUJD" 20).perform sampleWorld).1 =
      .error (.insufficientFunds 20 15) := by
  have hwallet := perform_wallet_sample
  have hnode : sampleWorld.node sampleWorld.asked sampleClient.node .unspent = .ok sampleUnspent :=
    rfl
  obtain ⟨hiff, -⟩ := insufficientFunds_iff_balance (c := sampleClient)
    Protector.knowsNoFunds_plain hwallet rfl rfl hnode hnode
  refine (hiff "QUJD" 20 (by decide +kernel) (by decide) 20 15).mpr ⟨rfl, ?_, by decide⟩
  rw [perform_balance_of_unspent hwallet rfl, owned_sample]
  rfl

end Client

end UtxoWallet.Wallet
