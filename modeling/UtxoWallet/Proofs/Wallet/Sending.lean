import UtxoWallet.Proofs.Ledger.Signing
import UtxoWallet.Proofs.Wallet.Reading

/-! # What a transfer asks of the node -/

namespace UtxoWallet.Wallet

open Attempt Ledger Result

variable {v : World} {w : Wallet} {ws : List Wallet} {e : Error} {name : String}

/-! ## Wallets -/

namespace Keystore

variable {k : Keystore}

theorem perform_wallet_of_unreadable (h : k.store.listed v = .error e) :
    (k.wallet name).perform v = (.error e, v) := by
  unfold wallet
  exact perform_bind_error (by rw [Store.perform_find, h]; rfl) _

theorem perform_wallet_of_unknown (h : k.store.listed v = .ok ws)
    (hnone : ws.find? (·.name == name) = none) :
    (k.wallet name).perform v = (.error (.walletNotFound name), v) := by
  unfold wallet
  rw [perform_bind_ok (Store.perform_find_of_listed h name), hnone]
  rfl

end Keystore

namespace Client

/-! ## Preparing -/

variable {c : Client} {sender recipient : String} {amount : UInt64} {tx : Transaction}

/-- Nothing is left to be asked but the node. -/
structure Ready (c : Client) (sender recipient : String) (amount : UInt64) (v : World)
    (w : Wallet) : Prop where
  wallet : (c.keystore.wallet sender).perform v = (.ok w, v)
  amount : amount ≠ 0
  recipient : Address.check recipient = .ok ()

/-- How a transfer is prepared or fails to be, and what the node is asked meanwhile. Each way of
failing takes all the steps before it to have gone well. -/
inductive Preparation (c : Client) (sender recipient : String) (amount : UInt64) (v : World) :
    Except Error Transaction → List Asked → Prop
  | unreadable {e : Error} (h : c.keystore.store.listed v = .error e) :
      Preparation c sender recipient amount v (.error e) []
  | unknown {ws : List Wallet} (hws : c.keystore.store.listed v = .ok ws)
      (h : ws.find? (·.name == sender) = none) :
      Preparation c sender recipient amount v (.error (.walletNotFound sender)) []
  | zero {w : Wallet} (hw : (c.keystore.wallet sender).perform v = (.ok w, v))
      (h : amount = 0) :
      Preparation c sender recipient amount v (.error .invalidAmount) []
  | stray {w : Wallet} {fault : Address.Fault}
      (hw : (c.keystore.wallet sender).perform v = (.ok w, v)) (hne : amount ≠ 0)
      (h : Address.check recipient = .error fault) :
      Preparation c sender recipient amount v (.error (.invalidAddress fault)) []
  | unanswered {w : Wallet} {e : Node.Error} (hready : Ready c sender recipient amount v w)
      (h : v.node v.asked c.node .unspent = .error e) :
      Preparation c sender recipient amount v (.error (.network e)) [⟨c.node, .unspent⟩]
  | unbuilt {w : Wallet} {unspent : List Unspent} {e : Ledger.Error}
      (hready : Ready c sender recipient amount v w)
      (hunspent : v.node v.asked c.node .unspent = .ok unspent)
      (h : Transaction.transfer (owned w unspent) amount recipient w.address = .error e) :
      Preparation c sender recipient amount v (.error (.ofLedger e)) [⟨c.node, .unspent⟩]
  | locked {w : Wallet} {unspent : List Unspent} {tx : Transaction} {e : Error}
      (hready : Ready c sender recipient amount v w)
      (hunspent : v.node v.asked c.node .unspent = .ok unspent)
      (htx : Transaction.transfer (owned w unspent) amount recipient w.address = .ok tx)
      (h : ((c.keystore.loadKey w).perform v).1 = .error e) :
      Preparation c sender recipient amount v (.error e) [⟨c.node, .unspent⟩]
  | unsigned {w : Wallet} {unspent : List Unspent} {tx : Transaction} {secret : Curve.SecretKey}
      {e : Ledger.Error} (hready : Ready c sender recipient amount v w)
      (hunspent : v.node v.asked c.node .unspent = .ok unspent)
      (htx : Transaction.transfer (owned w unspent) amount recipient w.address = .ok tx)
      (hkey : ((c.keystore.loadKey w).perform v).1 = .ok secret) (h : tx.sign secret = .error e) :
      Preparation c sender recipient amount v (.error (.ofLedger e)) [⟨c.node, .unspent⟩]
  | signed {w : Wallet} {unspent : List Unspent} {tx signed : Transaction}
      {secret : Curve.SecretKey} (hready : Ready c sender recipient amount v w)
      (hunspent : v.node v.asked c.node .unspent = .ok unspent)
      (htx : Transaction.transfer (owned w unspent) amount recipient w.address = .ok tx)
      (hkey : ((c.keystore.loadKey w).perform v).1 = .ok secret) (h : tx.sign secret = .ok signed) :
      Preparation c sender recipient amount v (.ok signed) [⟨c.node, .unspent⟩]

/-- What the node was asked does not matter to a key. -/
theorem perform_loadKey_asked (asked : List Asked) :
    (c.keystore.loadKey w).perform { v with asked } =
      (((c.keystore.loadKey w).perform v).1, { v with asked }) := by
  rw [Keystore.perform_loadKey, Keystore.perform_loadKey]

theorem perform_prepareTransfer_of_error (h : (c.keystore.wallet sender).perform v = (.error e, v)) :
    (c.prepareTransfer sender recipient amount).perform v = (.error e, v) := by
  unfold prepareTransfer
  exact perform_bind_error h _

theorem perform_prepareTransfer_of_unanswered {e : Node.Error}
    (hready : Ready c sender recipient amount v w)
    (h : v.node v.asked c.node .unspent = .error e) :
    (c.prepareTransfer sender recipient amount).perform v =
      (.error (.network e), { v with asked := v.asked ++ [⟨c.node, .unspent⟩] }) := by
  have hasked := perform_unspentOutputs c w v
  rw [h] at hasked
  unfold prepareTransfer
  rw [perform_bind_ok hready.wallet, if_neg hready.amount,
    perform_bind_ok (by rw [perform_ofExcept, hready.recipient]; rfl)]
  exact perform_bind_error hasked _

theorem perform_prepareTransfer_of_zero (hw : (c.keystore.wallet sender).perform v = (.ok w, v)) :
    (c.prepareTransfer sender recipient 0).perform v = (.error .invalidAmount, v) := by
  unfold prepareTransfer
  rw [perform_bind_ok hw, if_pos rfl]
  exact perform_bind_error (perform_throw _ _) _

theorem perform_prepareTransfer_of_stray {fault : Address.Fault}
    (hw : (c.keystore.wallet sender).perform v = (.ok w, v)) (hne : amount ≠ 0)
    (h : Address.check recipient = .error fault) :
    (c.prepareTransfer sender recipient amount).perform v = (.error (.invalidAddress fault), v) := by
  unfold prepareTransfer
  rw [perform_bind_ok hw, if_neg hne]
  exact perform_bind_error (by rw [perform_ofExcept, h]; rfl) _

/-- Once the node has told its outputs, the rest is a matter of the files. -/
theorem perform_prepareTransfer_of_unspent {unspent : List Unspent}
    (hready : Ready c sender recipient amount v w)
    (h : v.node v.asked c.node .unspent = .ok unspent) :
    (c.prepareTransfer sender recipient amount).perform v =
      ((Transaction.transfer (owned w unspent) amount recipient w.address).mapError .ofLedger >>=
        fun tx => ((c.keystore.loadKey w).perform v).1 >>=
          fun secret => (tx.sign secret).mapError .ofLedger,
        { v with asked := v.asked ++ [⟨c.node, .unspent⟩] }) := by
  have hasked := perform_unspentOutputs c w v
  rw [h] at hasked
  have hload := perform_loadKey_asked (c := c) (w := w) (v := v)
    (v.asked ++ [⟨c.node, .unspent⟩])
  unfold prepareTransfer
  rw [perform_bind_ok hready.wallet, if_neg hready.amount,
    perform_bind_ok (by rw [perform_ofExcept, hready.recipient]; rfl), perform_bind_ok hasked]
  cases htx : Transaction.transfer (owned w unspent) amount recipient w.address with
  | error e => exact perform_bind_error (perform_ofExcept _ _ _) _
  | ok tx =>
    rw [perform_bind_ok (perform_ofExcept _ _ _)]
    cases hkey : ((c.keystore.loadKey w).perform v).1 with
    | error e =>
      rw [hkey] at hload
      exact perform_bind_error hload _
    | ok secret =>
      rw [hkey] at hload
      rw [perform_bind_ok hload]
      rfl

theorem exists_preparation_of_unspent {unspent : List Unspent}
    (hready : Ready c sender recipient amount v w)
    (h : v.node v.asked c.node .unspent = .ok unspent) :
    ∃ result, Preparation c sender recipient amount v result [⟨c.node, .unspent⟩] ∧
      (c.prepareTransfer sender recipient amount).perform v =
        (result, { v with asked := v.asked ++ [⟨c.node, .unspent⟩] }) := by
  rw [perform_prepareTransfer_of_unspent hready h]
  cases htx : Transaction.transfer (owned w unspent) amount recipient w.address with
  | error e => exact ⟨_, .unbuilt hready h htx, rfl⟩
  | ok tx =>
    cases hkey : ((c.keystore.loadKey w).perform v).1 with
    | error e => exact ⟨_, .locked hready h htx hkey, rfl⟩
    | ok secret =>
      cases hsign : tx.sign secret with
      | error e => exact ⟨_, .unsigned hready h htx hkey hsign, by simp [hsign]⟩
      | ok signed => exact ⟨_, .signed hready h htx hkey hsign, by simp [hsign]⟩

theorem exists_preparation_of_wallet (hw : (c.keystore.wallet sender).perform v = (.ok w, v)) :
    ∃ result asked, Preparation c sender recipient amount v result asked ∧
      (c.prepareTransfer sender recipient amount).perform v =
        (result, { v with asked := v.asked ++ asked }) := by
  by_cases hzero : amount = 0
  · refine ⟨_, [], .zero hw hzero, ?_⟩
    rw [hzero, perform_prepareTransfer_of_zero hw, List.append_nil]
  · cases hcheck : Address.check recipient with
    | error fault =>
      refine ⟨_, [], .stray hw hzero hcheck, ?_⟩
      rw [perform_prepareTransfer_of_stray hw hzero hcheck, List.append_nil]
    | ok =>
      have hready : Ready c sender recipient amount v w := ⟨hw, hzero, hcheck⟩
      cases hnode : v.node v.asked c.node .unspent with
      | error e =>
        exact ⟨_, _, .unanswered hready hnode, perform_prepareTransfer_of_unanswered hready hnode⟩
      | ok unspent =>
        obtain ⟨result, hresult, hperform⟩ := exists_preparation_of_unspent hready hnode
        exact ⟨result, _, hresult, hperform⟩

/-- Every transfer is prepared in one of these ways. -/
theorem exists_preparation (c : Client) (sender recipient : String) (amount : UInt64) (v : World) :
    ∃ result asked, Preparation c sender recipient amount v result asked ∧
      (c.prepareTransfer sender recipient amount).perform v =
        (result, { v with asked := v.asked ++ asked }) := by
  cases hlisted : c.keystore.store.listed v with
  | error e =>
    refine ⟨_, [], .unreadable hlisted, ?_⟩
    rw [List.append_nil]
    exact perform_prepareTransfer_of_error (Keystore.perform_wallet_of_unreadable hlisted)
  | ok ws =>
    cases hfind : ws.find? (·.name == sender) with
    | none =>
      refine ⟨_, [], .unknown hlisted hfind, ?_⟩
      rw [List.append_nil]
      exact perform_prepareTransfer_of_error (Keystore.perform_wallet_of_unknown hlisted hfind)
    | some w =>
      exact exists_preparation_of_wallet
        (Keystore.perform_wallet_eq_ok.mpr ⟨rfl, ws, hlisted, hfind⟩)

/-- While a transfer is prepared, the node is asked for its outputs or nothing. -/
theorem Preparation.asked_cases {result : Except Error Transaction} {asked : List Asked}
    (h : Preparation c sender recipient amount v result asked) :
    asked = [] ∨ asked = [⟨c.node, .unspent⟩] := by
  cases h <;> first | exact .inl rfl | exact .inr rfl

/-- Only what is signed is ever prepared, and the node was asked for its outputs once. -/
theorem Preparation.isSigned {asked : List Asked}
    (h : Preparation c sender recipient amount v (.ok tx) asked) :
    tx.isSigned = true ∧ asked = [⟨c.node, .unspent⟩] := by
  cases h with
  | signed _ _ _ _ hsign => exact ⟨Transaction.isSigned_of_sign hsign, rfl⟩

/-! ## Handing over -/

/-- What a prepared transfer comes to when the node has answered. -/
def handedOver (tx : Transaction) : Except Node.Error Unit → Except Error Transaction
  | .ok () => .ok tx
  | .error e => .error (.network e)

theorem perform_transfer_of_ok {u : World}
    (h : (c.prepareTransfer sender recipient amount).perform v = (.ok tx, u)) :
    (c.transfer sender recipient amount).perform v =
      (handedOver tx (u.node u.asked c.node (.submit tx)),
        { u with asked := u.asked ++ [⟨c.node, .submit tx⟩] }) := by
  unfold transfer
  rw [perform_bind_ok h]
  cases hnode : u.node u.asked c.node (.submit tx) with
  | error e => exact perform_bind_error (by rw [perform_node, hnode]; rfl) _
  | ok => exact perform_bind_ok (by rw [perform_node, hnode]; rfl) _

theorem perform_transfer_of_error {u : World}
    (h : (c.prepareTransfer sender recipient amount).perform v = (.error e, u)) :
    (c.transfer sender recipient amount).perform v = (.error e, u) := by
  unfold transfer
  exact perform_bind_error h _

theorem handedOver_eq_ok {tx' : Transaction} {answer : Except Node.Error Unit} :
    handedOver tx answer = .ok tx' ↔ tx' = tx ∧ answer = .ok () := by
  cases answer <;> simp [handedOver, eq_comm]

/-- The node is asked nothing for a transfer that is refused, and for its outputs once otherwise. It
is handed the transfer that is prepared, signed and once, and nothing if none is. All else stays as it
was, and all stays where the records cannot be read or do not have the wallet. -/
theorem asked_by_transfer (c : Client) (sender recipient : String) (amount : UInt64) (v : World) :
    let prepared := ((c.prepareTransfer sender recipient amount).perform v).1
    let sent := (c.transfer sender recipient amount).perform v
    let listed := c.keystore.store.listed v
    (∀ e, listed = .error e → sent = (.error e, v)) ∧
    (∀ ws, listed = .ok ws → ws.find? (·.name == sender) = none →
      sent = (.error (.walletNotFound sender), v)) ∧
    ∃ asked, Preparation c sender recipient amount v prepared asked ∧
      (∀ e, prepared = .error e → sent = (.error e, { v with asked := v.asked ++ asked })) ∧
      (∀ tx, prepared = .ok tx →
        tx.isSigned = true ∧ asked = [⟨c.node, .unspent⟩] ∧
        sent = (handedOver tx (v.node (v.asked ++ asked) c.node (.submit tx)),
          { v with asked := v.asked ++ [⟨c.node, .unspent⟩, ⟨c.node, .submit tx⟩] })) ∧
      ∀ tx, sent.1 = .ok tx ↔
        prepared = .ok tx ∧ v.node (v.asked ++ asked) c.node (.submit tx) = .ok () := by
  intro prepared sent listed
  have hrefused : ∀ e, (c.keystore.wallet sender).perform v = (.error e, v) → sent = (.error e, v) :=
    fun e h => perform_transfer_of_error (perform_prepareTransfer_of_error h)
  refine ⟨fun e h => hrefused e (Keystore.perform_wallet_of_unreadable h),
    fun ws hws hnone => hrefused _ (Keystore.perform_wallet_of_unknown hws hnone), ?_⟩
  obtain ⟨result, asked, hpreparation, hperform⟩ := exists_preparation c sender recipient amount v
  have hprepared : prepared = result := congrArg Prod.fst hperform
  rw [hprepared]
  refine ⟨asked, hpreparation, ?_⟩
  cases result with
  | error e =>
    have hsent : sent = (.error e, { v with asked := v.asked ++ asked }) :=
      perform_transfer_of_error hperform
    refine ⟨?_, ?_, ?_⟩
    · rintro e' ⟨⟩
      exact hsent
    · intro tx htx
      cases htx
    · intro tx
      simp [hsent]
  | ok tx =>
    have hsent : sent = (handedOver tx _, _) := perform_transfer_of_ok hperform
    obtain ⟨hsigned, rfl⟩ := hpreparation.isSigned
    rw [List.append_assoc] at hsent
    refine ⟨?_, ?_, ?_⟩
    · intro e he
      cases he
    · rintro tx' ⟨⟩
      exact ⟨hsigned, rfl, hsent⟩
    · intro tx'
      rw [hsent, handedOver_eq_ok, Except.ok.injEq]
      constructor
      · rintro ⟨rfl, hanswer⟩
        exact ⟨rfl, hanswer⟩
      · rintro ⟨rfl, hanswer⟩
        exact ⟨rfl, hanswer⟩

end Client

end UtxoWallet.Wallet
