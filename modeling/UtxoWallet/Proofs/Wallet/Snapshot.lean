import UtxoWallet.Proofs.Wallet.Spendable

/-! # What others own plays no part

Two nodes that list the same outputs of a wallet are the same to it. Their order matters to what is
spent, but neither to the balance nor to whether it is enough.
-/

namespace UtxoWallet

/-! ## Sums in any order -/

namespace Ledger

theorem exactTotal_perm {as bs : List UInt64} (h : as.Perm bs) : exactTotal as = exactTotal bs := by
  induction h with
  | nil => rfl
  | cons a _ ih => rw [exactTotal, exactTotal, ih]
  | swap a b as => simp only [exactTotal, Nat.add_left_comm]
  | trans _ _ ih ih' => rw [ih, ih']

/-- Whether a sum is an amount, and which, is a matter of the exact sum. -/
theorem total?_perm {as bs : List UInt64} (h : as.Perm bs) (start : UInt64) :
    total? start as = total? start bs := by
  have hexact := exactTotal_perm h
  cases hbs : total? start bs with
  | none => rwa [total?_eq_none, hexact, ← total?_eq_none]
  | some sum =>
    cases has : total? start as with
    | none =>
      rw [total?_eq_none, hexact, ← total?_eq_none, hbs] at has
      cases has
    | some sum' =>
      have hsum := toNat_of_total? has
      rw [hexact, ← toNat_of_total? hbs] at hsum
      rw [UInt64.toNat_inj.mp hsum]

end Ledger

namespace Wallet

open Attempt Ledger Result

variable {u v : World} {w : Wallet} {c : Client} {name recipient : String} {amount : UInt64}
  {e : Error} {us us' : List Unspent}

/-! ## Worlds with the same files -/

/-- The files are the same, and relative paths begin at the same place. -/
structure SameFiles (u v : World) : Prop where
  files : u.files = v.files
  start : u.start = v.start

theorem Store.listed_congr (h : SameFiles u v) (s : Store) : s.listed u = s.listed v := by
  rw [listed, listed, h.files, h.start]

namespace Keystore

variable {k : Keystore}

theorem perform_wallet (k : Keystore) (name : String) (v : World) :
    (k.wallet name).perform v =
      (k.store.listed v >>= fun ws =>
        (ws.find? (·.name == name)).elim (.error (.walletNotFound name)) .ok, v) := by
  cases hlisted : k.store.listed v with
  | error e => exact perform_wallet_of_unreadable hlisted
  | ok ws =>
    cases hfind : ws.find? (·.name == name) with
    | none => simp [perform_wallet_of_unknown hlisted hfind, hfind]
    | some w => simp [perform_wallet_eq_ok.mpr ⟨rfl, ws, hlisted, hfind⟩, hfind]

theorem wallet_cases (k : Keystore) (name : String) (v : World) :
    (∃ w, (k.wallet name).perform v = (.ok w, v)) ∨
      ∃ e, (k.wallet name).perform v = (.error e, v) := by
  rw [perform_wallet]
  cases k.store.listed v >>= fun ws =>
      (ws.find? (·.name == name)).elim (.error (.walletNotFound name)) Except.ok with
  | error e => exact .inr ⟨e, rfl⟩
  | ok w => exact .inl ⟨w, rfl⟩

theorem perform_wallet_congr (h : SameFiles u v) {result : Except Error Wallet}
    (hv : (k.wallet name).perform v = (result, v)) :
    (k.wallet name).perform u = (result, u) := by
  rw [perform_wallet, Prod.mk.injEq] at hv
  rw [perform_wallet, Store.listed_congr h, hv.1]

theorem perform_loadKey_congr (h : SameFiles u v) :
    ((k.loadKey w).perform u).1 = ((k.loadKey w).perform v).1 := by
  rw [perform_loadKey, perform_loadKey, h.files, h.start]

end Keystore

namespace Client

/-! ## Balances -/

theorem totalOf_perm (h : us.Perm us') : totalOf us = totalOf us' := by
  rw [totalOf, totalOf, total?_perm (h.map _)]

theorem perform_balance_of_error (h : (c.keystore.wallet name).perform v = (.error e, v)) :
    (c.balance name).perform v = (.error e, v) := by
  unfold balance
  exact perform_bind_error h _

theorem balance_congr (h : SameFiles u v) (hu : u.node u.asked c.node .unspent = .ok us')
    (hv : v.node v.asked c.node .unspent = .ok us)
    (hperm : ∀ w, (c.keystore.wallet name).perform v = (.ok w, v) →
      (owned w us).Perm (owned w us')) :
    ((c.balance name).perform u).1 = ((c.balance name).perform v).1 := by
  rcases c.keystore.wallet_cases name v with ⟨w, hw⟩ | ⟨e, he⟩
  · rw [perform_balance_of_unspent hw hv,
      perform_balance_of_unspent (Keystore.perform_wallet_congr h hw) hu, totalOf_perm (hperm w hw)]
  · rw [perform_balance_of_error he,
      perform_balance_of_error (Keystore.perform_wallet_congr h he)]

/-! ## Transfers -/

theorem Ready.congr (h : SameFiles u v) (hv : Ready c name recipient amount v w) :
    Ready c name recipient amount u w :=
  ⟨Keystore.perform_wallet_congr h hv.wallet, hv.amount, hv.recipient⟩

/-- A transfer that is refused before the node is asked is refused by the files alone. -/
theorem prepareTransfer_congr_of_not_ready (h : SameFiles u v)
    (hready : ¬∃ w, Ready c name recipient amount v w) :
    ((c.prepareTransfer name recipient amount).perform u).1 =
      ((c.prepareTransfer name recipient amount).perform v).1 := by
  rcases c.keystore.wallet_cases name v with ⟨w, hw⟩ | ⟨e, he⟩
  · have hwu := Keystore.perform_wallet_congr h hw
    by_cases hzero : amount = 0
    · rw [hzero, perform_prepareTransfer_of_zero hw, perform_prepareTransfer_of_zero hwu]
    · cases hcheck : Address.check recipient with
      | error fault =>
        rw [perform_prepareTransfer_of_stray hw hzero hcheck,
          perform_prepareTransfer_of_stray hwu hzero hcheck]
      | ok => exact absurd ⟨w, hw, hzero, hcheck⟩ hready
  · rw [perform_prepareTransfer_of_error he,
      perform_prepareTransfer_of_error (Keystore.perform_wallet_congr h he)]

theorem prepareTransfer_congr (h : SameFiles u v) (hu : u.node u.asked c.node .unspent = .ok us')
    (hv : v.node v.asked c.node .unspent = .ok us)
    (hsame : ∀ w, (c.keystore.wallet name).perform v = (.ok w, v) → owned w us = owned w us')
    (recipient : String) (amount : UInt64) :
    ((c.prepareTransfer name recipient amount).perform u).1 =
      ((c.prepareTransfer name recipient amount).perform v).1 := by
  by_cases hready : ∃ w, Ready c name recipient amount v w
  · obtain ⟨w, hready⟩ := hready
    rw [perform_prepareTransfer_of_unspent hready hv,
      perform_prepareTransfer_of_unspent (hready.congr h) hu, hsame w hready.wallet,
      Keystore.perform_loadKey_congr h]
  · exact prepareTransfer_congr_of_not_ready h hready

theorem insufficientFunds_congr (hfunds : c.keystore.protector.KnowsNoFunds) (h : SameFiles u v)
    (hu : u.node u.asked c.node .unspent = .ok us') (hv : v.node v.asked c.node .unspent = .ok us)
    (hperm : ∀ w, (c.keystore.wallet name).perform v = (.ok w, v) →
      (owned w us).Perm (owned w us'))
    (recipient : String) (amount need available : UInt64) :
    ((c.prepareTransfer name recipient amount).perform u).1 =
        .error (.insufficientFunds need available) ↔
      ((c.prepareTransfer name recipient amount).perform v).1 =
        .error (.insufficientFunds need available) := by
  by_cases hready : ∃ w, Ready c name recipient amount v w
  · obtain ⟨w, hready⟩ := hready
    rw [insufficientFunds_iff hfunds (hready.congr h) hu, insufficientFunds_iff hfunds hready hv,
      totalOf_perm (hperm w hready.wallet)]
  · rw [prepareTransfer_congr_of_not_ready h hready]

/-- Two snapshots with the same outputs of a wallet come to the same balance and the same transfers.
If they only list them in different orders, the balance and what it is too small for are still the
same. -/
theorem results_of_owned (h : SameFiles u v) (hu : u.node u.asked c.node .unspent = .ok us')
    (hv : v.node v.asked c.node .unspent = .ok us) (name : String) :
    let balance (x : World) := ((c.balance name).perform x).1
    let prepared (x : World) recipient amount :=
      ((c.prepareTransfer name recipient amount).perform x).1
    let found w := (c.keystore.wallet name).perform v = (.ok w, v)
    ((∀ w, found w →
        us.filter (·.output.address == w.address) = us'.filter (·.output.address == w.address)) →
      balance u = balance v ∧ ∀ recipient amount,
        prepared u recipient amount = prepared v recipient amount) ∧
    ((∀ w, found w →
        (us.filter (·.output.address == w.address)).Perm
          (us'.filter (·.output.address == w.address))) →
      balance u = balance v ∧ (c.keystore.protector.KnowsNoFunds →
        ∀ recipient amount need available,
          prepared u recipient amount = .error (.insufficientFunds need available) ↔
            prepared v recipient amount = .error (.insufficientFunds need available))) ∧
    ∀ w, found w → us.filter (·.output.address == w.address) = [] → balance v = .ok 0 := by
  intro balance prepared found
  refine ⟨?_, ?_, ?_⟩
  · intro hsame
    exact ⟨balance_congr h hu hv fun w hw => .of_eq (hsame w hw),
      prepareTransfer_congr h hu hv hsame⟩
  · intro hperm
    exact ⟨balance_congr h hu hv hperm, fun hfunds => insufficientFunds_congr hfunds h hu hv hperm⟩
  · intro w hw hnone
    have hbalance := perform_balance_of_unspent hw hv
    rw [show owned w us = [] from hnone] at hbalance
    exact congrArg Prod.fst hbalance

theorem two_lt_order : 2 < Curve.order := by
  unfold Curve.order
  omega

def strangerSecret : Curve.SecretKey := ⟨2, Nat.zero_lt_two, two_lt_order⟩

def strangerAddress : String := Key.address strangerSecret.point

/-- The same outputs of the wallet in another order, and a stranger who owns all that can be owned. -/
def shuffledUnspent : List Unspent :=
  [⟨"02", 0, ⟨8, sampleWallet.address⟩⟩, ⟨"09", 0, ⟨18446744073709551615, strangerAddress⟩⟩,
   ⟨"00", 0, ⟨3, sampleWallet.address⟩⟩, ⟨"01", 0, ⟨4, sampleWallet.address⟩⟩]

theorem owned_shuffled :
    owned sampleWallet shuffledUnspent =
      [⟨"02", 0, ⟨8, sampleWallet.address⟩⟩, ⟨"00", 0, ⟨3, sampleWallet.address⟩⟩,
       ⟨"01", 0, ⟨4, sampleWallet.address⟩⟩] := by
  have hne : strangerAddress ≠ sampleWallet.address := by decide +kernel
  simp [owned, shuffledUnspent, Unspent.isOwnedBy, Unspent.owner, hne]

theorem results_of_owned_shuffled :
    let u : World := .atRoot sampleWorld.files shuffledUnspent
    ((sampleClient.balance "alice").perform u).1 = .ok 15 ∧
      ((sampleClient.prepareTransfer "alice" "QUJD" 20).perform u).1 =
        .error (.insufficientFunds 20 15) := by
  intro u
  have hwallet := perform_wallet_sample
  have hnode : sampleWorld.node sampleWorld.asked sampleClient.node .unspent = .ok sampleUnspent :=
    rfl
  have hbalance : ((sampleClient.balance "alice").perform sampleWorld).1 = .ok 15 := by
    rw [perform_balance_of_unspent hwallet hnode, owned_sample]
    rfl
  have hshort : ((sampleClient.prepareTransfer "alice" "QUJD" 20).perform sampleWorld).1 =
      .error (.insufficientFunds 20 15) := by
    rw [insufficientFunds_iff Protector.knowsNoFunds_plain
      ⟨hwallet, by decide, by decide +kernel⟩ hnode, owned_sample]
    exact ⟨rfl, rfl, by decide⟩
  have hnode' : u.node u.asked sampleClient.node .unspent = .ok shuffledUnspent := rfl
  have hshuffled : (owned sampleWallet sampleUnspent).Perm (owned sampleWallet shuffledUnspent) := by
    rw [owned_sample, owned_shuffled]
    exact @List.perm_append_comm _ [_, _] [_]
  obtain ⟨-, hperm, -⟩ :=
    results_of_owned (u := u) (v := sampleWorld) ⟨rfl, rfl⟩ hnode' hnode "alice"
  obtain ⟨hsame, hfunds⟩ := hperm (by
    intro w hw
    obtain rfl := Except.ok.inj (congrArg Prod.fst (hwallet.symm.trans hw))
    exact hshuffled)
  exact ⟨hsame.trans hbalance, (hfunds Protector.knowsNoFunds_plain _ _ _ _).mpr hshort⟩

end Client

end Wallet

end UtxoWallet
