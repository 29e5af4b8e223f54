import UtxoWallet.Proofs.Attempt
import UtxoWallet.Proofs.Curve.Signature
import UtxoWallet.Proofs.Key.Address
import UtxoWallet.Wallet.Client

/-! # What is read changes nothing -/

namespace UtxoWallet.Wallet

open Attempt Result

variable {v v' : World} {w : Wallet} {name : String}

/-! ## Records -/

namespace Store

variable (s : Store)

/-- The wallets that the record file holds. -/
def listed (v : World) : Except Error (List Wallet) :=
  ofRecordFile (v.files.read v.start s.recordPath)

@[simp] theorem perform_list (v : World) : s.list.perform v = (s.listed v, v) := rfl

@[simp] theorem perform_find (name : String) (v : World) :
    (s.find name).perform v = ((s.listed v).map (·.find? (·.name == name)), v) := by
  rw [find]
  cases h : s.listed v with
  | error e => exact perform_bind_error (by rw [perform_list, h]) _
  | ok ws => exact perform_bind_ok (by rw [perform_list, h]) _

theorem perform_find_of_listed {s : Store} {v : World} {ws : List Wallet} (h : s.listed v = .ok ws)
    (name : String) : (s.find name).perform v = (.ok (ws.find? (·.name == name)), v) := by
  rw [perform_find, h]
  rfl

end Store

/-! ## Wallets and keys -/

namespace Keystore

variable {k : Keystore}

theorem perform_wallet_eq_ok :
    (k.wallet name).perform v = (.ok w, v') ↔
      v' = v ∧ ∃ ws, k.store.listed v = .ok ws ∧ ws.find? (·.name == name) = some w := by
  rw [wallet, perform_bind_eq_ok]
  simp only [Store.perform_find, Prod.mk.injEq]
  constructor
  · rintro ⟨found, u, ⟨hfound, rfl⟩, hw⟩
    obtain ⟨ws, hws, rfl⟩ := Json.map_eq_ok.mp hfound
    split at hw
    · next w' hsome =>
      obtain ⟨⟨⟩, rfl⟩ := Prod.mk.inj hw
      exact ⟨rfl, ws, hws, hsome⟩
    · cases (Prod.mk.inj hw).1
  · rintro ⟨rfl, ws, hws, hsome⟩
    exact ⟨some w, _, ⟨Json.map_eq_ok.mpr ⟨ws, hws, hsome⟩, rfl⟩, rfl⟩

theorem perform_loadKey (w : Wallet) (v : World) :
    (k.loadKey w).perform v =
      ((v.files.read v.start (k.store.keyPath w)).mapError .io >>= k.readKey w, v) := by
  rw [loadKey]
  cases h : v.files.read v.start (k.store.keyPath w) with
  | error fault => exact perform_bind_error (by rw [perform_file, World.file, h]; rfl) _
  | ok stored =>
    rw [perform_bind_ok (x := stored) (v := v) (by rw [perform_file, World.file, h]; rfl)]
    cases hkey : k.readKey w stored <;> simp [hkey]

theorem address_of_readKey {stored : ByteArray} {secret : Curve.SecretKey}
    (h : k.readKey w stored = .ok secret) : Key.address secret.point = w.address := by
  rw [readKey, bind_eq_ok] at h
  obtain ⟨pem, -, h⟩ := h
  rw [bind_eq_ok] at h
  obtain ⟨secret', -, h⟩ := h
  split at h
  · cases h
  · next heq =>
    rw [← Except.ok.inj h]
    exact not_not.mp heq

/-- A key that is loaded is the one that the wallet's address stands for. -/
theorem ofAddress_of_loadKey {secret : Curve.SecretKey}
    (h : (k.loadKey w).perform v = (.ok secret, v')) :
    Key.ofAddress w.address = .ok secret.point := by
  rw [perform_loadKey, Prod.mk.injEq, bind_eq_ok] at h
  obtain ⟨⟨stored, -, hkey⟩, -⟩ := h
  rw [← address_of_readKey hkey]
  exact Key.ofAddress_address secret.valid_point

end Keystore

/-! ## Funds -/

theorem Client.perform_unspentOutputs (c : Client) (w : Wallet) (v : World) :
    (c.unspentOutputs w).perform v =
      (((v.node v.asked c.node .unspent).mapError .network).map (owned w),
        { v with asked := v.asked ++ [⟨c.node, .unspent⟩] }) := by
  rw [unspentOutputs]
  cases h : v.node v.asked c.node .unspent with
  | error e => exact perform_bind_error (by rw [perform_node, h]; rfl) _
  | ok us => exact perform_bind_ok (by rw [perform_node, h]; rfl) _

end UtxoWallet.Wallet
