import UtxoWallet.Proofs.Key.File
import UtxoWallet.Proofs.Ledger.Draft
import UtxoWallet.Proofs.Ledger.Signing
import UtxoWallet.Proofs.Wallet.Reading
import UtxoWallet.Proofs.Wallet.Store

/-! # What a prepared transfer is -/

namespace UtxoWallet.Wallet

open Attempt Ledger Result Selection

variable {c : Client} {sender recipient : String} {amount : UInt64} {v v' : World}
  {tx : Transaction}

namespace Client

/-! ## The way to a transfer -/

/-- A transfer is prepared exactly when each step succeeds, and nothing changes but that the node
was asked once. -/
theorem perform_prepareTransfer_eq_ok :
    (c.prepareTransfer sender recipient amount).perform v = (.ok tx, v') ↔
      v' = { v with asked := v.asked ++ [⟨c.node, .unspent⟩] } ∧
      ∃ w unspent k secret,
        (c.keystore.wallet sender).perform v = (.ok w, v) ∧
        Address.check recipient = .ok () ∧
        v.node v.asked c.node .unspent = .ok unspent ∧
        amount ≠ 0 ∧ Covers 0 amount.toNat (owned w unspent) k ∧
        sumTo (owned w unspent) k < UInt64.size ∧
        (c.keystore.loadKey w).perform v = (.ok secret, v) ∧
        (transferOf (owned w unspent) k amount recipient w.address).sign secret = .ok tx := by
  unfold prepareTransfer
  simp only [perform_bind_eq_ok, perform_unless_eq_ok, perform_ofExcept, perform_unspentOutputs,
    Keystore.perform_loadKey, Prod.mk.injEq, mapError_eq_ok, Json.map_eq_ok]
  constructor
  · rintro ⟨w, u, hw, hne, _, _, ⟨hcheck, rfl⟩, us, _, ⟨⟨unspent, hus, rfl⟩, rfl⟩, draft, _,
      ⟨hdraft, rfl⟩, secret, _, ⟨hsecret, rfl⟩, hsign, rfl⟩
    obtain ⟨rfl, -⟩ := Keystore.perform_wallet_eq_ok.mp hw
    obtain ⟨-, k, hcover, hlt, rfl⟩ := transfer_eq_ok_iff.mp hdraft
    exact ⟨rfl, w, unspent, k, secret, hw, hcheck, hus, hne, hcover, hlt,
      ⟨hsecret, trivial⟩, hsign⟩
  · rintro ⟨rfl, w, unspent, k, secret, hw, hcheck, hus, hne, hcover, hlt, ⟨hsecret, -⟩, hsign⟩
    exact ⟨w, v, hw, hne, (), v, ⟨hcheck, rfl⟩, _, _, ⟨⟨unspent, hus, rfl⟩, rfl⟩, _, _,
      ⟨transfer_eq_ok_iff.mpr ⟨hne, k, hcover, hlt, rfl⟩, rfl⟩, secret, _, ⟨hsecret, rfl⟩,
      hsign, rfl⟩

end Client

/-! ## The transfer itself -/

/-- What a transfer has to be that spends the first `k` of a wallet's outputs. -/
structure IsTransfer (w : Wallet) (us : List Unspent) (k : Nat) (amount : UInt64)
    (recipient : String) (tx : Transaction) : Prop where
  covers : Covers 0 amount.toNat us k
  bounded : sumTo us k ≤ 2 ^ 64 - 1
  inputs : tx.inputs.map (fun i => (i.outputHash, i.outputIndex)) =
    (us.take k).map fun u => (u.outputHash, u.outputIndex)
  outputs : tx.outputs = paidOutputs us k amount recipient w.address
  balanced : exactTotal tx.amounts = sumTo us k
  index : tx.index = 0
  hash : tx.hash = Hex.text (Sha256.digest tx.preimage.toUTF8.data.toList)
  signed : ∃ signature, signature ≠ "" ∧ ∀ i ∈ tx.inputs, i.signature = signature
  verified : ∃ key, Key.ofAddress w.address = .ok key ∧ tx.verify key = .ok ()

theorem isTransfer_of_sign {w : Wallet} {us : List Unspent} {k : Nat} {secret : Curve.SecretKey}
    (hcover : Covers 0 amount.toNat us k) (hlt : sumTo us k < UInt64.size)
    (hkey : Key.ofAddress w.address = .ok secret.point)
    (hsign : (transferOf us k amount recipient w.address).sign secret = .ok tx) :
    IsTransfer w us k amount recipient tx := by
  have hverify := Transaction.verify_of_sign hsign
  obtain ⟨digest, sig, -, -, rfl⟩ := Transaction.sign_eq_ok_iff.mp hsign
  refine ⟨hcover, Nat.le_sub_one_of_lt hlt, ?_, rfl, ?_, rfl, ?_, ?_, secret.point, hkey, hverify⟩
  · simp only [Transaction.withSignature, transferOf, unhashedTransfer, List.map_map]
    rfl
  · exact exactTotal_paidOutputs hlt (by simpa using hcover.enough)
  · show _ = Transaction.computedHash _
    rw [Transaction.computedHash_withSignature]
    exact Transaction.computedHash_congr rfl
  · refine ⟨Hex.text sig.toDer, text_toDer_ne_empty sig, ?_⟩
    simp [Transaction.withSignature]

/-- Whatever transfer is prepared spends the fewest first outputs of the wallet that do, pays the
recipient and gives back the rest, and is signed with the wallet's key. -/
theorem isTransfer_of_prepareTransfer
    (h : (c.prepareTransfer sender recipient amount).perform v = (.ok tx, v')) :
    ∃ w unspent k,
      (c.keystore.wallet sender).perform v = (.ok w, v) ∧
      v.node v.asked c.node .unspent = .ok unspent ∧
      IsTransfer w (unspent.filter (·.output.address == w.address)) k amount recipient tx := by
  obtain ⟨-, w, unspent, k, secret, hw, -, hus, -, hcover, hlt, hkey, hsign⟩ :=
    Client.perform_prepareTransfer_eq_ok.mp h
  exact ⟨w, unspent, k, hw, hus,
    isTransfer_of_sign hcover hlt (Keystore.ofAddress_of_loadKey hkey) hsign⟩

/-- The least secret. -/
def sampleSecret : Curve.SecretKey := ⟨1, by decide, by decide⟩

def sampleWallet : Wallet := ⟨"alice", "key", Key.address sampleSecret.point⟩

def sampleUnspent : List Unspent :=
  [⟨"00", 0, ⟨3, sampleWallet.address⟩⟩, ⟨"00", 1, ⟨9, "QUJD"⟩⟩,
   ⟨"01", 0, ⟨4, sampleWallet.address⟩⟩, ⟨"02", 0, ⟨8, sampleWallet.address⟩⟩]

def sampleWorld : World :=
  .atRoot ⟨[(["wallets"], .file sampleWallet.record Files.usualMode),
    (["key"], .file (Key.pem sampleSecret).toUTF8 keyFileMode)]⟩ sampleUnspent

def sampleClient : Client := ⟨⟨⟨""⟩, .plain⟩, "http://localhost"⟩

theorem listed_of_read_sample {s : Store} {v : World}
    (h : v.files.read v.start s.recordPath = .ok sampleWallet.record) :
    s.listed v = .ok [sampleWallet] :=
  Store.listed_of_record (check_eq_ok_iff.mpr ⟨by decide, by decide, Key.check_address _⟩) h

theorem perform_wallet_sample : (sampleClient.keystore.wallet "alice").perform sampleWorld =
    (.ok sampleWallet, sampleWorld) :=
  Keystore.perform_wallet_eq_ok.mpr ⟨rfl, [sampleWallet], listed_of_read_sample rfl, rfl⟩

theorem owned_sample :
    Client.owned sampleWallet sampleUnspent =
      [⟨"00", 0, ⟨3, sampleWallet.address⟩⟩, ⟨"01", 0, ⟨4, sampleWallet.address⟩⟩,
       ⟨"02", 0, ⟨8, sampleWallet.address⟩⟩] := by
  have hne : "QUJD" ≠ sampleWallet.address := by
    intro heq
    have hlength := Key.length_address sampleSecret.point
    rw [show Key.address sampleSecret.point = "QUJD" from heq.symm] at hlength
    exact absurd hlength (by decide)
  simp [Client.owned, sampleUnspent, Unspent.isOwnedBy, Unspent.owner, hne]

theorem perform_loadKey_of_read {s : Store} {v : World}
    (h : v.files.read v.start (s.keyPath sampleWallet) = .ok (Key.pem sampleSecret).toUTF8) :
    ((Keystore.mk s .plain).loadKey sampleWallet).perform v = (.ok sampleSecret, v) := by
  have hpem := Key.ofPem_pem sampleSecret
  have htext : textOf (Key.pem sampleSecret).toUTF8 = .ok (Key.pem sampleSecret) := by
    rw [textOf, Text.fromUTF8?_toUTF8]
    rfl
  have hkey : (Keystore.mk s .plain).readKey sampleWallet (Key.pem sampleSecret).toUTF8 =
      .ok sampleSecret :=
    bind_eq_ok.mpr ⟨_, htext, bind_eq_ok.mpr ⟨_, mapError_eq_ok.mpr hpem,
      if_neg (not_not.mpr rfl)⟩⟩
  rw [Keystore.perform_loadKey, h, mapError_ok, ok_bind, hkey]

theorem covers_sample : Covers 0 (5 : UInt64).toNat (Client.owned sampleWallet sampleUnspent) 2 := by
  rw [owned_sample]
  refine ⟨by decide, by decide, by decide, ?_⟩
  intro j hpos hlt
  obtain rfl : j = 1 := by omega
  decide

/-- Five units can be sent from the sample's wallet, wherever its records, its key and its outputs
are found. -/
theorem exists_prepared_sample {c : Client} {v : World}
    (hwallet : (c.keystore.wallet "alice").perform v = (.ok sampleWallet, v))
    (hunspent : v.node v.asked c.node .unspent = .ok sampleUnspent)
    (hkey : (c.keystore.loadKey sampleWallet).perform v = (.ok sampleSecret, v)) :
    ∃ tx, (c.prepareTransfer "alice" "QUJD" 5).perform v =
      (.ok tx, { v with asked := v.asked ++ [⟨c.node, .unspent⟩] }) := by
  have hlt : sumTo (Client.owned sampleWallet sampleUnspent) 2 < UInt64.size := by
    rw [owned_sample]
    decide
  have hsome : (Curve.Signature.sign sampleSecret (transferOf
      (Client.owned sampleWallet sampleUnspent) 2 5 "QUJD" sampleWallet.address).digest).isSome =
      true := by
    rw [owned_sample]
    decide +kernel
  obtain ⟨sig, hsig⟩ := Option.isSome_iff_exists.mp hsome
  have hsign := Transaction.sign_eq_ok_iff.mpr
    ⟨_, sig, Transaction.currentDigest_of_hash (chosen_ne_nil covers_sample) hash_transferOf, hsig, rfl⟩
  exact ⟨_, Client.perform_prepareTransfer_eq_ok.mpr ⟨rfl, sampleWallet, sampleUnspent, 2,
    sampleSecret, hwallet, by decide +kernel, hunspent, by decide, covers_sample, hlt, hkey, hsign⟩⟩

theorem isTransfer_of_prepareTransfer_sample :
    ∃ tx v' w unspent k,
      (sampleClient.prepareTransfer "alice" "QUJD" 5).perform sampleWorld = (.ok tx, v') ∧
      sampleWorld.node [] sampleClient.node .unspent = .ok unspent ∧
      IsTransfer w (unspent.filter (·.output.address == w.address)) k 5 "QUJD" tx := by
  obtain ⟨tx, hprepare⟩ := exists_prepared_sample (c := sampleClient) perform_wallet_sample rfl
    (perform_loadKey_of_read rfl)
  obtain ⟨w, unspent, k, -, hunspent, htransfer⟩ := isTransfer_of_prepareTransfer hprepare
  exact ⟨_, _, w, unspent, k, hprepare, hunspent, htransfer⟩

end UtxoWallet.Wallet
