import UtxoWallet.Proofs.Ledger.Preimage
import UtxoWallet.Proofs.Node.Exchanges
import UtxoWallet.Proofs.Wallet.Creation
import UtxoWallet.Proofs.Wallet.Sending
import UtxoWallet.Proofs.Wallet.Transfer

/-! # What success says

A transfer succeeds exactly when the node took it, and a wallet is made exactly when its record is
added.
-/

namespace UtxoWallet

open Attempt Result Files

/-! ## Transfers -/

namespace Wallet

open Ledger Node

variable {c : Client} {sender recipient : String} {amount : UInt64} {v v' : World}
  {tx : Transaction} {t : Transport} {result : Except Error Transaction}

theorem Client.isHash_of_transfer
    (h : (c.transfer sender recipient amount).perform v = (.ok tx, v')) : IsHash tx.hash := by
  obtain ⟨tx', u, hprepared, hrest⟩ := perform_bind_eq_ok.mp h
  obtain ⟨_, _, -, ⟨⟩⟩ := perform_bind_eq_ok.mp hrest
  obtain ⟨-, _, _, _, _, -, -, -, -, hcover, hlt, hkey, hsign⟩ :=
    perform_prepareTransfer_eq_ok.mp hprepared
  rw [(isTransfer_of_sign hcover hlt (Keystore.ofAddress_of_loadKey hkey) hsign).hash]
  exact isHash_text_digest _

theorem Client.Preparation.postsNothing {asked : List Asked}
    (h : Preparation c sender recipient amount v result asked) : PostsNothing (t.log asked) := by
  have hnone : PostsNothing (t.log []) := List.forall_mem_nil _
  rcases h.asked_cases with rfl | rfl
  · exact hnone
  · have hone := Transport.postsNothing_concat (a := ⟨c.node, .unspent⟩) hnone rfl
    exact hone

/-- A transfer fails with nothing posted, or it is for the node to say. -/
theorem Client.transfer_cases (hnode : v.node = t.node) (hasked : v.asked = []) (c : Client)
    (sender recipient : String) (amount : UInt64) :
    let sent := (c.transfer sender recipient amount).perform v
    (∃ e, sent.1 = .error e) ∧ PostsNothing (t.log sent.2.asked) ∨
      ∃ tx asked, PostsNothing (t.log asked) ∧ sent.2.asked = asked ++ [⟨c.node, .submit tx⟩] ∧
        ∀ tx', sent.1 = .ok tx' ↔ tx' = tx ∧ t.node asked c.node (.submit tx) = .ok () := by
  intro sent
  obtain ⟨result, asked, hpreparation, hperform⟩ := exists_preparation c sender recipient amount v
  have hnone : PostsNothing (t.log asked) := hpreparation.postsNothing
  rw [hasked, List.nil_append] at hperform
  cases result with
  | error e =>
    have hsent : sent = _ := perform_transfer_of_error hperform
    rw [hsent]
    exact .inl ⟨⟨e, rfl⟩, hnone⟩
  | ok tx =>
    have hsent : sent = _ := perform_transfer_of_ok hperform
    rw [hsent, hnode]
    refine .inr ⟨tx, asked, hnone, rfl, ?_⟩
    intro tx'
    dsimp only
    rw [handedOver_eq_ok]

/-- A transfer succeeds exactly when it led the node to an answer that takes it. -/
theorem Client.transfer_eq_ok_iff_took (hnode : v.node = t.node) (hasked : v.asked = [])
    (c : Client) (sender recipient : String) (amount : UInt64) (tx : Transaction) :
    let sent := (c.transfer sender recipient amount).perform v
    sent.1 = .ok tx ↔ t.Took c.node tx sent.2.asked := by
  intro sent
  rcases transfer_cases hnode hasked c sender recipient amount with
    ⟨⟨e, he⟩, hnone⟩ | ⟨tx', asked, hnone, hlast, hiff⟩
  · simp [sent, he, Transport.not_took_of_postsNothing hnone]
  · rw [hiff tx, hlast, Transport.took_concat_iff hnone]

/-- Where no post is answered with another place, it is the answer to the only post that counts. -/
theorem Client.transfer_eq_ok_iff_accepted (hnode : v.node = t.node) (hasked : v.asked = [])
    (c : Client) (sender recipient : String) (amount : UInt64) (tx : Transaction) :
    let sent := (c.transfer sender recipient amount).perform v
    (∀ x ∈ t.posts sent.2.asked, IsFinal x) →
      (sent.1 = .ok tx ↔ t.Accepted c.node tx sent.2.asked) := by
  intro sent hfinal
  rcases transfer_cases hnode hasked c sender recipient amount with
    ⟨⟨e, he⟩, hnone⟩ | ⟨tx', asked, hnone, hlast, hiff⟩
  · simp [sent, he, Transport.not_accepted_of_postsNothing hnone]
  · rw [hlast] at hfinal
    rw [hiff tx, hlast, Transport.accepted_concat_iff hnone hfinal]

end Wallet

/-! ## Records -/

/-- What a file holds. Where there is none, that is nothing. -/
def Files.Tree.contentAt (t : Tree) (place : Location) : ByteArray :=
  match t.get? place with
  | some (.file content _) => content
  | _ => .empty

theorem Files.Tree.contentAt_eq {t : Tree} {place : Location} {content : ByteArray} {mode : Nat}
    (h : t.get? place = some (.file content mode)) : t.contentAt place = content := by
  rw [contentAt, h]

theorem Files.Tree.AddsDirectories.contentAt_eq {start : Location} {paths : List String}
    {t t' : Tree} (h : AddsDirectories start paths t t') (place : Location) :
    t'.contentAt place = t.contentAt place := by
  unfold contentAt
  rcases h place with hsame | ⟨hnone, hdirectory, -⟩
  · rw [hsame]
  · rw [hnone, hdirectory]

namespace Wallet

open Curve

variable {w w' : Wallet} {v v' : World} {s : Store} {k : Keystore} {secret : SecretKey}
  {made : Tree} {place : Location} {stored old : ByteArray} {mode : Nat}

/-- The record file holds what it held before, and this record behind it. -/
def Store.Appended (s : Store) (w : Wallet) (v v' : World) : Prop :=
  ∃ place, v'.files.target v.start s.recordPath = .ok (.entry place false) ∧
    v'.files.contentAt place = v.files.contentAt place ++ w.record

theorem Store.not_appended (h : ∀ place, v'.files.contentAt place = v.files.contentAt place) :
    ¬s.Appended w v v' := by
  rintro ⟨place, -, hcontent⟩
  rw [h] at hcontent
  have hsize := congrArg ByteArray.size hcontent
  rw [ByteArray.size_append, record, Text.toUTF8_append, ByteArray.size_append] at hsize
  have hend : "\n".toUTF8.size = 1 := rfl
  omega

theorem Keystore.IsMade.appended_iff (h : k.IsMade secret v w v' made place stored old mode) :
    k.store.Appended w' v v' ↔ w'.record = w.record := by
  have haim := Tree.target_of_keepsDirectories h.keepsDirectories h.recordAim
  have hafter := Tree.contentAt_eq (Tree.find_eq_ok.mp h.find_record).2
  have hbefore : v.files.contentAt (place ++ [recordFile]) = old := by
    rw [← h.adds.contentAt_eq]
    rcases h.found with hfile | ⟨hnone, rfl, -⟩
    · exact Tree.contentAt_eq (Tree.find_eq_ok.mp hfile).2
    · rw [Tree.contentAt, (Tree.find_eq_ok.mp hnone).2]
  constructor
  · rintro ⟨place', haim', hcontent⟩
    rw [haim, Except.ok.injEq, Tree.Target.entry.injEq] at haim'
    rw [← haim'.1, hafter, hbefore, ByteArray.append_right_inj] at hcontent
    exact hcontent.symm
  · intro hrecord
    exact ⟨_, haim, by rw [hafter, hbefore, hrecord]⟩

theorem record_eq_iff {name keyRef address address' : String} :
    record ⟨name, keyRef, address⟩ = record ⟨name, keyRef, address'⟩ ↔ address = address' := by
  constructor
  · intro h
    have htext := congrArg String.toList (String.toByteArray_inj.mp h)
    exact String.toList_inj.mp (by simpa [toList_line] using htext)
  · rintro rfl
    rfl

/-- New directories are no part of what the record file holds. -/
theorem Store.appended_congr {u : World} (hstart : u.start = v.start)
    (h : ∀ place, u.files.contentAt place = v.files.contentAt place) :
    s.Appended w u v' ↔ s.Appended w v v' := by
  simp only [Appended, hstart, h]

/-- A record of this name and key file is added exactly if it tells the address of the secret. -/
theorem Keystore.appended_by_createWallet (hquiet : k.protector.IsQuiet) (name address : String)
    (secret : SecretKey) (v : World) :
    k.store.Appended ⟨name, keyFileStart ++ name, address⟩ v
        ((k.createWallet name secret).perform v).2 ↔
      ((k.createWallet name secret).perform v).1 = .ok ⟨name, keyFileStart ++ name, address⟩ := by
  rcases h : (k.createWallet name secret).perform v with ⟨result, v'⟩
  cases result with
  | error e =>
    have hleft := untouched_of_createWallet_eq_error hquiet h
    simp [Store.not_appended hleft.adds.contentAt_eq]
  | ok w =>
    obtain ⟨made, place, stored, old, mode, hmade⟩ := exists_isMade_of_createWallet_eq_ok hquiet h
    obtain ⟨rfl, -⟩ := steps_of_createWallet_eq_ok hquiet h
    rw [hmade.appended_iff, ofSecret, record_eq_iff]
    simp [eq_comm]

end Wallet

end UtxoWallet
