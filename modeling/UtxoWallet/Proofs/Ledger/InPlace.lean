import UtxoWallet.Proofs.Ledger.Preimage

/-! # Signing in place

A caller hands over a transaction of its own and finds it changed, or as it was, after the call.
-/

namespace UtxoWallet.Ledger

open Curve

/-! ## Work on a transaction -/

/-- Statements that read and change one transaction, and may fail on the way. -/
abbrev Work (α : Type) := ExceptT Error (StateM Transaction) α

namespace Work

variable {α β : Type} {tx tx' : Transaction}

/-- What comes out, and the transaction as it is then. -/
def on (x : Work α) (tx : Transaction) : Except Error α × Transaction := x.run.run tx

theorem on_bind_ok {x : Work α} {a : α} (h : x.on tx = (.ok a, tx')) (f : α → Work β) :
    (x >>= f).on tx = (f a).on tx' := by
  unfold on at *
  rw [ExceptT.run_bind, StateT.run_bind]
  show (match (x.run.run tx) with | (r, s) => _ : Id _) = _
  rw [h]
  rfl

theorem on_bind_error {x : Work α} {e : Error} (h : x.on tx = (.error e, tx'))
    (f : α → Work β) : (x >>= f).on tx = (.error e, tx') := by
  unfold on at *
  simp only [ExceptT.run_bind, StateT.run_bind]
  rw [h]
  rfl

theorem on_get : on get tx = (.ok tx, tx) := rfl

theorem on_ofExcept (x : Except Error α) : on (ofExcept x) tx = (x, tx) := by
  cases x
  · rfl
  · rfl

end Work

namespace Transaction

variable {tx tx' signed : Transaction} {secret : SecretKey} {text : String} {e : Error}

/-- Sets the signature of one input. -/
def writeSignature (text : String) (place : Nat) : Work Unit :=
  modify fun tx => { tx with inputs := tx.inputs.modify place ({ · with signature := text }) }

/-- Looks first, then writes input by input. -/
def signing (secret : SecretKey) : Work Unit := do
  let tx ← get
  let digest ← ofExcept tx.currentDigest
  match Signature.sign secret digest with
  | some sig => forM (List.range tx.inputs.length) (writeSignature (Hex.text sig.toDer))
  | none => throw (.signing "signature error")

/-- The first inputs carry the text already, the others what they carried before. -/
def signedUpTo (tx : Transaction) (text : String) (count : Nat) : Transaction :=
  { tx with
    inputs := (tx.inputs.take count).map ({ · with signature := text }) ++ tx.inputs.drop count }

theorem on_writeSignature {count : Nat} (h : count < tx.inputs.length) :
    (writeSignature text count).on (tx.signedUpTo text count) =
      (.ok (), tx.signedUpTo text (count + 1)) := by
  have hlength : ((tx.inputs.take count).map
      ({ · with signature := text } : Input → Input)).length = count := by
    rw [List.length_map, List.length_take, Nat.min_eq_left h.le]
  have hinputs : (tx.signedUpTo text count).inputs.modify count ({ · with signature := text }) =
      (tx.signedUpTo text (count + 1)).inputs := by
    simp only [signedUpTo]
    rw [List.modify_eq_take_drop, List.take_left' hlength, List.drop_left' hlength,
      List.drop_eq_getElem_cons h, List.modifyHead_cons, List.take_succ_eq_append_getElem h,
      List.map_append, List.append_assoc]
    rfl
  show (Except.ok (), ({ tx with
    inputs := (tx.signedUpTo text count).inputs.modify count _ } : Transaction)) = _
  rw [hinputs]
  rfl

theorem on_writeSignatures {count : Nat} (h : count ≤ tx.inputs.length) :
    Work.on (forM (List.range count) (writeSignature text)) tx =
      (.ok (), tx.signedUpTo text count) := by
  induction count with
  | zero => rfl
  | succ count ih =>
    rw [List.range_succ, List.forM_append, Work.on_bind_ok (ih (by omega)), List.forM_cons,
      Work.on_bind_ok (on_writeSignature h)]
    rfl

theorem signedUpTo_length : tx.signedUpTo text tx.inputs.length = tx.withSignature text := by
  simp [signedUpTo, withSignature]

theorem on_signing_of_ok (h : tx.sign secret = .ok signed) :
    (signing secret).on tx = (.ok (), signed) := by
  obtain ⟨digest, sig, hdigest, hsig, rfl⟩ := sign_eq_ok_iff.mp h
  have hlook : Work.on (ofExcept tx.currentDigest) tx = (.ok digest, tx) := by
    rw [Work.on_ofExcept, hdigest]
  rw [signing, Work.on_bind_ok Work.on_get, Work.on_bind_ok hlook, hsig]
  show Work.on (forM _ _) tx = _
  rw [on_writeSignatures (Nat.le_refl _), signedUpTo_length]

theorem on_signing_of_error (h : tx.sign secret = .error e) :
    (signing secret).on tx = (.error e, tx) := by
  rw [signing, Work.on_bind_ok Work.on_get]
  have hlook : Work.on (ofExcept tx.currentDigest) tx = (tx.currentDigest, tx) :=
    Work.on_ofExcept tx.currentDigest
  rcases sign_eq_error_iff.mp h with hrefused | ⟨digest, hdigest, hsig, rfl⟩
  · rw [currentDigest_eq_error_iff.mpr hrefused] at hlook ⊢
    rw [Work.on_bind_error hlook]
  · rw [hdigest] at hlook ⊢
    rw [Work.on_bind_ok hlook, hsig]
    rfl

/-! ## What signing leaves -/

/-- Nothing but the signatures is new. They are one text, and the signer's point accepts it. -/
structure IsSignedBy (secret : SecretKey) (tx signed : Transaction) : Prop where
  kind : signed.kind = tx.kind
  index : signed.index = tx.index
  hash : signed.hash = tx.hash
  outputs : signed.outputs = tx.outputs
  inputs : ∃ text, text ≠ "" ∧ (∀ c ∈ text.toList, isHexDigit c = true) ∧
    signed.inputs = tx.inputs.map fun i => ⟨i.outputHash, i.outputIndex, text⟩
  preimage : signed.preimage = tx.preimage
  isSigned : signed.isSigned = true
  verified : signed.verify secret.point = .ok ()

theorem isSignedBy_of_sign (h : tx.sign secret = .ok signed) : IsSignedBy secret tx signed := by
  have hsigned := isSigned_of_sign h
  have hverified := verify_of_sign h
  obtain ⟨digest, sig, -, -, rfl⟩ := sign_eq_ok_iff.mp h
  refine ⟨rfl, rfl, rfl, rfl, ?_, preimage_withSignature, hsigned, hverified⟩
  refine ⟨Hex.text sig.toDer, text_toDer_ne_empty sig, ?_, rfl⟩
  rw [Hex.text, String.toList_ofList]
  intro c
  exact isHexDigit_of_mem_encode

theorem sign_congr (h : tx'.withSignature "" = tx.withSignature "") :
    tx'.sign secret = tx.sign secret := by
  calc
    tx'.sign secret = (tx'.withSignature "").sign secret := sign_withSignature.symm
    _ = (tx.withSignature "").sign secret := by rw [h]
    _ = tx.sign secret := sign_withSignature

theorem exists_sign_eq_ok (hsigns : (Signature.sign secret tx.digest).isSome = true)
    (hdigest : tx.currentDigest = .ok tx.digest) : ∃ signed, tx.sign secret = .ok signed := by
  obtain ⟨sig, hsig⟩ := Option.isSome_iff_exists.mp hsigns
  exact ⟨_, sign_eq_ok_iff.mpr ⟨_, sig, hdigest, hsig, rfl⟩⟩

theorem sign_eq_error_iff_refused (hsigns : (Signature.sign secret tx.digest).isSome = true) :
    tx.sign secret = .error e ↔ tx.Refused e := by
  rw [sign_eq_error_iff, or_iff_left]
  rintro ⟨digest, hdigest, hnone, -⟩
  obtain ⟨-, -, rfl⟩ := currentDigest_eq_ok_iff.mp hdigest
  rw [hnone] at hsigns
  cases hsigns

theorem on_signing_twice {first : SecretKey}
    (hsigns : (Signature.sign secret tx.digest).isSome = true) :
    (signing secret).on ((signing first).on tx).2 = (signing secret).on tx := by
  cases hfirst : tx.sign first with
  | error e => rw [on_signing_of_error hfirst]
  | ok once =>
    obtain ⟨digest, sig, hdigest, -, rfl⟩ := sign_eq_ok_iff.mp hfirst
    obtain ⟨-, -, rfl⟩ := currentDigest_eq_ok_iff.mp hdigest
    obtain ⟨twice, htwice⟩ := exists_sign_eq_ok hsigns hdigest
    rw [on_signing_of_ok hfirst, on_signing_of_ok htwice]
    exact on_signing_of_ok (sign_withSignature.trans htwice)

/-- Signing either leaves all as it was, for one of two reasons, or writes one new signature over
whatever was there. -/
theorem left_by_signing (hsigns : (Signature.sign secret tx.digest).isSome = true) :
    (∀ e, tx.sign secret = .error e ↔ tx.Refused e) ∧
    (∀ e, tx.sign secret = .error e → (signing secret).on tx = (.error e, tx)) ∧
    (∀ signed, tx.sign secret = .ok signed →
      (signing secret).on tx = (.ok (), signed) ∧ IsSignedBy secret tx signed) ∧
    (∀ tx' : Transaction, tx'.withSignature "" = tx.withSignature "" →
      tx'.sign secret = tx.sign secret) ∧
    ∀ first, (signing secret).on ((signing first).on tx).2 = (signing secret).on tx := by
  refine ⟨?_, ?_, ?_, ?_, ?_⟩
  · intro e
    exact sign_eq_error_iff_refused hsigns
  · intro e
    exact on_signing_of_error
  · intro signed hsigned
    exact ⟨on_signing_of_ok hsigned, isSignedBy_of_sign hsigned⟩
  · intro tx'
    exact sign_congr
  · intro first
    exact on_signing_twice hsigns

/-- One of the two inputs is signed already, with what is no signature. -/
def halfSigned : Transaction :=
  let tx : Transaction :=
    ⟨.standard, 7, "", [⟨"aa", 3, "beef"⟩, ⟨"bb", 0, ""⟩], [⟨10, "QUJD"⟩, ⟨5, "REVG"⟩]⟩
  { tx with hash := tx.computedHash }

theorem isSignedBy_of_halfSigned :
    (Signature.sign ⟨1, by decide, by decide⟩ halfSigned.digest).isSome = true ∧
    ∃ signed, (signing ⟨1, by decide, by decide⟩).on
        ((signing ⟨2, by decide, by decide⟩).on halfSigned).2 = (.ok (), signed) ∧
      IsSignedBy ⟨1, by decide, by decide⟩ halfSigned signed := by
  have hsigns : (Signature.sign ⟨1, by decide, by decide⟩ halfSigned.digest).isSome = true := by
    decide +kernel
  obtain ⟨-, -, hsigned, -, htwice⟩ := left_by_signing hsigns
  obtain ⟨signed, hok⟩ :=
    exists_sign_eq_ok hsigns (currentDigest_of_hash (List.cons_ne_nil _ _) rfl)
  obtain ⟨hon, hby⟩ := hsigned signed hok
  exact ⟨hsigns, signed, (htwice ⟨2, by decide, by decide⟩).trans hon, hby⟩

end Transaction

end UtxoWallet.Ledger
