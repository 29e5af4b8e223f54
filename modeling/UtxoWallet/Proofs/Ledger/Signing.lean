import UtxoWallet.Ledger.Signing
import UtxoWallet.Proofs.Bytes.Hex
import UtxoWallet.Proofs.Curve.Signature
import UtxoWallet.Proofs.Result

/-! # What signing does to a transaction -/

namespace UtxoWallet.Ledger

open Curve Result

/-! ## Hashes up to case -/

theorem sameIgnoringCase_refl (s : String) : sameIgnoringCase s s = true := beq_self_eq_true _

theorem sameIgnoringCase_text_iff_decode {bytes : List UInt8} {text : String} :
    sameIgnoringCase (Hex.text bytes) text = true ↔ Hex.decode text.toList = some bytes := by
  rw [Hex.decode_eq_some_iff, sameIgnoringCase, beq_iff_eq, Hex.text, String.toList_ofList,
    Hex.map_toLower_encode, eq_comm]

/-- The texts of two digests are the same up to case only if the digests are. -/
theorem sameIgnoringCase_text_iff {bytes bytes' : List UInt8} :
    sameIgnoringCase (Hex.text bytes) (Hex.text bytes') = true ↔ bytes = bytes' := by
  rw [sameIgnoringCase_text_iff_decode, Hex.text, String.toList_ofList, Hex.decode_encode,
    Option.some.injEq, eq_comm]

/-! ## The text of a signature -/

theorem text_toDer_ne_empty (sig : Signature) : Hex.text sig.toDer ≠ "" := by
  rw [Signature.toDer, Der.write, Hex.text]
  exact fun h => by simpa [Hex.encode] using congrArg String.toList h

theorem accepts_text_toDer {secret : SecretKey} {digest : List UInt8} {sig : Signature}
    (h : Signature.sign secret digest = some sig) :
    accepts secret.point digest (Hex.text sig.toDer) = true := by
  obtain ⟨hvalid, -⟩ := Signature.withNonce_of_sign h
  simp [accepts, Hex.text, Hex.decode_encode, Signature.ofDer?_toDer hvalid,
    Signature.verify_of_sign h]

theorem accepts_empty (key : Point) (digest : List UInt8) : accepts key digest "" = false := rfl

namespace Transaction

variable {tx signed : Transaction} {secret : SecretKey} {digest : List UInt8} {text : String}

/-! ## What signatures leave alone -/

@[simp] theorem preimage_withSignature : (tx.withSignature text).preimage = tx.preimage := by
  simp only [preimage, preimageChars, withSignature, List.flatMap_map]
  rfl

@[simp] theorem withSignature_withSignature {text' : String} :
    (tx.withSignature text').withSignature text = tx.withSignature text := by
  simp only [withSignature, List.map_map]
  rfl

@[simp] theorem digest_withSignature : (tx.withSignature text).digest = tx.digest := by
  rw [Transaction.digest, Transaction.digest, preimage_withSignature]

@[simp] theorem computedHash_withSignature :
    (tx.withSignature text).computedHash = tx.computedHash :=
  computedHash_congr preimage_withSignature

@[simp] theorem currentDigest_withSignature :
    (tx.withSignature text).currentDigest = tx.currentDigest := by
  have hempty : (tx.withSignature text).inputs.isEmpty = tx.inputs.isEmpty := by
    simp [withSignature]
  rw [currentDigest, hempty, computedHash_withSignature, digest_withSignature]
  rfl

@[simp] theorem sign_withSignature : (tx.withSignature text).sign secret = tx.sign secret := by
  simp only [sign, currentDigest_withSignature, withSignature_withSignature]

/-! ## Refusals -/

/-- The stored hash is that of the content, up to case. -/
def HashFits (tx : Transaction) : Prop := sameIgnoringCase tx.computedHash tx.hash = true

/-- Why a transaction is neither signed nor checked. -/
inductive Refused (tx : Transaction) : Error → Prop
  | noInputs (h : tx.inputs = []) : Refused tx .noInputs
  | staleHash (hne : tx.inputs ≠ []) (h : ¬tx.HashFits) :
    Refused tx (.staleHash tx.hash tx.computedHash)

theorem currentDigest_eq_error_iff {e : Error} : tx.currentDigest = .error e ↔ tx.Refused e := by
  unfold currentDigest
  constructor
  · intro h
    split at h
    · next hempty =>
      cases h
      exact .noInputs (List.isEmpty_iff.mp hempty)
    · next hne =>
      split at h
      · cases h
      · next hstale =>
        cases h
        exact .staleHash (by simpa using hne) hstale
  · rintro (hnil | ⟨hne, hstale⟩)
    · simp [hnil]
    · rw [HashFits] at hstale
      rw [if_neg (by simpa using hne), if_neg hstale]

theorem currentDigest_eq_ok_iff :
    tx.currentDigest = .ok digest ↔ tx.inputs ≠ [] ∧ tx.HashFits ∧ digest = tx.digest := by
  unfold currentDigest HashFits
  split
  · next hempty => simp_all
  · next hne =>
    rw [List.isEmpty_iff] at hne
    split
    · next hfits => simp [hne, hfits, eq_comm]
    · next hstale => simp [hstale]

theorem currentDigest_of_hash (hne : tx.inputs ≠ []) (h : tx.hash = tx.computedHash) :
    tx.currentDigest = .ok tx.digest := by
  refine currentDigest_eq_ok_iff.mpr ⟨hne, ?_, rfl⟩
  rw [HashFits, h]
  exact sameIgnoringCase_refl _

/-! ## Results of signing -/

theorem sign_eq_ok_iff :
    tx.sign secret = .ok signed ↔
      ∃ digest sig, tx.currentDigest = .ok digest ∧ Signature.sign secret digest = some sig ∧
        signed = tx.withSignature (Hex.text sig.toDer) := by
  rw [sign, bind_eq_ok]
  constructor
  · rintro ⟨digest, hdigest, hsigned⟩
    split at hsigned
    · next sig hsig => exact ⟨digest, sig, hdigest, hsig, (Except.ok.inj hsigned).symm⟩
    · cases hsigned
  · rintro ⟨digest, sig, hdigest, hsig, rfl⟩
    exact ⟨digest, hdigest, by rw [hsig]; rfl⟩

theorem sign_eq_error_iff {e : Error} :
    tx.sign secret = .error e ↔
      tx.Refused e ∨
        ∃ digest, tx.currentDigest = .ok digest ∧ Signature.sign secret digest = none ∧
          e = .signing "signature error" := by
  rw [← currentDigest_eq_error_iff, sign]
  cases tx.currentDigest with
  | error e' => simp
  | ok digest =>
    rw [ok_bind]
    cases hsig : Signature.sign secret digest with
    | some sig => simp [pure, Except.pure, hsig]
    | none => simp [throw, throwThe, MonadExceptOf.throw, hsig, eq_comm]

/-- Whatever is signed can be checked with the signer's point. -/
theorem verify_of_sign (h : tx.sign secret = .ok signed) :
    signed.verify secret.point = .ok () := by
  obtain ⟨digest, sig, hdigest, hsig, rfl⟩ := sign_eq_ok_iff.mp h
  have hnone : (tx.withSignature (Hex.text sig.toDer)).inputs.findIdx?
      (!accepts secret.point digest ·.signature) = none := by
    rw [List.findIdx?_eq_none_iff, withSignature]
    simp [accepts_text_toDer hsig]
  rw [verify, currentDigest_withSignature, hdigest, ok_bind, hnone]
  rfl

theorem isSigned_of_verify {key : Point} (h : tx.verify key = .ok ()) : tx.isSigned = true := by
  obtain ⟨digest, hdigest, hchecked⟩ := bind_eq_ok.mp h
  obtain ⟨hne, -⟩ := currentDigest_eq_ok_iff.mp hdigest
  split at hchecked
  · cases hchecked
  · next hnone =>
    rw [isSigned, Bool.and_eq_true, Bool.not_eq_true', List.isEmpty_eq_false_iff, List.all_eq_true]
    refine ⟨hne, ?_⟩
    intro i hi
    have haccepts : accepts key digest i.signature = true := by
      simpa using List.findIdx?_eq_none_iff.mp hnone i hi
    rw [Input.isSigned, Bool.not_eq_true', String.isEmpty_eq_false_iff]
    intro hempty
    rw [hempty, accepts_empty] at haccepts
    cases haccepts

theorem isSigned_of_sign (h : tx.sign secret = .ok signed) : signed.isSigned = true :=
  isSigned_of_verify (verify_of_sign h)

/-- Nothing but a look at the hash finds it stale. -/
theorem sign_eq_stale_iff (hne : tx.inputs ≠ []) :
    tx.sign secret = .error (.staleHash tx.hash tx.computedHash) ↔ ¬tx.HashFits := by
  rw [sign_eq_error_iff]
  constructor
  · rintro ((_ | ⟨-, hstale⟩) | ⟨_, -, -, hreason⟩)
    · exact hstale
    · cases hreason
  · intro hstale
    exact .inl (.staleHash hne hstale)

/-- Why signing fails. -/
theorem error_of_sign {e : Error} (h : tx.sign secret = .error e) :
    e = .noInputs ∨ (∃ stored computed, e = .staleHash stored computed) ∨
      ∃ reason, e = .signing reason := by
  rcases sign_eq_error_iff.mp h with (_ | _) | ⟨_, -, -, rfl⟩
  · exact .inl rfl
  · exact .inr (.inl ⟨_, _, rfl⟩)
  · exact .inr (.inr ⟨_, rfl⟩)

end Transaction

end UtxoWallet.Ledger
