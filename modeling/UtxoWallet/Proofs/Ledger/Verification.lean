import UtxoWallet.Proofs.Curve.Verification
import UtxoWallet.Proofs.Ledger.InPlace

/-! # What the check of a transaction decides -/

namespace UtxoWallet.Ledger

open Curve Result

/-! ## Texts of signatures -/

/-- Up to case the text is how a signature of the digest is written. -/
def Spells (key : Group) (digest : List UInt8) (text : String) : Prop :=
  ∃ sig : Signature, sig.IsOf key digest ∧ sameIgnoringCase (Hex.text sig.toDer) text = true

theorem accepts_eq_true_iff {key : Point} (hkey : key.Valid) {digest : List UInt8}
    {text : String} : accepts key digest text = true ↔ Spells (key.toGroup hkey) digest text := by
  unfold accepts Spells
  rw [Option.any_eq_true]
  constructor
  · rintro ⟨sig, hsig, hverify⟩
    obtain ⟨bytes, hbytes, hread⟩ := Option.bind_eq_some_iff.mp hsig
    obtain ⟨-, rfl⟩ := Signature.ofDer?_eq_some_iff.mp hread
    exact ⟨sig, (Signature.verify_eq_true_iff hkey).mp hverify,
      sameIgnoringCase_text_iff_decode.mpr hbytes⟩
  · rintro ⟨sig, hof, hspelt⟩
    refine ⟨sig, ?_, (Signature.verify_eq_true_iff hkey).mpr hof⟩
    rw [sameIgnoringCase_text_iff_decode.mp hspelt, Option.bind_some]
    exact Signature.ofDer?_toDer hof.valid

theorem accepts_congr {key : Point} {digest : List UInt8} {text text' : String}
    (h : sameIgnoringCase text text' = true) :
    accepts key digest text = accepts key digest text' := by
  rw [sameIgnoringCase, beq_iff_eq] at h
  unfold accepts
  rw [← Hex.decode_map_toLower, h, Hex.decode_map_toLower]

namespace Transaction

variable {tx tx' : Transaction} {key : Point}

/-! ## Verdicts -/

/-- What there is to say of a transaction. Of several bad signatures the first one counts. -/
inductive Verdict (tx : Transaction) (key : Group) : Except Error Unit → Prop
  | refused {e : Error} (h : tx.Refused e) : Verdict tx key (.error e)
  | bad (place : Nat) (hfits : tx.HashFits) (hlt : place < tx.inputs.length)
    (hbad : ¬Spells key tx.digest tx.inputs[place].signature)
    (hleast : ∀ earlier (h : earlier < place), Spells key tx.digest tx.inputs[earlier].signature) :
    Verdict tx key (.error (.invalidSignature place))
  | good (hne : tx.inputs ≠ []) (hfits : tx.HashFits)
    (hgood : ∀ i ∈ tx.inputs, Spells key tx.digest i.signature) : Verdict tx key (.ok ())

theorem verdict_verify (hkey : key.Valid) : tx.Verdict (key.toGroup hkey) (tx.verify key) := by
  rw [verify]
  cases hdigest : tx.currentDigest with
  | error e => exact .refused (currentDigest_eq_error_iff.mp hdigest)
  | ok digest =>
    obtain ⟨hne, hfits, rfl⟩ := currentDigest_eq_ok_iff.mp hdigest
    rw [ok_bind]
    split
    · next place hplace =>
      obtain ⟨hlt, hbad, hleast⟩ := List.findIdx?_eq_some_iff_getElem.mp hplace
      refine .bad place hfits hlt ?_ ?_
      · rw [← accepts_eq_true_iff hkey]
        simpa using hbad
      · intro earlier hearlier
        rw [← accepts_eq_true_iff hkey]
        simpa using hleast earlier hearlier
    · next hnone =>
      refine .good hne hfits ?_
      intro i hi
      rw [← accepts_eq_true_iff hkey]
      simpa using List.findIdx?_eq_none_iff.mp hnone i hi

theorem verify_of_verdict (hkey : key.Valid) {result : Except Error Unit}
    (h : tx.Verdict (key.toGroup hkey) result) : tx.verify key = result := by
  cases h with
  | refused hrefused =>
    rw [verify, currentDigest_eq_error_iff.mpr hrefused, error_bind]
  | bad place hfits hlt hbad hleast =>
    have hfound : tx.inputs.findIdx? (!accepts key tx.digest ·.signature) = some place := by
      refine List.findIdx?_eq_some_iff_getElem.mpr ⟨hlt, ?_, ?_⟩
      · rw [← accepts_eq_true_iff hkey] at hbad
        simpa using hbad
      · intro earlier hearlier
        simpa using (accepts_eq_true_iff hkey).mpr (hleast earlier hearlier)
    have hne : tx.inputs ≠ [] := List.ne_nil_of_length_pos (by omega)
    rw [verify, currentDigest_eq_ok_iff.mpr ⟨hne, hfits, rfl⟩, ok_bind, hfound]
    rfl
  | good hne hfits hgood =>
    have hnone : tx.inputs.findIdx? (!accepts key tx.digest ·.signature) = none := by
      refine List.findIdx?_eq_none_iff.mpr ?_
      intro i hi
      simpa using (accepts_eq_true_iff hkey).mpr (hgood i hi)
    rw [verify, currentDigest_eq_ok_iff.mpr ⟨hne, hfits, rfl⟩, ok_bind, hnone]
    rfl

/-- Whoever looks at the hash is refused for the same reason. -/
theorem verify_eq_error_iff_sign {e : Error}
    (he : e = .noInputs ∨ ∃ stored computed, e = .staleHash stored computed)
    (secret : SecretKey) : tx.verify key = .error e ↔ tx.sign secret = .error e := by
  rw [verify, sign]
  cases tx.currentDigest with
  | error e' => rw [error_bind, error_bind, Except.error.injEq, Except.error.injEq]
  | ok digest =>
    rw [ok_bind, ok_bind]
    -- What comes behind the look at the hash ends in other errors.
    constructor
    · intro h
      split at h
      · rcases he with rfl | ⟨_, _, rfl⟩ <;> cases h
      · cases h
    · intro h
      split at h
      · cases h
      · rcases he with rfl | ⟨_, _, rfl⟩ <;> cases h

/-! ## Case of letters -/

/-- Only the case of letters differs, in the hash or in signatures. -/
structure SameUpToCase (tx tx' : Transaction) : Prop where
  kind : tx'.kind = tx.kind
  index : tx'.index = tx.index
  hash : sameIgnoringCase tx'.hash tx.hash = true
  refs : tx'.inputs.map (·.ref) = tx.inputs.map (·.ref)
  signatures : List.Forall₂ (fun i i' => sameIgnoringCase i'.signature i.signature = true)
    tx.inputs tx'.inputs
  outputs : tx'.outputs = tx.outputs

end Transaction

/-- The same refusal, of a transaction in which this hash is stored. -/
def Error.withStored (hash : String) : Error → Error
  | .staleHash _ computed => .staleHash hash computed
  | e => e

namespace Transaction

variable {tx tx' : Transaction} {key : Point}

theorem SameUpToCase.preimage_eq (h : tx.SameUpToCase tx') : tx'.preimage = tx.preimage := by
  rw [preimage, preimage, preimageChars, preimageChars, h.index, preimage_of_refs h.refs, h.outputs]

theorem SameUpToCase.currentDigest_eq (h : tx.SameUpToCase tx') :
    tx'.currentDigest = tx.currentDigest.mapError (·.withStored tx'.hash) := by
  have hempty : tx'.inputs.isEmpty = tx.inputs.isEmpty := by
    rw [Bool.eq_iff_iff, List.isEmpty_iff, List.isEmpty_iff, ← List.map_eq_nil_iff, h.refs,
      List.map_eq_nil_iff]
  have hfits : sameIgnoringCase tx.computedHash tx'.hash =
      sameIgnoringCase tx.computedHash tx.hash := by
    have hhash := h.hash
    rw [sameIgnoringCase, beq_iff_eq] at hhash
    rw [sameIgnoringCase, sameIgnoringCase, hhash]
  rw [currentDigest, currentDigest, hempty, computedHash_congr h.preimage_eq, digest, digest,
    h.preimage_eq, hfits]
  split
  · rfl
  · split
    · rfl
    · rfl

theorem findIdx?_accepts_congr {digest : List UInt8} {is is' : List Input}
    (h : List.Forall₂ (fun i i' => sameIgnoringCase i'.signature i.signature = true) is is') :
    is'.findIdx? (!accepts key digest ·.signature) =
      is.findIdx? (!accepts key digest ·.signature) := by
  induction h with
  | nil => rfl
  | cons hfirst _ ih => rw [List.findIdx?_cons, List.findIdx?_cons, accepts_congr hfirst, ih]

theorem SameUpToCase.verify_eq (h : tx.SameUpToCase tx') :
    tx'.verify key = (tx.verify key).mapError (·.withStored tx'.hash) := by
  rw [verify, verify, h.currentDigest_eq]
  cases tx.currentDigest with
  | error e => rfl
  | ok digest =>
    rw [mapError_ok, ok_bind, ok_bind, findIdx?_accepts_congr h.signatures]
    split
    · rfl
    · rfl

/-- The check passes nothing but what is signed throughout, says where it is not, and does not see
the case of letters. -/
theorem verify_decides (hkey : key.Valid) :
    (∀ result, tx.verify key = result ↔ tx.Verdict (key.toGroup hkey) result) ∧
    (∀ secret, tx.verify key = .error .noInputs ↔ tx.sign secret = .error .noInputs) ∧
    (∀ stored computed secret, tx.verify key = .error (.staleHash stored computed) ↔
      tx.sign secret = .error (.staleHash stored computed)) ∧
    (∀ tx', tx.SameUpToCase tx' →
      tx'.verify key = (tx.verify key).mapError (·.withStored tx'.hash)) ∧
    (tx.verify key = .ok () → tx.isSigned = true) := by
  refine ⟨?_, ?_, ?_, ?_, isSigned_of_verify⟩
  · intro result
    constructor
    · rintro rfl
      exact verdict_verify hkey
    · exact verify_of_verdict hkey
  · intro secret
    exact verify_eq_error_iff_sign (.inl rfl) secret
  · intro stored computed secret
    exact verify_eq_error_iff_sign (.inr ⟨_, _, rfl⟩) secret
  · intro tx' hsame
    exact hsame.verify_eq

theorem verdict_of_halfSigned :
    Point.generator.Valid ∧
      halfSigned.Verdict (Point.generator.toGroup valid_generator)
        (.error (.invalidSignature 0)) := by
  have hverify : halfSigned.verify .generator = .error (.invalidSignature 0) := by decide +kernel
  exact ⟨valid_generator, ((verify_decides valid_generator).1 _).mp hverify⟩

end Transaction

end UtxoWallet.Ledger
