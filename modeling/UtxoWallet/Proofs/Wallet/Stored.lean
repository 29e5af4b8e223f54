import UtxoWallet.Proofs.Wallet.InStep

/-! # A stored key comes back

The text of a key is kept byte by byte, and blanks around it do no harm.
-/

namespace UtxoWallet.Wallet

open Files Curve Result

variable {secret : SecretKey}

/-! ## On the way to the file and back -/

theorem Protector.perform_protect_plain (pem : String) (v : World) :
    (Protector.plain.protect pem).perform v = (.ok pem.toUTF8, v) := rfl

theorem Protector.unprotect_plain (pem : String) :
    Protector.plain.unprotect pem.toUTF8 = .ok pem :=
  Protector.recovers_plain pem (.atRoot {} []) _ _ (Protector.perform_protect_plain pem _)

/-! ## Texts of keys -/

theorem ofPem_of_blank_ends {front back : String} (hfront : ∀ c ∈ front.toList, Text.isBlank c = true)
    (hback : ∀ c ∈ back.toList, Text.isBlank c = true) (secret : SecretKey) :
    Key.ofPem (front ++ Key.pem secret ++ back) = .ok secret := by
  have hread := Key.ofPem_blanks_pem secret front.toList back.toList hfront hback
  rwa [String.ofList_toList, String.ofList_toList] at hread

/-! ## Files of keys -/

/-- A key as good as this one: the same scalar, the same address and the same signatures. -/
def AsGood (secret other : SecretKey) : Prop :=
  other.scalar = secret.scalar ∧ Key.address other.point = Key.address secret.point ∧
    ∀ digest, Signature.sign other digest = Signature.sign secret digest

/-- The file at this path is the file of such a key. -/
def KeepsKey (secret : SecretKey) (start : Location) (path : String) (t : Tree) : Prop :=
  ∃ stored pem other, t.read start path = .ok stored ∧
    Protector.plain.unprotect stored = .ok pem ∧ Key.ofPem pem = .ok other ∧ AsGood secret other

theorem keepsKey_of_read {t : Tree} {start : Location} {path : String}
    (h : t.read start path = .ok (Key.pem secret).toUTF8) : KeepsKey secret start path t :=
  ⟨_, _, secret, h, Protector.unprotect_plain _, Key.ofPem_pem secret, rfl, rfl, fun _ => rfl⟩

/-- Every secret key comes back from its text and from the file that it is stored in, whatever files
come later, and no other key has that text. -/
theorem stored_key_returns (secret : SecretKey) :
    (∀ front back : String, (∀ c ∈ front.toList, Text.isBlank c = true) →
      (∀ c ∈ back.toList, Text.isBlank c = true) →
      Key.ofPem (front ++ Key.pem secret ++ back) = .ok secret) ∧
    (∀ v, ∃ stored, (Protector.plain.protect (Key.pem secret)).perform v = (.ok stored, v) ∧
      Protector.plain.unprotect stored = .ok (Key.pem secret) ∧
      ∀ (t t' later : Tree) (start : Location) (path : String) (mode : Nat),
        t.create start path mode stored = .ok t' → Tree.Extends t' later →
        KeepsKey secret start path later) ∧
    ∀ other, other ≠ secret → Key.pem other ≠ Key.pem secret := by
  refine ⟨?_, ?_, ?_⟩
  · intro front back hfront hback
    exact ofPem_of_blank_ends hfront hback secret
  · intro v
    refine ⟨_, Protector.perform_protect_plain _ v, Protector.unprotect_plain _, ?_⟩
    intro t t' later start path mode hcreate hlater
    exact keepsKey_of_read (Tree.read_of_extends hlater (Tree.read_create hcreate))
  · intro other hne hsame
    exact hne (eq_of_read (Key.ofPem_pem other) (Key.ofPem_pem secret) hsame)

/-- A secret whose bytes begin with thirty zeros. -/
def smallSecret : SecretKey := ⟨258, by decide, by decide⟩

theorem stored_key_returns_small :
    smallSecret.bytes.take 30 = List.replicate 30 0 ∧
      Key.ofPem ("\u2003\r\n" ++ Key.pem smallSecret ++ "\u00a0\u3000") = .ok smallSecret ∧
      ∃ t', Tree.create {} [] "id_ecdsa_a" keyFileMode (Key.pem smallSecret).toUTF8 = .ok t' ∧
        KeepsKey smallSecret [] "id_ecdsa_a" t' := by
  obtain ⟨hblanks, hstored, -⟩ := stored_key_returns smallSecret
  obtain ⟨stored, hprotect, -, hkept⟩ := hstored (.atRoot {} [])
  have hcreate : Tree.create {} [] "id_ecdsa_a" keyFileMode (Key.pem smallSecret).toUTF8 =
      .ok (Tree.put {} ["id_ecdsa_a"] (.file (Key.pem smallSecret).toUTF8 keyFileMode)) :=
    Tree.create_eq_ok.mpr ⟨["id_ecdsa_a"], by decide +kernel, by decide +kernel, rfl⟩
  obtain rfl : (Key.pem smallSecret).toUTF8 = stored :=
    Except.ok.inj (congrArg Prod.fst hprotect)
  have hread := hblanks "\u2003\r\n" "\u00a0\u3000" (List.all_eq_true.mp (by decide +kernel))
    (List.all_eq_true.mp (by decide +kernel))
  exact ⟨by decide, hread, _, hcreate, hkept _ _ _ _ _ _ hcreate (Tree.Extends.refl _)⟩

end UtxoWallet.Wallet
