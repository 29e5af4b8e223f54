import UtxoWallet.Ledger.Address
import UtxoWallet.Text.Blank

/-! # What a checked address is made of -/

namespace UtxoWallet

open Text

theorem toNat_of_isAlphanum {c : Char} (h : c.isAlphanum = true) :
    48 ≤ c.toNat ∧ c.toNat ≤ 57 ∨ 65 ≤ c.toNat ∧ c.toNat ≤ 90 ∨ 97 ≤ c.toNat ∧ c.toNat ≤ 122 := by
  delta Char.isAlphanum Char.isAlpha Char.isUpper Char.isLower Char.isDigit at h
  simp only [Bool.or_eq_true, Bool.and_eq_true, decide_eq_true_eq, ge_iff_le,
    UInt32.le_iff_toNat_le] at h
  have hval : c.toNat = c.val.toNat := rfl
  simp at h
  omega

theorem isBlank_of_isAlphanum {c : Char} (h : c.isAlphanum = true) : isBlank c = false := by
  have hrange := toNat_of_isAlphanum h
  rw [← Bool.not_eq_true, isBlank, inRanges_iff]
  simp only [blankRanges, List.mem_cons, List.not_mem_nil, or_false, exists_eq_or_imp,
    exists_eq_left, not_or, not_and, Nat.not_le]
  omega

namespace Address

theorem isBlank_of_isBase64 {c : Char} (h : isBase64 c = true) : isBlank c = false := by
  simp only [isBase64, Bool.or_eq_true, beq_iff_eq] at h
  rcases h with ((halnum | rfl) | rfl) | rfl
  · exact isBlank_of_isAlphanum halnum
  · decide
  · decide
  · decide

theorem lt_of_isBase64 {c : Char} (h : isBase64 c = true) : c.toNat < 128 := by
  simp only [isBase64, Bool.or_eq_true, beq_iff_eq] at h
  rcases h with ((halnum | rfl) | rfl) | rfl
  · have hrange := toNat_of_isAlphanum halnum
    omega
  · decide
  · decide
  · decide

theorem firstStray_eq_none_iff (position : Nat) {cs : List Char} :
    firstStray position cs = none ↔ ∀ c ∈ cs, isBase64 c = true := by
  induction cs generalizing position with
  | nil => simp [firstStray]
  | cons c cs ih =>
    rw [firstStray, List.forall_mem_cons]
    split
    · next hc => rw [ih]; simp [hc]
    · next hc => simp [hc]

theorem check_eq_ok_iff {address : String} :
    check address = .ok () ↔
      address.isEmpty = false ∧ ∀ c ∈ address.toList, isBase64 c = true := by
  rw [check, ← firstStray_eq_none_iff 0]
  split
  · next hempty => simp [hempty]
  · next hempty =>
    cases firstStray 0 address.toList <;> simp [hempty]

end Address

end UtxoWallet
