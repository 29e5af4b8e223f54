import UtxoWallet.Bytes.Hex

/-! # What hexadecimal text is made of, and how it is read -/

namespace UtxoWallet.Hex

theorem digit_of_mem_encode {bytes : List UInt8} {c : Char} (h : c ∈ encode bytes) :
    ∃ n < 16, c = Nat.digitChar n := by
  induction bytes with
  | nil => cases h
  | cons b bs ih =>
    have hb := b.toNat_lt
    rw [encode, List.mem_cons, List.mem_cons] at h
    rcases h with rfl | rfl | h
    · exact ⟨_, by omega, rfl⟩
    · exact ⟨_, by omega, rfl⟩
    · exact ih h

theorem length_encode (bytes : List UInt8) : (encode bytes).length = 2 * bytes.length := by
  induction bytes with
  | nil => rfl
  | cons b bs ih =>
    rw [encode, List.length_cons, List.length_cons, ih, List.length_cons]
    omega

/-! ## Digits of either case -/

theorem toLower_digitChar {n : Nat} (h : n < 16) :
    (Nat.digitChar n).toLower = Nat.digitChar n := by
  revert n
  decide

theorem map_toLower_encode (bytes : List UInt8) :
    (encode bytes).map Char.toLower = encode bytes := by
  rw [← List.map_id (encode bytes), List.map_map]
  apply List.map_congr_left
  intro c hc
  obtain ⟨n, hn, rfl⟩ := digit_of_mem_encode hc
  exact toLower_digitChar hn

theorem digitValue?_toLower (c : Char) : digitValue? c.toLower = digitValue? c := by
  have hupper : ∀ n < 91, 65 ≤ n →
      digitValue? (Char.ofNat n).toLower = digitValue? (Char.ofNat n) := by decide
  by_cases h : c.val ≥ 'A'.val ∧ c.val ≤ 'Z'.val
  · have hc := hupper c.toNat (Nat.lt_succ_of_le (UInt32.le_iff_toNat_le.mp h.2))
      (UInt32.le_iff_toNat_le.mp h.1)
    rwa [Char.ofNat_toNat] at hc
  · have hsame : c.toLower = c := dif_neg h
    rw [hsame]

theorem decode_map_toLower (cs : List Char) : decode (cs.map Char.toLower) = decode cs := by
  induction cs using decode.induct with
  | case1 => rfl
  | case2 c => rfl
  | case3 c d cs ih => simp only [List.map_cons, decode, digitValue?_toLower, ih]

theorem le_of_digitValue? {c : Char} {n : Nat} (h : digitValue? c = some n) : c ≤ 'f' := by
  unfold digitValue? at h
  split at h
  · next hdigit => exact Char.le_trans hdigit.2 (by decide)
  · split at h
    · next hlower => exact hlower.2
    · split at h
      · next hupper => exact Char.le_trans hupper.2 (by decide)
      · cases h

theorem toLower_of_digitValue? {c : Char} {n : Nat} (h : digitValue? c = some n) :
    n < 16 ∧ c.toLower = Nat.digitChar n := by
  have hall : ∀ m ≤ 'f'.toNat, ∀ n ∈ digitValue? (Char.ofNat m),
      n < 16 ∧ (Char.ofNat m).toLower = Nat.digitChar n := by decide
  have hc := hall c.toNat (UInt32.le_iff_toNat_le.mp (le_of_digitValue? h)) n
  rw [Char.ofNat_toNat] at hc
  exact hc h

/-- Up to case, bytes are read from what they are written as and from nothing else. -/
theorem decode_eq_some_iff {cs : List Char} {bytes : List UInt8} :
    decode cs = some bytes ↔ cs.map Char.toLower = encode bytes := by
  constructor
  · intro h
    induction cs using decode.induct generalizing bytes with
    | case1 =>
      cases h
      rfl
    | case2 c => cases h
    | case3 c d cs ih =>
      simp only [decode, Option.bind_eq_bind, Option.bind_eq_some_iff, Option.pure_def,
        Option.some.injEq] at h
      obtain ⟨high, hhigh, low, hlow, rest, hrest, rfl⟩ := h
      obtain ⟨hhigh, hc⟩ := toLower_of_digitValue? hhigh
      obtain ⟨hlow, hd⟩ := toLower_of_digitValue? hlow
      have hbyte : (UInt8.ofNat (16 * high + low)).toNat = 16 * high + low := by
        rw [UInt8.toNat_ofNat']
        omega
      have hdiv : (16 * high + low) / 16 = high := by omega
      have hmod : (16 * high + low) % 16 = low := by omega
      simp only [List.map_cons, encode, hbyte, hdiv, hmod, hc, hd, ih hrest]
  · intro h
    rw [← decode_map_toLower, h, decode_encode]

end UtxoWallet.Hex
