import UtxoWallet.Bytes.Utf8

/-! # Texts as bytes -/

namespace UtxoWallet.Text

/-! ## Any text -/

theorem fromUTF8?_toUTF8 (s : String) : String.fromUTF8? s.toUTF8 = some s := by
  have hvalid : s.toUTF8.IsValidUTF8 := s.isValidUTF8
  rw [String.fromUTF8?, dif_pos hvalid]
  rfl

theorem toUTF8_of_fromUTF8? {bytes : ByteArray} {s : String} (h : String.fromUTF8? bytes = some s) :
    s.toUTF8 = bytes := by
  rw [String.fromUTF8?] at h
  split at h
  · rw [← Option.some.inj h]
    rfl
  · cases h

theorem toUTF8_append (s t : String) : (s ++ t).toUTF8 = s.toUTF8 ++ t.toUTF8 := rfl

/-! ## Texts of one byte a character -/

theorem utf8Size_of_lt {c : Char} (h : c.toNat < 128) : c.utf8Size = 1 := by
  rw [Char.utf8Size_eq_one_iff, UInt32.le_iff_toNat_le]
  exact Nat.le_of_lt_succ h

theorem utf8EncodeChar_of_lt {c : Char} (h : c.toNat < 128) :
    String.utf8EncodeChar c = [c.toUInt8] :=
  String.utf8EncodeChar_eq_singleton (utf8Size_of_lt h)

/-- Any other character has a byte that is no plain character. -/
theorem exists_mem_utf8EncodeChar {c : Char} (h : 128 ≤ c.toNat) :
    ∃ b ∈ String.utf8EncodeChar c, 128 ≤ b.toNat := by
  have hlast : 128 ≤ (UInt8.ofNat (c.val.toNat % 64 + 128)).toNat := by
    rw [UInt8.toNat_ofNat']
    omega
  refine ⟨UInt8.ofNat (c.val.toNat % 64 + 128), ?_, hlast⟩
  have hlong : ¬c.val.toNat ≤ 127 := Nat.not_le.mpr h
  rw [String.utf8EncodeChar, if_neg hlong]
  split
  · simp
  · split
    · simp
    · simp

/-- The bytes of a text of plain characters are these characters. -/
theorem toList_toUTF8 {cs : List Char} (h : ∀ c ∈ cs, c.toNat < 128) :
    (String.ofList cs).toUTF8.data.toList = cs.map Char.toUInt8 := by
  rw [String.toUTF8_eq_toByteArray, String.toByteArray_ofList, List.utf8Encode,
    List.toList_data_toByteArray]
  induction cs with
  | nil => rfl
  | cons c cs ih =>
    rw [List.forall_mem_cons] at h
    rw [List.flatMap_cons, utf8EncodeChar_of_lt h.1, ih h.2, List.map_cons, List.singleton_append]

theorem utf8ByteSize_of_plain {s : String} (h : ∀ c ∈ s.toList, c.toNat < 128) :
    s.utf8ByteSize = s.toList.length := by
  have hbytes := congrArg List.length (toList_toUTF8 h)
  rw [String.ofList_toList, List.length_map] at hbytes
  exact hbytes

/-- Only plain characters give plain bytes. -/
theorem lt_of_mem_of_bytes {cs : List Char}
    (h : ∀ b ∈ (String.ofList cs).toUTF8.data.toList, b.toNat < 128) : ∀ c ∈ cs, c.toNat < 128 := by
  intro c hc
  refine Nat.not_le.mp fun hlarge => ?_
  obtain ⟨b, hb, hbyte⟩ := exists_mem_utf8EncodeChar hlarge
  refine absurd (h b ?_) (Nat.not_lt.mpr hbyte)
  rw [String.toUTF8_eq_toByteArray, String.toByteArray_ofList, List.utf8Encode,
    List.toList_data_toByteArray]
  exact List.mem_flatMap.mpr ⟨c, hc, hb⟩

theorem ofUInt8_toUInt8 {c : Char} (h : c.toNat < 128) : Char.ofUInt8 c.toUInt8 = c := by
  apply Char.ext
  apply UInt32.toNat_inj.mp
  show c.toNat % 256 = c.toNat
  omega

end UtxoWallet.Text

namespace UtxoWallet.Utf8

/-! ## Reading what was written -/

variable {low high : UInt8} {bs rest : List UInt8} {n tails point : Nat}

theorem takeTails_cons (hlow : low.toNat ≤ n % 64 + 128) (hhigh : n % 64 + 128 ≤ high.toNat) :
    takeTails (tails + 1) low high point (UInt8.ofNat (n % 64 + 128) :: bs) =
      takeTails tails 0x80 0xBF (64 * point + n % 64) bs := by
  have hbyte : (UInt8.ofNat (n % 64 + 128)).toNat = n % 64 + 128 := by
    rw [UInt8.toNat_ofNat']
    omega
  rw [← hbyte] at hlow hhigh
  rw [takeTails, if_pos ⟨UInt8.le_iff_toNat_le.mpr hlow, UInt8.le_iff_toNat_le.mpr hhigh⟩, hbyte,
    Nat.add_sub_cancel]

/-- A byte behind the second one has no other bounds than those of tails. -/
theorem takeTails_cons_full :
    takeTails (tails + 1) 0x80 0xBF point (UInt8.ofNat (n % 64 + 128) :: bs) =
      takeTails tails 0x80 0xBF (64 * point + n % 64) bs := by
  have hlt := Nat.mod_lt n (show 64 > 0 by decide)
  refine takeTails_cons ?_ ?_
  · show 128 ≤ _
    omega
  · show _ ≤ 191
    omega

theorem lead?_two : ∀ n < 32, 2 ≤ n → lead? (UInt8.ofNat (n + 0xC0)) = some ⟨1, 0x80, 0xBF, n⟩ := by
  decide

theorem lead?_three : ∀ n < 16, lead? (UInt8.ofNat (n + 0xE0)) =
    some ⟨2, if n = 0 then 0xA0 else 0x80, if n = 13 then 0x9F else 0xBF, n⟩ := by
  decide

theorem lead?_four : ∀ n < 5, lead? (UInt8.ofNat (n + 0xF0)) =
    some ⟨3, if n = 0 then 0x90 else 0x80, if n = 4 then 0x8F else 0xBF, n⟩ := by
  decide

theorem decode_of_lead {l : Lead} (hn : 128 ≤ n) (hlt : n < 256)
    (hlead : lead? (UInt8.ofNat n) = some l)
    (htails : takeTails l.tails l.low l.high l.bits bs = (some point, rest)) :
    decode (UInt8.ofNat n :: bs) = Char.ofNat point :: decode rest := by
  have hbyte : ¬UInt8.ofNat n < 0x80 := by
    rw [UInt8.lt_iff_toNat_lt, UInt8.toNat_ofNat', Nat.mod_eq_of_lt hlt, Nat.not_lt]
    exact hn
  rw [decode, if_neg hbyte, hlead]
  simp only [htails, Option.map_some, Option.getD_some]

theorem decode_toUInt8 {c : Char} (h : c.toNat < 128) : decode (c.toUInt8 :: bs) = c :: decode bs := by
  have hbyte : c.toUInt8.toNat < 128 := Nat.lt_of_le_of_lt (Nat.mod_le _ _) h
  rw [decode, if_pos (UInt8.lt_iff_toNat_lt.mpr hbyte), Text.ofUInt8_toUInt8 h]

/-- The bytes of a character read as this character. The bounds of the second byte leave out what
would be too small for that many bytes, no character, or too large. -/
theorem decode_utf8EncodeChar (c : Char) (bs : List UInt8) :
    decode (String.utf8EncodeChar c ++ bs) = c :: decode bs := by
  by_cases hplain : c.toNat < 128
  · rw [Text.utf8EncodeChar_of_lt hplain, List.singleton_append, decode_toUInt8 hplain]
  have hlarge : ¬c.val.toNat ≤ 127 := fun hle => hplain (Nat.lt_succ_of_le hle)
  have hvalid : c.val.toNat < 0xD800 ∨ 0xDFFF < c.val.toNat ∧ c.val.toNat < 0x110000 := c.valid
  have hpoint : ∀ m, m = c.val.toNat → Char.ofNat m = c := by
    rintro _ rfl
    exact Char.ofNat_toNat c
  rw [String.utf8EncodeChar, if_neg hlarge]
  generalize c.val.toNat = n at hlarge hvalid hpoint ⊢
  split
  · next htwo =>
    have hmod : n / 64 % 32 = n / 64 := Nat.mod_eq_of_lt (by omega)
    rw [← hpoint (64 * (n / 64) + n % 64) (by omega), hmod]
    exact decode_of_lead (by omega) (by omega) (lead?_two _ (by omega) (by omega)) takeTails_cons_full
  · split
    · next htwo hthree =>
      have hmod : n / 4096 % 16 = n / 4096 := Nat.mod_eq_of_lt (by omega)
      rw [← hpoint (64 * (64 * (n / 4096) + n / 64 % 64) + n % 64) (by omega), hmod]
      refine decode_of_lead (by omega) (by omega) (lead?_three _ (by omega)) ?_
      refine (takeTails_cons ?_ ?_).trans takeTails_cons_full
      · dsimp only
        split
        · show 160 ≤ _
          omega
        · show 128 ≤ _
          omega
      · dsimp only
        split
        · show _ ≤ 159
          omega
        · show _ ≤ 191
          omega
    · next hthree =>
      have hmod : n / 262144 % 8 = n / 262144 := Nat.mod_eq_of_lt (by omega)
      rw [← hpoint (64 * (64 * (64 * (n / 262144) + n / 4096 % 64) + n / 64 % 64) + n % 64)
        (by omega), hmod]
      refine decode_of_lead (by omega) (by omega) (lead?_four _ (by omega)) ?_
      refine ((takeTails_cons ?_ ?_).trans takeTails_cons_full).trans takeTails_cons_full
      · dsimp only
        split
        · show 144 ≤ _
          omega
        · show 128 ≤ _
          omega
      · dsimp only
        split
        · show _ ≤ 143
          omega
        · show _ ≤ 191
          omega

/-- A text reads from its bytes as it was. -/
theorem text_toUTF8 (s : String) : text s.toUTF8 = s := by
  have hdecode : ∀ cs : List Char, decode (cs.flatMap String.utf8EncodeChar) = cs := by
    intro cs
    induction cs with
    | nil => rw [List.flatMap_nil, decode]
    | cons c cs ih => rw [List.flatMap_cons, decode_utf8EncodeChar, ih]
  rw [← String.ofList_toList (s := s), text, String.toUTF8_eq_toByteArray,
    String.toByteArray_ofList, List.utf8Encode, List.toList_data_toByteArray, hdecode]

end UtxoWallet.Utf8
