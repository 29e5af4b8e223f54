import UtxoWallet.Bytes.Base64
import UtxoWallet.Proofs.Bytes.Utf8
import UtxoWallet.Proofs.Result

/-! # Base64 reads back as it was written -/

namespace UtxoWallet

namespace Base64

/-! ## Symbols -/

theorem symbol_lt {n : Nat} (h : n < 64) : (symbol n).toNat < 128 := by
  revert n
  decide

theorem symbol_ne_padding {n : Nat} (h : n < 64) : symbol n ≠ '=' := by
  revert n
  decide

theorem byteValue?_symbol {n : Nat} (h : n < 64) : byteValue? (symbol n).toUInt8 = some n := by
  rw [byteValue?, Text.ofUInt8_toUInt8 (symbol_lt h), value?_symbol h]

theorem symbol_of_mem_encode {bytes : List UInt8} {c : Char} (h : c ∈ encode bytes) :
    ∃ n < 64, symbol n = c := by
  obtain ⟨n, hn, rfl⟩ := List.mem_map.mp h
  exact ⟨n, sextets_lt bytes n hn, rfl⟩

/-- Only plain characters have values. -/
theorem lt_of_value? {c : Char} (h : (value? c).isSome = true) : c.toNat < 128 := by
  have hle : ∀ last : Char, last.toNat < 128 → c ≤ last → c.toNat < 128 := by
    intro last hlast hc
    exact Nat.lt_of_le_of_lt (UInt32.le_iff_toNat_le.mp hc) hlast
  unfold value? at h
  split at h
  · next hupper => exact hle 'Z' (by decide) hupper.2
  · split at h
    · next hlower => exact hle 'z' (by decide) hlower.2
    · split at h
      · next hdigit => exact hle '9' (by decide) hdigit.2
      · split at h
        · next hplus => exact hplus ▸ (by decide)
        · split at h
          · next hslash => exact hslash ▸ (by decide)
          · cases h

/-- Each value is that of one symbol. -/
theorem symbol_of_value? {c : Char} {n : Nat} (h : value? c = some n) : n < 64 ∧ symbol n = c := by
  have hall : ∀ m < 128, ∀ n ∈ value? (Char.ofNat m), n < 64 ∧ symbol n = Char.ofNat m := by decide
  have hc := hall c.toNat (lt_of_value? (h ▸ rfl)) n
  rw [Char.ofNat_toNat] at hc
  exact hc h

/-! ## Sizes -/

/-- Whole groups are written on their own. -/
theorem sextets_append {front : List UInt8} (h : front.length % 3 = 0) (back : List UInt8) :
    sextets (front ++ back) = sextets front ++ sextets back := by
  fun_induction sextets front with
  | case1 a b c rest ih =>
    simp only [List.length_cons] at h
    simp only [List.cons_append, sextets, ih (by omega)]
  | case2 a b => simp at h
  | case3 a => simp at h
  | case4 => rfl

theorem encode_append {front : List UInt8} (h : front.length % 3 = 0) (back : List UInt8) :
    encode (front ++ back) = encode front ++ encode back := by
  rw [encode, sextets_append h, List.map_append, encode, encode]

theorem length_encode (bytes : List UInt8) :
    (encode bytes).length = (4 * bytes.length + 2) / 3 := by
  rw [encode, List.length_map]
  fun_induction sextets bytes with
  | case1 a b c rest ih =>
    simp only [List.length_cons, ih]
    omega
  | case2 a b => simp
  | case3 a => simp
  | case4 => simp

/-! ## Padding -/

theorem padding_not_mem_encode (bytes : List UInt8) : '=' ∉ encode bytes := by
  intro hmem
  obtain ⟨n, hn, hsymbol⟩ := symbol_of_mem_encode hmem
  exact symbol_ne_padding hn hsymbol

theorem unpadded_of_not_mem {cs : List Char} (h : '=' ∉ cs) : unpadded cs = cs := by
  rcases List.eq_nil_or_concat cs with rfl | ⟨front, last, rfl⟩
  · rfl
  · rw [List.concat_eq_append] at h ⊢
    refine Text.dropTrailing_append_singleton (decide_eq_false ?_)
    rintro rfl
    exact h (by simp)

/-- Any padding behind a written text is taken off, and nothing else. -/
theorem unpadded_encode (bytes : List UInt8) (count : Nat) :
    unpadded (encode bytes ++ List.replicate count '=') = encode bytes := by
  rw [unpadded, Text.dropTrailing_append_of_all (by simp), ← unpadded,
    unpadded_of_not_mem (padding_not_mem_encode bytes)]

/-! ## Without padding -/

theorem firstStray_eq_none {offset : Nat} {text : List UInt8}
    (h : ∀ b ∈ text, (byteValue? b).isSome = true) : firstStray offset text = none := by
  induction text generalizing offset with
  | nil => rfl
  | cons b bs ih =>
    rw [List.forall_mem_cons] at h
    rw [firstStray, if_neg (by simp [Option.isSome_iff_ne_none.mp h.1]), ih h.2]

theorem stray_eq_none {text : List UInt8} (h : ∀ b ∈ text, (byteValue? b).isSome = true) :
    stray text = none := by
  rw [stray]
  split
  · next b hb =>
    have hmem := List.mem_of_getLast? hb
    rw [if_neg (by simp [Option.isSome_iff_ne_none.mp (h b hmem)]), firstStray_eq_none h]
  · rfl

theorem decode_encode (bytes : List UInt8) :
    decode ((encode bytes).map Char.toUInt8) = .ok bytes := by
  have hvalues : ((encode bytes).map Char.toUInt8).map byteValue? = (sextets bytes).map some := by
    rw [encode, List.map_map, List.map_map]
    refine List.map_congr_left fun n hn => ?_
    exact byteValue?_symbol (sextets_lt bytes n hn)
  have hall : ∀ b ∈ (encode bytes).map Char.toUInt8, (byteValue? b).isSome = true := by
    intro b hb
    have hmem : byteValue? b ∈ (sextets bytes).map some := hvalues ▸ List.mem_map_of_mem hb
    obtain ⟨n, -, hn⟩ := List.mem_map.mp hmem
    rw [← hn, Option.isSome_some]
  have hsextets : ((encode bytes).map Char.toUInt8).filterMap byteValue? = sextets bytes := by
    have hread := congrArg (List.filterMap id) hvalues
    rw [List.filterMap_map, List.filterMap_map (f := some), Function.id_comp, Function.id_comp,
      List.filterMap_some] at hread
    exact hread
  rw [decode, stray_eq_none hall, hsextets, octets_sextets]

/-! ## One spelling -/

/-- Sextets are spelt again as they were, for no bit of theirs is lost. -/
theorem sextets_of_octets {ns : List Nat} (hns : ∀ n ∈ ns, n < 64) {bytes : List UInt8}
    (h : octets ns = .ok bytes) : sextets bytes = ns := by
  induction ns using octets.induct generalizing bytes with
  | case1 s t u v rest ih =>
    simp only [List.forall_mem_cons] at hns
    obtain ⟨hs, ht, hu, hv, hrest⟩ := hns
    rw [octets, Result.bind_eq_ok] at h
    obtain ⟨tail, htail, hbytes⟩ := h
    rw [← Except.ok.inj hbytes, sextets, ih hrest htail]
    simp only [UInt8.toNat_ofNat', List.cons.injEq, and_true]
    omega
  | case2 s t u hu =>
    simp only [List.forall_mem_cons] at hns
    obtain ⟨hs, ht, hu', -⟩ := hns
    rw [octets, if_pos hu] at h
    rw [← Except.ok.inj h, sextets]
    simp only [UInt8.toNat_ofNat', List.cons.injEq, and_true]
    omega
  | case4 s t ht =>
    simp only [List.forall_mem_cons] at hns
    obtain ⟨hs, ht', -⟩ := hns
    rw [octets, if_pos ht] at h
    rw [← Except.ok.inj h, sextets]
    simp only [UInt8.toNat_ofNat', List.cons.injEq, and_true]
    omega
  | case7 =>
    rw [← Except.ok.inj h]
    rfl
  | case3 s t u hu =>
    rw [octets, if_neg hu] at h
    cases h
  | case5 s t ht =>
    rw [octets, if_neg ht] at h
    cases h
  | case6 => cases h

theorem isSome_of_firstStray {offset : Nat} {text : List UInt8} (h : firstStray offset text = none) :
    ∀ b ∈ text, (byteValue? b).isSome = true := by
  induction text generalizing offset with
  | nil => exact List.forall_mem_nil _
  | cons b bs ih =>
    rw [firstStray] at h
    split at h
    · cases h
    · next hb =>
      rw [List.forall_mem_cons]
      exact ⟨by simpa [Option.isSome_iff_ne_none] using hb, ih h⟩

theorem isSome_of_stray {text : List UInt8} (h : stray text = none) :
    ∀ b ∈ text, (byteValue? b).isSome = true := by
  unfold stray at h
  split at h
  · split at h
    · cases h
    · exact isSome_of_firstStray h
  · next hlast =>
    rw [List.getLast?_eq_none_iff.mp hlast]
    exact List.forall_mem_nil _

theorem isSome_of_decode {text bytes : List UInt8} (h : decode text = .ok bytes) :
    ∀ b ∈ text, (byteValue? b).isSome = true := by
  unfold decode at h
  split at h
  · cases h
  · next hstray => exact isSome_of_stray hstray

theorem map_symbol_filterMap {text : List UInt8} (h : ∀ b ∈ text, (byteValue? b).isSome = true) :
    (text.filterMap byteValue?).map symbol = text.map Char.ofUInt8 := by
  induction text with
  | nil => rfl
  | cons b bs ih =>
    rw [List.forall_mem_cons] at h
    obtain ⟨n, hn⟩ := Option.isSome_iff_exists.mp h.1
    rw [List.filterMap_cons_some hn, List.map_cons, List.map_cons, (symbol_of_value? hn).2, ih h.2]

/-- What stands for bytes is their spelling. -/
theorem encode_of_decode {text bytes : List UInt8} (h : decode text = .ok bytes) :
    encode bytes = text.map Char.ofUInt8 := by
  have hsome := isSome_of_decode h
  unfold decode at h
  split at h
  · cases h
  · split at h
    · next read hread =>
      obtain rfl := Except.ok.inj h
      have hsmall : ∀ n ∈ text.filterMap byteValue?, n < 64 := by
        intro n hn
        obtain ⟨b, -, hb⟩ := List.mem_filterMap.mp hn
        exact (symbol_of_value? hb).1
      rw [encode, sextets_of_octets hsmall hread, map_symbol_filterMap hsome]
    · cases h
    · cases h

/-- The characters too: one that is not plain has a byte that stands for nothing. -/
theorem encode_of_decode_toUTF8 {cs : List Char} {bytes : List UInt8}
    (h : decode (String.ofList cs).toUTF8.data.toList = .ok bytes) : encode bytes = cs := by
  have hplain := Text.lt_of_mem_of_bytes fun b hb => lt_of_value? (isSome_of_decode h b hb)
  rw [encode_of_decode h, Text.toList_toUTF8 hplain, List.map_map]
  exact (List.map_congr_left fun c hc => Text.ofUInt8_toUInt8 (hplain c hc)).trans (List.map_id cs)

/-! ## With padding -/

theorem mapM_value?_symbol {ns : List Nat} (h : ∀ n ∈ ns, n < 64) :
    (ns.map symbol).mapM value? = some ns := by
  induction ns with
  | nil => rfl
  | cons n ns ih =>
    rw [List.forall_mem_cons] at h
    rw [List.map_cons, List.mapM_cons, value?_symbol h.1, ih h.2]
    rfl

theorem decodePadded_encodePadded (bytes : List UInt8) :
    decodePadded (encodePadded bytes) = some bytes := by
  have hbody : unpadded (encodePadded bytes) = encode bytes := unpadded_encode bytes _
  have hlength := length_encode bytes
  have hgroups : (encodePadded bytes).length % 4 = 0 ∧
      (encodePadded bytes).length ≤ (encode bytes).length + 2 := by
    rw [encodePadded, List.length_append, padding, List.length_replicate]
    omega
  simp only [decodePadded, hbody, if_pos hgroups]
  rw [encode, mapM_value?_symbol (sextets_lt bytes), Option.bind_eq_bind, Option.bind_some,
    octets_sextets]
  rfl

theorem mem_encodePadded {bytes : List UInt8} {c : Char} (h : c ∈ encodePadded bytes) :
    (∃ n < 64, symbol n = c) ∨ c = '=' := by
  rw [encodePadded, List.mem_append, padding, List.mem_replicate] at h
  rcases h with hsymbol | ⟨-, hpad⟩
  · exact .inl (symbol_of_mem_encode hsymbol)
  · exact .inr hpad

end Base64

end UtxoWallet
