import Mathlib.Data.Option.Basic
import UtxoWallet.Bytes.Der
import UtxoWallet.Proofs.Bytes.BigEndian

/-! # An element reads back as it was written -/

namespace UtxoWallet.Der

/-! ## Lengths -/

/-- The length of a length that takes at most four bytes. -/
def lengthLimit : Nat := 256 ^ 4

theorem readLength_writeLength {n : Nat} (h : n < lengthLimit) (rest : List UInt8) :
    readLength (writeLength n ++ rest) = some (n, rest) := by
  rw [writeLength]
  by_cases hshort : n < 0x80
  · have hbyte : (UInt8.ofNat n).toNat = n := by
      rw [UInt8.toNat_ofNat']
      omega
    have hlt : UInt8.ofNat n < 0x80 := by
      rw [UInt8.lt_iff_toNat_lt, hbyte]
      exact hshort
    rw [if_pos hshort, List.singleton_append, readLength, if_pos hlt, hbyte]
  · have hne : BigEndian.least n ≠ [] := BigEndian.least_ne_nil (by omega)
    have hpos : 0 < (BigEndian.least n).length := List.length_pos_iff.mpr hne
    have hle : (BigEndian.least n).length ≤ 4 := BigEndian.length_least_le h
    have hbyte : (UInt8.ofNat (0x80 + (BigEndian.least n).length)).toNat =
        0x80 + (BigEndian.least n).length := by
      rw [UInt8.toNat_ofNat']
      omega
    have hlong : ¬ UInt8.ofNat (0x80 + (BigEndian.least n).length) < 0x80 := by
      rw [UInt8.lt_iff_toNat_lt, hbyte]
      simp
    have hfour : 0x81 ≤ UInt8.ofNat (0x80 + (BigEndian.least n).length) ∧
        UInt8.ofNat (0x80 + (BigEndian.least n).length) ≤ 0x84 := by
      rw [UInt8.le_iff_toNat_le, UInt8.le_iff_toNat_le, hbyte]
      constructor
      · show 0x81 ≤ _
        omega
      · show _ ≤ 0x84
        omega
    rw [if_neg hshort, List.cons_append, readLength, if_neg hlong, if_pos hfour]
    simp only [hbyte, Nat.add_sub_cancel_left, List.take_left, List.drop_left,
      BigEndian.value_least]
    rw [writeLength, if_neg hshort, if_pos rfl]

theorem length_writeLength_le {n : Nat} (h : n < lengthLimit) : (writeLength n).length ≤ 5 := by
  have hle : (BigEndian.least n).length ≤ 4 := BigEndian.length_least_le h
  rw [writeLength]
  split
  · simp
  · rw [List.length_cons]
    omega

/-! ## Elements -/

/-- A tag and a length take at most six bytes. -/
theorem write_of_length {e : Element} {n : Nat} (h : e.content.length = n) (hn : n < 0x80) :
    write e = e.tag :: UInt8.ofNat n :: e.content := by
  rw [write, h, writeLength, if_pos hn, List.cons_append, List.cons_append, List.nil_append]

theorem length_write_le {e : Element} (h : e.content.length < lengthLimit) :
    (write e).length ≤ e.content.length + 6 := by
  have hle := length_writeLength_le h
  rw [write, List.length_append, List.length_cons]
  omega

theorem read_write {e : Element} (htag : isTag e.tag = true) (h : e.content.length < lengthLimit)
    (rest : List UInt8) : read (write e ++ rest) = some (e, rest) := by
  rw [write, List.cons_append, List.cons_append, List.append_assoc, read]
  simp [htag, readLength_writeLength h, guard]

theorem readTag_write {tag : UInt8} {content : List UInt8} (htag : isTag tag = true)
    (h : content.length < lengthLimit) (rest : List UInt8) :
    readTag tag (write ⟨tag, content⟩ ++ rest) = some (content, rest) := by
  rw [readTag, read_write htag h]
  simp [guard]

theorem only_write {tag : UInt8} {content : List UInt8} (htag : isTag tag = true)
    (h : content.length < lengthLimit) : only tag (write ⟨tag, content⟩) = some content := by
  have hread := readTag_write htag h []
  rw [List.append_nil] at hread
  rw [only, hread]
  simp [guard]

theorem readBitString_write {bytes : List UInt8} (h : bytes.length + 1 < lengthLimit)
    (rest : List UInt8) :
    readBitString (write ⟨bitString, wholeBytes bytes⟩ ++ rest) = some ((0, bytes), rest) := by
  rw [readBitString, readTag_write (by decide) (by simpa [wholeBytes] using h)]
  simp [wholeBytes, guard]

/-! ## One spelling -/

/-- A length that is read is spelt as it would be written. -/
theorem eq_writeLength_of_readLength {bytes rest : List UInt8} {n : Nat}
    (h : readLength bytes = some (n, rest)) : bytes = writeLength n ++ rest := by
  unfold readLength at h
  split at h
  · cases h
  · next b bs =>
    split at h
    · next hshort =>
      cases h
      have hlt : b.toNat < 0x80 := UInt8.lt_iff_toNat_lt.mp hshort
      rw [writeLength, if_pos hlt, UInt8.ofNat_toNat]
      rfl
    · split at h
      · simp only [Option.ite_none_right_eq_some, Option.some.injEq, Prod.mk.injEq] at h
        obtain ⟨hspelt, rfl, rfl⟩ := h
        rw [hspelt, List.cons_append, List.take_append_drop]
      · cases h

theorem eq_write_of_read {bytes rest : List UInt8} {e : Element} (h : read bytes = some (e, rest)) :
    bytes = write e ++ rest := by
  unfold read at h
  split at h
  · cases h
  · next tag bytes =>
    simp only [Option.bind_eq_bind, Option.bind_eq_some_iff, Option.guard_eq_some',
      Option.pure_def, Option.some.injEq, Prod.mk.injEq] at h
    obtain ⟨_, -, ⟨n, after⟩, hlength, _, hroom, rfl, rfl⟩ := h
    rw [write, List.length_take, Nat.min_eq_left hroom, eq_writeLength_of_readLength hlength,
      List.cons_append, List.cons_append, List.append_assoc, List.take_append_drop]

theorem eq_write_of_readTag {tag : UInt8} {bytes content rest : List UInt8}
    (h : readTag tag bytes = some (content, rest)) : bytes = write ⟨tag, content⟩ ++ rest := by
  simp only [readTag, Option.bind_eq_bind, Option.bind_eq_some_iff, Option.guard_eq_some',
    Option.pure_def, Option.some.injEq, Prod.mk.injEq] at h
  obtain ⟨⟨e, after⟩, hread, _, rfl, rfl, rfl⟩ := h
  exact eq_write_of_read hread

theorem eq_write_of_only {tag : UInt8} {bytes content : List UInt8}
    (h : only tag bytes = some content) : bytes = write ⟨tag, content⟩ := by
  simp only [only, Option.bind_eq_bind, Option.bind_eq_some_iff, Option.guard_eq_some',
    Option.pure_def, Option.some.injEq, List.isEmpty_iff] at h
  obtain ⟨⟨content', after⟩, hread, _, rfl, rfl⟩ := h
  rw [eq_write_of_readTag hread, List.append_nil]

theorem eq_write_of_readBitString {bytes bits rest : List UInt8} {unused : UInt8}
    (h : readBitString bytes = some ((unused, bits), rest)) :
    bytes = write ⟨bitString, unused :: bits⟩ ++ rest := by
  simp only [readBitString, Option.bind_eq_bind, Option.bind_eq_some_iff] at h
  obtain ⟨⟨content, after⟩, hread, h⟩ := h
  cases content with
  | nil => cases h
  | cons first others =>
    simp only [Option.bind_eq_some_iff, Option.guard_eq_some', Option.pure_def,
      Option.some.injEq, Prod.mk.injEq] at h
    obtain ⟨_, -, ⟨rfl, rfl⟩, rfl⟩ := h
    exact eq_write_of_readTag hread

theorem length_write (e : Element) :
    (write e).length = 1 + (writeLength e.content.length).length + e.content.length := by
  rw [write, List.length_append, List.length_cons]
  omega

/-! ## Whole numbers -/

theorem value_unsignedContent (n : Nat) : BigEndian.value (unsignedContent n) = n := by
  have hvalue := BigEndian.value_least n
  rw [unsignedContent]
  split
  · next hnil =>
    rw [hnil] at hvalue
    exact hvalue
  · next b bs hcons =>
    rw [hcons] at hvalue
    split
    · exact hvalue
    · rw [BigEndian.value_cons_zero, hvalue]

theorem length_unsignedContent_le {n width : Nat} (h : n < 256 ^ width) :
    (unsignedContent n).length ≤ width + 1 := by
  have hleast := BigEndian.length_least_le h
  rw [unsignedContent]
  split
  · simp
  · next b bs hcons =>
    rw [hcons] at hleast
    split
    · omega
    · simpa using hleast

theorem readUnsigned_write {n width : Nat} (h : n < 256 ^ width) (hwidth : width + 1 < lengthLimit)
    (rest : List UInt8) : readUnsigned (writeUnsigned n ++ rest) = some (n, rest) := by
  have hlength := length_unsignedContent_le h
  rw [readUnsigned, writeUnsigned, readTag_write (by decide) (by omega)]
  simp [value_unsignedContent, guard]

theorem eq_writeUnsigned_of_readUnsigned {bytes rest : List UInt8} {n : Nat}
    (h : readUnsigned bytes = some (n, rest)) : bytes = writeUnsigned n ++ rest := by
  simp only [readUnsigned, Option.bind_eq_bind, Option.bind_eq_some_iff, Option.guard_eq_some',
    Option.pure_def, Option.some.injEq, Prod.mk.injEq] at h
  obtain ⟨⟨content, after⟩, hread, _, hleast, rfl, rfl⟩ := h
  rw [writeUnsigned, ← hleast]
  exact eq_write_of_readTag hread

end UtxoWallet.Der
