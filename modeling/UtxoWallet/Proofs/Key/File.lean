import UtxoWallet.Key.File
import UtxoWallet.Proofs.Bytes.Pem
import UtxoWallet.Proofs.Key.Address
import UtxoWallet.Proofs.Text.Blank

/-! # A key file reads back as it was written -/

namespace UtxoWallet.Key

open Curve

/-! ## Bytes -/

/-- The point in the place that it has in a key file. -/
def placedPoint (k : SecretKey) : List UInt8 :=
  Der.write ⟨Der.contextual 1, Der.write ⟨Der.bitString, Der.wholeBytes k.point.uncompressed⟩⟩

theorem placedPoint_eq_cons (k : SecretKey) :
    ∃ rest, placedPoint k = Der.contextual 1 :: rest := ⟨_, rfl⟩

theorem length_placedPoint_le (k : SecretKey) : (placedPoint k).length ≤ 78 := by
  have hpoint := length_write_point_le k.point
  have hshort : (Der.write ⟨Der.bitString, Der.wholeBytes k.point.uncompressed⟩).length <
      Der.lengthLimit := by
    rw [Der.lengthLimit]
    omega
  exact (Der.length_write_le (e := ⟨Der.contextual 1, _⟩) hshort).trans
    (Nat.add_le_add_right hpoint 6)

theorem writeSecret_eq (k : SecretKey) :
    writeSecret k = Der.write ⟨Der.sequence, Der.write ⟨Der.integer, version⟩ ++
      (Der.write ⟨Der.octetString, k.bytes⟩ ++ placedPoint k)⟩ := by
  rw [← List.append_assoc]
  rfl

/-- There is no curve to step over before the point. -/
theorem skipCurve_placedPoint (k : SecretKey) : skipCurve (placedPoint k) = some (placedPoint k) := by
  obtain ⟨rest, hrest⟩ := placedPoint_eq_cons k
  rw [hrest, skipCurve, if_neg (by decide)]

theorem skipPlace_placedPoint (k : SecretKey) : skipPlace (placedPoint k) = some (placedPoint k) := by
  obtain ⟨rest, hrest⟩ := placedPoint_eq_cons k
  rw [hrest, skipPlace, if_neg (by decide)]

theorem readPoint_placedPoint (k : SecretKey) :
    readPoint (placedPoint k) = some (some k.point.uncompressed) := by
  have hpoint := length_write_point_le k.point
  have hshort : k.point.uncompressed.length + 1 < Der.lengthLimit := by
    rw [k.point.length_uncompressed]
    decide
  have hbits := Der.readBitString_write hshort []
  rw [List.append_nil] at hbits
  have hne : (placedPoint k).isEmpty = false := rfl
  rw [readPoint, hne, placedPoint,
    Der.only_write (by decide) (by rw [Der.lengthLimit]; omega)]
  simp [hbits, guard]

theorem readScalar_bytes (k : SecretKey) : readScalar k.bytes = some k := by
  have hlength : k.bytes.length = width := BigEndian.length_bytes _ _
  rw [readScalar, k.value_bytes, k.ofNat?_scalar, hlength]
  rfl

theorem readSecret_writeSecret (k : SecretKey) : readSecret (writeSecret k) = some k := by
  have hlength : k.bytes.length = width := BigEndian.length_bytes _ _
  have hbytes : k.bytes.length < Der.lengthLimit := by
    rw [hlength]
    decide
  have hversion : (Der.write ⟨Der.integer, version⟩).length = 3 := by decide
  have hscalar := Der.length_write_le (e := ⟨Der.octetString, k.bytes⟩) hbytes
  have hplaced := length_placedPoint_le k
  have hcontent : (Der.write ⟨Der.integer, version⟩ ++
      (Der.write ⟨Der.octetString, k.bytes⟩ ++ placedPoint k)).length < Der.lengthLimit := by
    rw [List.length_append, List.length_append, hversion, Der.lengthLimit]
    simp only [hlength, width] at hscalar
    omega
  have hreadVersion : ∀ rest, Der.readTag Der.integer (Der.write ⟨Der.integer, version⟩ ++ rest) =
      some (version, rest) := Der.readTag_write (by decide) (by decide)
  have hreadScalar : ∀ rest, Der.readTag Der.octetString
      (Der.write ⟨Der.octetString, k.bytes⟩ ++ rest) = some (k.bytes, rest) :=
    Der.readTag_write (by decide) hbytes
  have hbelongs : belongs k k.point.uncompressed = true := by simp [belongs]
  rw [readSecret, writeSecret_eq, Der.only_write (by decide) hcontent]
  simp [hreadVersion, hreadScalar, skipCurve_placedPoint, skipPlace_placedPoint,
    readPoint_placedPoint, readScalar_bytes, hbelongs, guard]

/-! ## Text -/

/-- A written key without the line end behind it. -/
theorem exists_encode_eq (k : SecretKey) :
    ∃ text, Pem.encode label (writeSecret k) = text ++ ['\n'] ∧
      text.head? = some '-' ∧ text.getLast? = some '-' := by
  refine ⟨_, rfl, rfl, ?_⟩
  rw [List.getLast?_append]
  rfl

/-- Blanks around a written key do no harm. -/
theorem ofPem_blanks_pem (k : SecretKey) (front back : List Char)
    (hfront : ∀ c ∈ front, Text.isBlank c = true) (hback : ∀ c ∈ back, Text.isBlank c = true) :
    ofPem (String.ofList front ++ pem k ++ String.ofList back) = .ok k := by
  obtain ⟨text, htext, hhead, hlast⟩ := exists_encode_eq k
  have hends : ∀ c ∈ '\n' :: back, Text.isBlank c = true := by
    rw [List.forall_mem_cons]
    exact ⟨by decide, hback⟩
  have htrim : Text.trimBlanks (String.ofList front ++ pem k ++ String.ofList back).toList = text := by
    rw [String.toList_append, String.toList_append, pem, String.toList_ofList,
      String.toList_ofList, String.toList_ofList, htext, List.append_assoc, List.append_assoc,
      List.singleton_append, ← List.append_assoc]
    refine Text.trimBlanks_of_ends hfront hends ?_ ?_
    · rw [hhead]
      rintro c ⟨⟩
      decide
    · rw [hlast]
      rintro c ⟨⟩
      decide
  rw [ofPem, htrim, Pem.decode_of_encode htext, Option.bind_some, readSecret_writeSecret]
  rfl

theorem ofPem_pem (k : SecretKey) : ofPem (pem k) = .ok k := by
  have hblanks := ofPem_blanks_pem k [] [] (by simp) (by simp)
  simpa using hblanks

end UtxoWallet.Key
