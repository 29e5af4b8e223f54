import UtxoWallet.Key.Address
import UtxoWallet.Proofs.Bytes.Base64
import UtxoWallet.Proofs.Bytes.Der
import UtxoWallet.Proofs.Curve.Encoding
import UtxoWallet.Proofs.Curve.Group
import UtxoWallet.Proofs.Ledger.Address
import UtxoWallet.Proofs.Result

/-! # An address stands for the key that it was made of -/

namespace UtxoWallet.Key

open Curve

/-! ## Keys as bytes -/

def names : List UInt8 :=
  Der.write ⟨Der.objectIdentifier, algorithm⟩ ++ Der.write ⟨Der.objectIdentifier, curve⟩

theorem writePublic_eq (q : Point) :
    writePublic q = Der.write ⟨Der.sequence, Der.write ⟨Der.sequence, names⟩ ++
      Der.write ⟨Der.bitString, Der.wholeBytes q.uncompressed⟩⟩ := rfl

theorem readObjectIdentifier_names :
    Der.readObjectIdentifier names =
      some (algorithm, Der.write ⟨Der.objectIdentifier, curve⟩) := by
  decide

theorem readParameters_curve :
    readParameters (Der.write ⟨Der.objectIdentifier, curve⟩) =
      some (some ⟨Der.objectIdentifier, curve⟩) := by
  decide

theorem length_write_point_le (q : Point) :
    (Der.write ⟨Der.bitString, Der.wholeBytes q.uncompressed⟩).length ≤ 72 := by
  have hlength : (Der.wholeBytes q.uncompressed).length = 66 := by
    rw [Der.wholeBytes, List.length_cons, q.length_uncompressed]
  have hwrite := Der.length_write_le (e := ⟨Der.bitString, Der.wholeBytes q.uncompressed⟩)
  simp only [hlength] at hwrite
  exact hwrite (by decide)

theorem readParts_writePublic (q : Point) :
    readParts (writePublic q) =
      some ⟨algorithm, some ⟨Der.objectIdentifier, curve⟩, 0, q.uncompressed⟩ := by
  have hpoint := length_write_point_le q
  have hnames : (Der.write ⟨Der.sequence, names⟩).length = 21 := by decide
  have hcontent : (Der.write ⟨Der.sequence, names⟩ ++
      Der.write ⟨Der.bitString, Der.wholeBytes q.uncompressed⟩).length < Der.lengthLimit := by
    rw [List.length_append, hnames, Der.lengthLimit]
    omega
  have hshort : q.uncompressed.length + 1 < Der.lengthLimit := by
    rw [q.length_uncompressed]
    decide
  have hbits := Der.readBitString_write hshort []
  rw [List.append_nil] at hbits
  rw [readParts, writePublic_eq, Der.only_write (by decide) hcontent]
  simp [Der.readTag_write, readObjectIdentifier_names, readParameters_curve, hbits, guard,
    show Der.isTag Der.sequence = true by decide, show names.length < Der.lengthLimit by decide]

theorem readPublic_writePublic {q : Point} (h : q.Valid) : readPublic (writePublic q) = .ok q := by
  have hcurve : isCurve ⟨Der.objectIdentifier, curve⟩ = .ok true := by decide
  rw [readPublic, readParts_writePublic]
  simp [Point.ofBytes?_uncompressed h, hcurve]

/-! ## The start of an address -/

/-- What stands before the coordinates in every written key. -/
def header : List UInt8 :=
  [0x30, 0x59] ++ Der.write ⟨Der.sequence, names⟩ ++ [0x03, 0x42, 0x00, 0x04]

theorem writePublic_eq_header (q : Point) :
    writePublic q = header ++ (BigEndian.bytes width q.x ++ BigEndian.bytes width q.y) := by
  have hbits : (Der.wholeBytes q.uncompressed).length = 66 := by
    rw [Der.wholeBytes, List.length_cons, q.length_uncompressed]
  have hpoint : Der.write ⟨Der.bitString, Der.wholeBytes q.uncompressed⟩ =
      Der.bitString :: 66 :: Der.wholeBytes q.uncompressed :=
    Der.write_of_length hbits (by decide)
  have hnames : (Der.write ⟨Der.sequence, names⟩).length = 21 := by decide
  have hcontent : (Der.write ⟨Der.sequence, names⟩ ++
      Der.write ⟨Der.bitString, Der.wholeBytes q.uncompressed⟩).length = 89 := by
    rw [List.length_append, hnames, hpoint, List.length_cons, List.length_cons, hbits]
  rw [writePublic_eq, Der.write_of_length hcontent (by decide), hpoint]
  simp only [header, Point.uncompressed, Der.wholeBytes, List.cons_append, List.append_assoc,
    List.nil_append]
  rfl

theorem toList_address (q : Point) :
    (address q).toList = "MFkwEwYHKoZIzj0CAQYIKoZIzj0DAQcDQgAE".toList ++
      Base64.encode (BigEndian.bytes width q.x ++ BigEndian.bytes width q.y) := by
  have hheader : Base64.encode header = "MFkwEwYHKoZIzj0CAQYIKoZIzj0DAQcDQgAE".toList := by decide
  rw [address, String.toList_ofList, writePublic_eq_header, Base64.encode_append (by decide),
    hheader]

theorem length_address (q : Point) : (address q).toList.length = 122 := by
  rw [address, String.toList_ofList, Base64.length_encode, writePublic_eq_header]
  simp only [List.length_append, BigEndian.length_bytes]
  decide

theorem exists_toList_address (q : Point) : ∃ cs, (address q).toList = 'M' :: cs := by
  rw [toList_address]
  exact ⟨_, rfl⟩

/-! ## Addresses -/

theorem check_address (q : Point) : Address.check (address q) = .ok () := by
  obtain ⟨cs, hcs⟩ := exists_toList_address q
  have hsymbol : ∀ n < 64, Address.isBase64 (Base64.symbol n) = true := by decide
  rw [Address.check_eq_ok_iff, String.isEmpty_eq_false_iff, Ne, ← String.toList_eq_nil_iff, hcs]
  refine ⟨by simp, ?_⟩
  intro c hc
  rw [← hcs, address, String.toList_ofList] at hc
  obtain ⟨n, hn, rfl⟩ := Base64.symbol_of_mem_encode hc
  exact hsymbol n hn

/-- Padding behind an address does no harm, however much it is. -/
theorem ofAddress_address_append {q : Point} (h : q.Valid) (count : Nat) :
    ofAddress (address q ++ String.ofList (List.replicate count '=')) = .ok q := by
  have hbare : Base64.unpadded (address q ++ String.ofList (List.replicate count '=')).toList =
      Base64.encode (writePublic q) := by
    rw [String.toList_append, address, String.toList_ofList, String.toList_ofList,
      Base64.unpadded_encode]
  have hplain : ∀ c ∈ Base64.encode (writePublic q), c.toNat < 128 := by
    intro c hc
    obtain ⟨n, hn, rfl⟩ := Base64.symbol_of_mem_encode hc
    exact Base64.symbol_lt hn
  simp only [ofAddress, hbare, Text.toList_toUTF8 hplain, Base64.decode_encode,
    Result.mapError_ok, Result.ok_bind, readPublic_writePublic h]

theorem ofAddress_address {q : Point} (h : q.Valid) : ofAddress (address q) = .ok q := by
  have hpadded := ofAddress_address_append h 0
  simpa using hpadded

end UtxoWallet.Key
