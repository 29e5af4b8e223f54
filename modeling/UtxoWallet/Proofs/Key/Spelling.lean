import UtxoWallet.Proofs.Key.Address

/-! # An address is the one spelling of its key

Every layer spells what it holds in one way: base64 without stray bits, elements with the shortest
lengths, coordinates of one width. Only the form of the point is free, and the width of the whole
leaves one form.
-/

namespace UtxoWallet.Key

open Curve Result

/-! ## Layers of a written key -/

/-- A key with any bytes for its point. -/
def writeWith (point : List UInt8) : List UInt8 :=
  Der.write ⟨Der.sequence, Der.write ⟨Der.sequence, names⟩ ++
    Der.write ⟨Der.bitString, Der.wholeBytes point⟩⟩

theorem curve_of_isCurve {e : Der.Element} (h : isCurve e = .ok true) :
    e = ⟨Der.objectIdentifier, curve⟩ := by
  unfold isCurve at h
  split at h
  · next hform =>
    rw [Except.ok.injEq, beq_iff_eq] at h
    rw [← h, ← hform.1]
  · cases h

theorem eq_write_of_readParameters {bytes : List UInt8} {e : Der.Element}
    (h : readParameters bytes = some (some e)) : bytes = Der.write e := by
  unfold readParameters at h
  split at h
  · cases h
  · simp only [Option.bind_eq_bind, Option.bind_eq_some_iff, Option.guard_eq_some',
      Option.pure_def, Option.some.injEq, List.isEmpty_iff] at h
    obtain ⟨⟨e', rest⟩, hread, _, rfl, rfl⟩ := h
    rw [Der.eq_write_of_read hread, List.append_nil]

theorem eq_write_of_readObjectIdentifier {bytes oid rest : List UInt8}
    (h : Der.readObjectIdentifier bytes = some (oid, rest)) :
    bytes = Der.write ⟨Der.objectIdentifier, oid⟩ ++ rest := by
  simp only [Der.readObjectIdentifier, Option.bind_eq_bind, Option.bind_eq_some_iff,
    Option.guard_eq_some', Option.pure_def, Option.some.injEq, Prod.mk.injEq] at h
  obtain ⟨⟨oid', rest'⟩, hread, _, -, rfl, rfl⟩ := h
  exact Der.eq_write_of_readTag hread

theorem eq_write_of_readParts {bytes : List UInt8} {parts : Parts} {e : Der.Element}
    (h : readParts bytes = some parts) (he : parts.parameters = some e) :
    bytes = Der.write ⟨Der.sequence,
      Der.write ⟨Der.sequence,
        Der.write ⟨Der.objectIdentifier, parts.algorithm⟩ ++ Der.write e⟩ ++
      Der.write ⟨Der.bitString, parts.unused :: parts.point⟩⟩ := by
  simp only [readParts, Option.bind_eq_bind, Option.bind_eq_some_iff, Option.guard_eq_some',
    Option.pure_def, Option.some.injEq, List.isEmpty_iff] at h
  obtain ⟨content, hcontent, ⟨named, rest⟩, hnamed, ⟨oid, after⟩, hoid, parameters, hparameters,
    ⟨⟨unused, point⟩, back⟩, hpoint, _, rfl, rfl⟩ := h
  dsimp only at hoid hparameters hpoint he ⊢
  rw [he] at hparameters
  rw [Der.eq_write_of_only hcontent, Der.eq_write_of_readTag hnamed,
    eq_write_of_readObjectIdentifier hoid, eq_write_of_readParameters hparameters,
    Der.eq_write_of_readBitString hpoint, List.append_nil]

/-- Whatever is read as a key has the right names and some bytes that are read as its point. -/
theorem exists_writeWith_of_readPublic {bytes : List UInt8} {q : Point}
    (h : readPublic bytes = .ok q) :
    ∃ point, bytes = writeWith point ∧ Point.ofBytes? point = some q := by
  simp only [readPublic, bind_eq_ok, unless_eq_ok, elim_eq_ok, not_not] at h
  obtain ⟨parts, hparts, halgorithm, e, he, named, hnamed, htrue, hunused, hpoint⟩ := h
  have hcurve : e = ⟨Der.objectIdentifier, curve⟩ := by
    refine curve_of_isCurve (hnamed.trans ?_)
    simpa using htrue
  refine ⟨parts.point, ?_, hpoint⟩
  rw [eq_write_of_readParts hparts he, halgorithm, hunused, hcurve]
  rfl

/-! ## Lengths -/

theorem length_names : (Der.write ⟨Der.sequence, names⟩).length = 21 := by decide

/-- In ninety-one bytes there is room for a point of sixty-five. -/
theorem length_of_writeWith {point : List UInt8} (h : (writeWith point).length = 91) :
    point.length = 65 := by
  rw [writeWith, Der.length_write, List.length_append, length_names, Der.length_write,
    Der.wholeBytes, List.length_cons] at h
  -- A longer point would need a second byte for its length, and then more than there is.
  have hinner : (Der.writeLength (point.length + 1)).length = 1 := by
    rw [Der.writeLength, if_pos (by omega)]
    rfl
  rw [hinner] at h
  rw [Der.writeLength, if_pos (by omega), List.length_singleton] at h
  omega

theorem writePublic_of_readPublic {bytes : List UInt8} {q : Point} (hlength : bytes.length = 91)
    (h : readPublic bytes = .ok q) : writePublic q = bytes := by
  obtain ⟨point, rfl, hpoint⟩ := exists_writeWith_of_readPublic h
  have huncompressed := Point.eq_uncompressed_of_ofBytes? (length_of_writeWith hlength) hpoint
  rw [writePublic_eq, writeWith, huncompressed]

/-! ## Addresses -/

theorem prefix_address (q : Point) :
    "MFkwEwYHKoZIzj0CAQYIKoZIzj0DAQcDQgAE".toList <+: (address q).toList := by
  rw [toList_address]
  exact List.prefix_append _ _

theorem padding_not_mem_address (q : Point) : '=' ∉ (address q).toList := by
  rw [address, String.toList_ofList]
  exact Base64.padding_not_mem_encode _

theorem readPublic_of_ofAddress {a : String} (hpad : '=' ∉ a.toList) {q : Point}
    (h : ofAddress a = .ok q) :
    ∃ bytes, readPublic bytes = .ok q ∧ Base64.encode bytes = a.toList := by
  simp only [ofAddress, Base64.unpadded_of_not_mem hpad, bind_eq_ok, mapError_eq_ok] at h
  obtain ⟨bytes, hdecode, hread⟩ := h
  exact ⟨bytes, hread, Base64.encode_of_decode_toUTF8 hdecode⟩

/-- A text as long as an address is the address of the key it stands for. -/
theorem eq_address_of_ofAddress {a : String} (hlength : a.toList.length = 122)
    (hpad : '=' ∉ a.toList) {q : Point} (h : ofAddress a = .ok q) : q.Valid ∧ address q = a := by
  obtain ⟨bytes, hread, hencode⟩ := readPublic_of_ofAddress hpad h
  have hbytes : bytes.length = 91 := by
    rw [← hencode, Base64.length_encode] at hlength
    omega
  obtain ⟨_, _, hpoint⟩ := exists_writeWith_of_readPublic hread
  refine ⟨Point.valid_of_ofBytes? hpoint, ?_⟩
  rw [address, writePublic_of_readPublic hbytes hread, hencode, String.ofList_toList]

/-- Valid keys and texts as long as an address correspond one to one. -/
theorem address_corresponds :
    (∀ q : Point, q.Valid →
      (address q).toList.length = 122 ∧
      "MFkwEwYHKoZIzj0CAQYIKoZIzj0DAQcDQgAE".toList <+: (address q).toList ∧
      '=' ∉ (address q).toList ∧
      Address.check (address q) = .ok () ∧
      ∀ count, ofAddress (address q ++ String.ofList (List.replicate count '=')) = .ok q) ∧
    (∀ q q' : Point, q.Valid → q'.Valid → q ≠ q' → address q ≠ address q') ∧
    ∀ (a : String) (q : Point), a.toList.length = 122 → '=' ∉ a.toList → ofAddress a = .ok q →
      q.Valid ∧ address q = a := by
  refine ⟨?_, ?_, fun a q hlength hpad => eq_address_of_ofAddress hlength hpad⟩
  · intro q hq
    exact ⟨length_address q, prefix_address q, padding_not_mem_address q, check_address q,
      ofAddress_address_append hq⟩
  · intro q q' hq hq' hne hsame
    exact hne (eq_of_read (ofAddress_address hq) (ofAddress_address hq') hsame)

/-- The other point with the first coordinate of the generator. -/
def oppositeGenerator : Point :=
  ⟨Point.generator.x, fieldPrime - Point.generator.y⟩

def generatorAddress : String :=
  "MFkwEwYHKoZIzj0CAQYIKoZIzj0DAQcDQgAEaxfR8uEsQkf4vOblY6RA8ncDfYEt6zOg9KE5RdiYwpZP40Li/hp/m47n60p8D54WK84zV2sxXs7LtkBoN79R9Q"

theorem address_corresponds_generator :
    Point.generator.Valid ∧
      ofAddress (address Point.generator ++ "==") = .ok Point.generator ∧
      oppositeGenerator.Valid ∧ address Point.generator ≠ address oppositeGenerator ∧
      ofAddress generatorAddress = .ok Point.generator ∧
      address Point.generator = generatorAddress := by
  obtain ⟨hwrite, hne, hread⟩ := address_corresponds
  have hvalid : Point.generator.Valid := by decide +kernel
  have hopposite : oppositeGenerator.Valid := by decide +kernel
  obtain ⟨-, -, -, -, hpadded⟩ := hwrite Point.generator hvalid
  have hnamed : ofAddress generatorAddress = .ok Point.generator := by decide +kernel
  exact ⟨hvalid, hpadded 2, hopposite,
    hne _ _ hvalid hopposite (by decide +kernel), hnamed,
    (hread generatorAddress _ (by decide +kernel) (by decide +kernel) hnamed).2⟩

end UtxoWallet.Key
