import UtxoWallet.Json.Shape
import UtxoWallet.Json.Writing
import UtxoWallet.Proofs.Json.Reading

/-! # Texts between quotes, character by character -/

namespace UtxoWallet.Json

/-! ## Escapes -/

theorem read_escape_simple {c d : Char} (hne : c ≠ 'u') (h : simpleEscape? c = some d)
    (text : List Char) : Reader.escape.read (c :: text) = .ok (d, text) := by
  simp [Reader.escape, hne, h]

/-! ## One character -/

section

variable {α : Type} {escape : Reader α} {plain : Char → α}

theorem quotedRest_quote (text : List Char) :
    quotedRest escape plain ('"' :: text) = .ok ([], text) := by
  rw [quotedRest, if_pos rfl]

theorem quotedRest_of_escape {text rest : List Char} {a : α} (h : escape.read text = .ok (a, rest)) :
    quotedRest escape plain ('\\' :: text) =
      (quotedRest escape plain rest).map fun p => (a :: p.1, p.2) := by
  rw [quotedRest, if_neg (by decide), if_pos rfl]
  split
  · next fault hfault =>
    rw [h] at hfault
    cases hfault
  · next b after hread =>
    rw [h] at hread
    cases hread
    rfl

theorem quotedRest_of_plain {c : Char} (hquote : c ≠ '"') (hback : c ≠ '\\') (hplain : ¬c < ' ')
    (text : List Char) :
    quotedRest escape plain (c :: text) =
      (quotedRest escape plain text).map fun p => (plain c :: p.1, p.2) := by
  rw [quotedRest, if_neg hquote, if_neg hback, if_neg hplain]

end

/-- A character is written by a letter of its own, by its code point, or as it is. -/
theorem escaped_cases (c : Char) :
    (∃ d, simpleEscape? d = some c ∧ Written.escaped c = ['\\', d]) ∨
    (c < ' ' ∧ Written.escaped c = Written.control c) ∨
    (c ≠ '"' ∧ c ≠ '\\' ∧ ¬c < ' ' ∧ Written.escaped c = [c]) := by
  unfold Written.escaped
  split
  · next h => exact .inl ⟨'"', by rw [h]; rfl, rfl⟩
  next hquote =>
  split
  · next h => exact .inl ⟨'\\', by rw [h]; rfl, rfl⟩
  next hback =>
  split
  · next h => exact .inl ⟨'b', by rw [h]; rfl, rfl⟩
  split
  · next h => exact .inl ⟨'t', by rw [h]; rfl, rfl⟩
  split
  · next h => exact .inl ⟨'n', by rw [h]; rfl, rfl⟩
  split
  · next h => exact .inl ⟨'f', by rw [h]; rfl, rfl⟩
  split
  · next h => exact .inl ⟨'r', by rw [h]; rfl, rfl⟩
  split
  · next hcontrol => exact .inr (.inl ⟨hcontrol, rfl⟩)
  · next hplain => exact .inr (.inr ⟨hquote, hback, hplain, rfl⟩)

theorem read_opening {α : Type} {c : Char} (h : Reader.isBlank c = false) (r : Reader α)
    (text : List Char) : (Reader.opening c r).read (c :: text) = r.read text := by
  simp [Reader.opening, h, Reader.read_accept]

end UtxoWallet.Json
