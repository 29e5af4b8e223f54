import Mathlib.Data.Option.Basic
import UtxoWallet.Curve.SecretKey
import UtxoWallet.Proofs.Bytes.BigEndian

/-! # Keys and points read back as they were written -/

namespace UtxoWallet.Curve

theorem fieldPrime_lt : fieldPrime < 256 ^ width := by decide +kernel

theorem order_lt : order < 256 ^ width := by decide +kernel

theorem SecretKey.value_bytes (k : SecretKey) : BigEndian.value k.bytes = k.scalar :=
  BigEndian.value_bytes (k.lt.trans order_lt)

namespace Point

theorem length_uncompressed (q : Point) : q.uncompressed.length = 65 := by
  simp [uncompressed, width]

theorem ofBytes?_uncompressed {q : Point} (h : q.Valid) : ofBytes? q.uncompressed = some q := by
  have hx := BigEndian.value_bytes (h.1.trans fieldPrime_lt)
  have hy := BigEndian.value_bytes (h.2.1.trans fieldPrime_lt)
  have hform : fromForm 0x04 (BigEndian.bytes width q.x ++ BigEndian.bytes width q.y) = some q := by
    have hlength : (BigEndian.bytes width q.x ++ BigEndian.bytes width q.y).length = 2 * width := by
      rw [List.length_append, BigEndian.length_bytes, BigEndian.length_bytes, Nat.two_mul]
    rw [fromForm, if_pos rfl, if_pos hlength,
      List.take_left' (BigEndian.length_bytes _ _), List.drop_left' (BigEndian.length_bytes _ _),
      hx, hy]
  rw [uncompressed, List.cons_append, ofBytes?, hform]
  simp [guard, h]

theorem valid_of_ofBytes? {bytes : List UInt8} {q : Point} (h : ofBytes? bytes = some q) :
    q.Valid := by
  unfold ofBytes? at h
  split at h
  · cases h
  · simp only [Option.bind_eq_bind, Option.bind_eq_some_iff, guard, Option.pure_def] at h
    obtain ⟨_, _, _, hguard, hq⟩ := h
    split at hguard
    · cases hq
      assumption
    · cases hguard

/-- Only one form has so many bytes. -/
theorem fromForm_eq_some {form : UInt8} {coordinates : List UInt8} {q : Point}
    (hlength : coordinates.length = 2 * width) (h : fromForm form coordinates = some q) :
    form = 0x04 ∧ q =
      ⟨BigEndian.value (coordinates.take width), BigEndian.value (coordinates.drop width)⟩ := by
  rw [fromForm] at h
  by_cases hform : form = 0x04
  · rw [if_pos hform, if_pos hlength, Option.some.injEq] at h
    exact ⟨hform, h.symm⟩
  · rw [if_neg hform, if_pos (by rw [hlength, width]; decide)] at h
    cases h

/-- Both coordinates are spelt in one way. -/
theorem eq_uncompressed_of_ofBytes? {bytes : List UInt8} {q : Point} (hlength : bytes.length = 65)
    (h : ofBytes? bytes = some q) : bytes = q.uncompressed := by
  cases bytes with
  | nil => cases h
  | cons form coordinates =>
    have hboth : coordinates.length = 2 * width := Nat.succ.inj hlength
    simp only [ofBytes?, Option.bind_eq_bind, Option.bind_eq_some_iff, Option.guard_eq_some',
      Option.pure_def, Option.some.injEq] at h
    obtain ⟨q', hform, _, -, rfl⟩ := h
    obtain ⟨rfl, rfl⟩ := fromForm_eq_some hboth hform
    have hx := BigEndian.bytes_value (coordinates.take width)
    have hy := BigEndian.bytes_value (coordinates.drop width)
    rw [List.length_take, hboth, Nat.min_eq_left (by omega)] at hx
    rw [List.length_drop, hboth, Nat.two_mul, Nat.add_sub_cancel] at hy
    rw [uncompressed, hx, hy, List.cons_append, List.take_append_drop]

end Point

end UtxoWallet.Curve
