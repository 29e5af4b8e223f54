import Mathlib.Algebra.Order.Ring.Nat
import Mathlib.Data.List.Induction
import UtxoWallet.Bytes.BigEndian

/-! # The width of numbers as bytes -/

namespace UtxoWallet.BigEndian

theorem value_bytes {width n : Nat} (h : n < 256 ^ width) : value (bytes width n) = n := by
  induction width generalizing n with
  | zero => simp [bytes, value] at h ⊢; omega
  | succ width ih =>
    have hq : n / 256 < 256 ^ width := by
      rw [Nat.pow_succ] at h
      omega
    rw [bytes, value_append_singleton, ih hq]
    simp
    omega

/-- Bytes are written again as they were read. -/
theorem bytes_value (bs : List UInt8) : bytes bs.length (value bs) = bs := by
  induction bs using List.reverseRecOn with
  | nil => rfl
  | append_singleton bs b ih =>
    have hb := b.toNat_lt
    have hquotient : (256 * value bs + b.toNat) / 256 = value bs := by omega
    have hremainder : (256 * value bs + b.toNat) % 256 = b.toNat := by omega
    rw [List.length_append, List.length_singleton, bytes, value_append_singleton, hquotient,
      hremainder, ih, UInt8.ofNat_toNat]

theorem least_ne_nil {n : Nat} (h : n ≠ 0) : least n ≠ [] := by
  rw [least, if_neg h]
  simp

/-- As few bytes as will do. -/
theorem length_least_le {n width : Nat} (h : n < 256 ^ width) : (least n).length ≤ width := by
  induction width generalizing n with
  | zero =>
    have hzero : n = 0 := by simpa using h
    simp [hzero, least]
  | succ width ih =>
    by_cases hn : n = 0
    · simp [hn, least]
    · have hquotient : n / 256 < 256 ^ width := by
        rw [Nat.pow_succ] at h
        omega
      have := ih hquotient
      rw [least, if_neg hn, List.length_append, List.length_singleton]
      omega

theorem value_cons_zero (bs : List UInt8) : value (0 :: bs) = value bs := by
  simp [value]

end UtxoWallet.BigEndian
