/-! # Reading bytes that should be UTF-8

Every row of bytes has a reading: a longest start of a character that is never finished, or a byte
that starts none, reads as one replacement character.
-/

namespace UtxoWallet.Utf8

/-- What must follow the first byte of a longer character. -/
structure Lead where
  tails : Nat
  /-- The bounds of the next byte. Those after it have the full range of tails. -/
  low : UInt8
  high : UInt8
  /-- The bits of the code point that the first byte holds. -/
  bits : Nat
deriving DecidableEq, Repr

def lead? (b : UInt8) : Option Lead :=
  if 0xC2 ≤ b ∧ b ≤ 0xDF then some ⟨1, 0x80, 0xBF, b.toNat - 0xC0⟩
  else if b = 0xE0 then some ⟨2, 0xA0, 0xBF, 0⟩
  else if b = 0xED then some ⟨2, 0x80, 0x9F, 0xD⟩
  else if 0xE1 ≤ b ∧ b ≤ 0xEF then some ⟨2, 0x80, 0xBF, b.toNat - 0xE0⟩
  else if b = 0xF0 then some ⟨3, 0x90, 0xBF, 0⟩
  else if 0xF1 ≤ b ∧ b ≤ 0xF3 then some ⟨3, 0x80, 0xBF, b.toNat - 0xF0⟩
  else if b = 0xF4 then some ⟨3, 0x80, 0x8F, 4⟩
  else none

/-- The code point after `tails` more bytes, or none where they stop short, and the bytes left. -/
def takeTails : (tails : Nat) → (low high : UInt8) → Nat → List UInt8 → Option Nat × List UInt8
  | 0, _, _, point, bytes => (some point, bytes)
  | _ + 1, _, _, _, [] => (none, [])
  | tails + 1, low, high, point, b :: bs =>
    if low ≤ b ∧ b ≤ high then takeTails tails 0x80 0xBF (64 * point + (b.toNat - 0x80)) bs
    else (none, b :: bs)

theorem length_takeTails_le (tails : Nat) (low high : UInt8) (point : Nat) (bytes : List UInt8) :
    (takeTails tails low high point bytes).2.length ≤ bytes.length := by
  fun_induction takeTails tails low high point bytes with
  | case1 => simp
  | case2 => simp
  | case3 tails low high point b bs h ih =>
    simp only [List.length_cons]
    omega
  | case4 => simp

def replacement : Char := '\uFFFD'

def decode : List UInt8 → List Char
  | [] => []
  | b :: bs =>
    if b < 0x80 then Char.ofUInt8 b :: decode bs
    else
      match lead? b with
      | none => replacement :: decode bs
      | some l =>
        ((takeTails l.tails l.low l.high l.bits bs).1.map Char.ofNat).getD replacement ::
          decode (takeTails l.tails l.low l.high l.bits bs).2
termination_by bytes => bytes.length
decreasing_by
  · simp
  · simp
  · have := length_takeTails_le l.tails l.low l.high l.bits bs
    simp only [List.length_cons]
    omega

def text (bytes : ByteArray) : String := String.ofList (decode bytes.data.toList)

end UtxoWallet.Utf8
