/-! # Decimal numbers -/

namespace UtxoWallet.Text

def digitsValue (ds : List Char) : Nat := Nat.ofDigitChars 10 ds 0

/-- The number in a text of nothing but digits, any zeros in front included. -/
def natural? (cs : List Char) : Option Nat :=
  if !cs.isEmpty ∧ cs.all Char.isDigit then some (digitsValue cs) else none

/-- A number in as few digits as will do. -/
def decimal (n : UInt64) : List Char := Nat.toDigits 10 n.toNat

theorem isDigit_of_mem_decimal {n : UInt64} {c : Char} (h : c ∈ decimal n) : c.isDigit = true :=
  Nat.isDigit_of_mem_toDigits (by decide) (by decide) h

theorem decimal_ne_nil (n : UInt64) : decimal n ≠ [] := Nat.toDigits_ne_nil

theorem digitsValue_decimal (n : UInt64) : digitsValue (decimal n) = n.toNat :=
  Nat.ofDigitChars_toDigits (by decide) (by decide)

theorem natural?_decimal (n : UInt64) : natural? (decimal n) = some n.toNat := by
  have hdigits : (decimal n).all Char.isDigit = true :=
    List.all_eq_true.mpr fun _ => isDigit_of_mem_decimal
  have hne : (!(decimal n).isEmpty) = true := by simp [decimal_ne_nil]
  rw [natural?, if_pos ⟨hne, hdigits⟩, digitsValue_decimal]

end UtxoWallet.Text
