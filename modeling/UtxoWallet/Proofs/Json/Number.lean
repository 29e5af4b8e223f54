import Mathlib.Data.List.Basic
import Mathlib.Data.List.Induction
import UtxoWallet.Json.Shape
import UtxoWallet.Proofs.Json.Reading

/-! # Numbers read back as they were written -/

namespace UtxoWallet

/-! ## Digits -/

namespace Text

/-- Only zero itself is written with a zero in front. -/
theorem eq_zero_of_head_toDigits {n : Nat} (h : (Nat.toDigits 10 n).head? = some '0') : n = 0 := by
  induction n using Nat.strongRecOn with
  | ind n ih =>
    rcases Nat.lt_or_ge n 10 with hlt | hle
    · have hdigit : ∀ m < 10, Nat.digitChar m = '0' → m = 0 := by decide
      rw [Nat.toDigits_of_lt_base hlt] at h
      exact hdigit n hlt (Option.some.inj h)
    · rw [Nat.toDigits_of_base_le (by decide) hle,
        List.head?_append_of_ne_nil _ Nat.toDigits_ne_nil] at h
      have hzero := ih (n / 10) (by omega) h
      omega

theorem length_decimal_of_head {n : UInt64} (h : (decimal n).head? = some '0') :
    (decimal n).length = 1 := by
  rw [decimal, eq_zero_of_head_toDigits h]
  rfl

theorem toDigits_digit {d : Char} (h : d.isDigit = true) :
    Nat.toDigits 10 (d.toNat - '0'.toNat) = [d] := by
  have hall : ∀ m < 58, 48 ≤ m → Nat.toDigits 10 (m - '0'.toNat) = [Char.ofNat m] := by decide
  obtain ⟨hle, hge⟩ := Char.isDigit_iff_toNat.mp h
  have hd := hall d.toNat (Nat.lt_succ_of_le hge) hle
  rwa [Char.ofNat_toNat] at hd

theorem toDigits_digitsValue_of_head {ds : List Char} (hdigits : ∀ c ∈ ds, c.isDigit = true)
    (hne : ds ≠ []) (hhead : ds.head? ≠ some '0') :
    0 < digitsValue ds ∧ Nat.toDigits 10 (digitsValue ds) = ds := by
  induction ds using List.reverseRecOn with
  | nil => exact absurd rfl hne
  | append_singleton ds d ih =>
    rw [List.forall_mem_append, List.forall_mem_singleton] at hdigits
    obtain ⟨hdigits, hd⟩ := hdigits
    have hvalue : digitsValue (ds ++ [d]) = 10 * digitsValue ds + (d.toNat - '0'.toNat) := by
      rw [digitsValue, Nat.ofDigitChars_append, Nat.ofDigitChars_cons]
      rfl
    by_cases hnil : ds = []
    · subst hnil
      have hdigit := toDigits_digit hd
      have hzero : d.toNat - '0'.toNat ≠ 0 := by
        intro h
        rw [h] at hdigit
        exact hhead (congrArg List.head? hdigit.symm)
      rw [hvalue]
      exact ⟨by omega, by simpa [digitsValue] using hdigit⟩
    · rw [List.head?_append_of_ne_nil _ hnil] at hhead
      obtain ⟨hpos, hrest⟩ := ih hdigits hnil hhead
      have hlt : d.toNat - '0'.toNat < 10 := by
        have hge : d.toNat ≤ 57 := (Char.isDigit_iff_toNat.mp hd).2
        have hzero : '0'.toNat = 48 := rfl
        omega
      rw [hvalue]
      refine ⟨by omega, ?_⟩
      rw [← Nat.toDigits_append_toDigits (by decide) hpos hlt, hrest, toDigits_digit hd]

/-- Digits are what their value is written as, unless there is a zero too many in front. -/
theorem decimal_digitsValue {ds : List Char} (hdigits : ∀ c ∈ ds, c.isDigit = true)
    (hne : ds ≠ []) (hzero : ds.head? = some '0' → ds.length = 1)
    (hlt : digitsValue ds < UInt64.size) : decimal (UInt64.ofNat (digitsValue ds)) = ds := by
  rw [decimal, UInt64.toNat_ofNat_of_lt' hlt]
  by_cases hhead : ds.head? = some '0'
  · obtain ⟨d, rfl⟩ := List.length_eq_one_iff.mp (hzero hhead)
    cases hhead
    rfl
  · exact (toDigits_digitsValue_of_head hdigits hne hhead).2

end Text

namespace Json

variable {ds rest : List Char}

/-! ## Numbers of digits only -/

theorem isBlank_of_isDigit {c : Char} (h : c.isDigit = true) : Reader.isBlank c = false := by
  cases hblank : Reader.isBlank c with
  | false => rfl
  | true =>
    simp only [Reader.isBlank, Bool.or_eq_true, beq_iff_eq] at hblank
    rcases hblank with ((rfl | rfl) | rfl) | rfl <;> exact absurd h (by decide)

theorem Ends.isDigit_eq_false (h : Ends rest) : ∀ c ∈ rest.head?, c.isDigit = false := by
  intro c hc
  have hgoes := h c hc
  simp only [goesOn, Bool.or_eq_false_iff] at hgoes
  exact hgoes.1.1.1

theorem Ends.not_mem (h : Ends rest) {cs : List Char} (hcs : ∀ c ∈ cs, goesOn c = true) :
    ∀ c ∈ rest.head?, c ∉ cs := by
  intro c hc hmem
  have hgoes := hcs c hmem
  rw [h c hc] at hgoes
  cases hgoes

theorem read_run_digits (hdigits : ∀ c ∈ ds, c.isDigit = true)
    (hrest : ∀ c ∈ rest.head?, c.isDigit = false) :
    (Reader.run Char.isDigit).read (ds ++ rest) = .ok (ds, rest) := by
  change Except.ok ((ds ++ rest).takeWhile Char.isDigit, (ds ++ rest).dropWhile Char.isDigit) = _
  rw [List.takeWhile_append_of_pos hdigits, List.dropWhile_append_of_pos hdigits]
  cases rest with
  | nil => simp
  | cons c cs => simp [hrest c rfl]

theorem read_digits (atEnd : Fault) (hdigits : ∀ c ∈ ds, c.isDigit = true) (hne : ds ≠ [])
    (hrest : ∀ c ∈ rest.head?, c.isDigit = false) :
    (Reader.digits atEnd).read (ds ++ rest) = .ok (ds, rest) := by
  obtain ⟨d, ds, rfl⟩ := List.exists_cons_of_ne_nil hne
  rw [List.forall_mem_cons] at hdigits
  simp [Reader.digits, Reader.digit, hdigits.1, read_run_digits hdigits.2 hrest]

/-- Digits alone, without a sign, a point or an exponent. -/
theorem read_number_digits (atEnd : Fault) (hdigits : ∀ c ∈ ds, c.isDigit = true) (hne : ds ≠ [])
    (hzero : ds.head? = some '0' → ds.length = 1) (hrest : Ends rest) :
    (Reader.number atEnd).read (ds ++ rest) = .ok (⟨false, ds, [], none⟩, rest) := by
  have hsign : ∀ c ∈ (ds ++ rest).head?, c ∉ ['-'] := by
    intro c hc hminus
    rw [List.head?_append_of_ne_nil _ hne] at hc
    have hdigit := hdigits c (List.mem_of_mem_head? hc)
    rw [List.mem_singleton.mp hminus] at hdigit
    exact absurd hdigit (by decide)
  have hpoint : ∀ c ∈ rest.head?, c ∉ ['.'] := hrest.not_mem (by simp [goesOn])
  have hexponent : ∀ c ∈ rest.head?, c ∉ ['e', 'E'] := hrest.not_mem (by simp [goesOn])
  have hwhole : ¬(ds.head? = some '0' ∧ ds.length ≠ 1) := fun h => h.2 (hzero h.1)
  simp [Reader.number, Reader.wholeDigits, Reader.fraction, Reader.exponent,
    Reader.read_accept_none hsign, Reader.read_accept_none hpoint,
    Reader.read_accept_none hexponent, read_digits atEnd hdigits hne hrest.isDigit_eq_false, hwhole]

/-! ## Amounts -/

theorem natural?_decimal (n : UInt64) :
    Number.natural? ⟨false, Text.decimal n, [], none⟩ = some n := by
  simp [Number.natural?, Text.digitsValue_decimal, n.toNat_lt]

theorem reads_natural (n : UInt64) : Reads Reader.natural (Text.decimal n) n := by
  intro rest hrest
  have hdigits : ∀ c ∈ Text.decimal n, c.isDigit = true := fun _ => Text.isDigit_of_mem_decimal
  have hread := read_number_digits .endOfText hdigits (Text.decimal_ne_nil n)
    Text.length_decimal_of_head hrest
  obtain ⟨d, ds, hds⟩ := List.exists_cons_of_ne_nil (Text.decimal_ne_nil n)
  have hdigit : d.isDigit = true := hdigits d (by simp [hds])
  have hvalue := natural?_decimal n
  rw [hds] at hread hvalue ⊢
  rw [List.cons_append] at hread ⊢
  simp [Reader.natural, isBlank_of_isDigit hdigit, Reader.startsNumber, hdigit, hread, hvalue]

end Json

end UtxoWallet
