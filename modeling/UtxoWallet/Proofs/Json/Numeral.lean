import UtxoWallet.Proofs.Json.Grammar

/-! # Where a number ends, and which numbers are counts

A number is read to its end whether or not it is a count. A count has one spelling.
-/

namespace UtxoWallet.Json

open Reader

variable {t ds rest : List Char}

/-! ## Heads -/

theorem IsDigits.head (h : IsDigits ds) (rest : List Char) :
    ∀ c ∈ (ds ++ rest).head?, c.isDigit = true := by
  intro c hc
  rw [List.head?_append_of_ne_nil _ h.1] at hc
  exact h.2 c (List.mem_of_mem_head? hc)

theorem not_mem_of_isDigit {signs : List Char} (h : ∀ c ∈ t.head?, c.isDigit = true)
    (hsigns : ∀ c ∈ signs, c.isDigit = false) : ∀ c ∈ t.head?, c ∉ signs := by
  intro c hc hmem
  have hdigit := h c hc
  rw [hsigns c hmem] at hdigit
  cases hdigit

theorem IsFraction.head (h : IsFraction t) (hrest : ∀ c ∈ rest.head?, c.isDigit = false) :
    ∀ c ∈ (t ++ rest).head?, c.isDigit = false := by
  cases h with
  | none => exact hrest
  | digits h =>
    rintro c hc
    cases hc
    rfl

/-- Neither a digit nor a point starts an exponent, nor what comes after the number. -/
theorem IsExponent.head (h : IsExponent t) (hrest : Ends rest) :
    ∀ c ∈ (t ++ rest).head?, c.isDigit = false ∧ c ∉ ['.'] := by
  cases h with
  | none => exact fun c hc => ⟨hrest.isDigit_eq_false c hc, hrest.not_mem (by simp [goesOn]) c hc⟩
  | digits hmark hsign h =>
    rintro c hc
    cases hc
    rcases List.mem_pair.mp hmark with rfl | rfl <;> decide

/-! ## Parts

A part that may be left out is left out exactly if nothing is read for it.
-/

theorem read_sign (signs : List Char) {sign : List Char} (hsign : sign ∈ [] :: signs.map ([·]))
    (hrest : ∀ c ∈ rest.head?, c ∉ signs) :
    (accept signs).read (sign ++ rest) = .ok (sign.head?, rest) := by
  rcases List.mem_cons.mp hsign with rfl | hsign
  · exact read_accept_none hrest
  · obtain ⟨c, hc, rfl⟩ := List.mem_map.mp hsign
    exact read_accept hc rest

theorem read_wholeDigits (h : IsWhole ds) (hrest : ∀ c ∈ rest.head?, c.isDigit = false)
    (atEnd : Fault) : (wholeDigits atEnd).read (ds ++ rest) = .ok (ds, rest) := by
  have hzero : ¬(ds.head? = some '0' ∧ ds.length ≠ 1) := fun hboth => hboth.2 (h.zero hboth.1)
  simp [wholeDigits, read_digits atEnd h.digits.2 h.digits.1 hrest, hzero]

theorem exists_read_fraction (h : IsFraction t) (hdigit : ∀ c ∈ rest.head?, c.isDigit = false)
    (hpoint : ∀ c ∈ rest.head?, c ∉ ['.']) :
    ∃ ds, (∀ atEnd, (fraction atEnd).read (t ++ rest) = .ok (ds, rest)) ∧ (ds = [] → t = []) := by
  cases h with
  | none =>
    refine ⟨[], fun atEnd => ?_, fun _ => rfl⟩
    simp [fraction, read_accept_none hpoint]
  | @digits ds h =>
    refine ⟨ds, fun atEnd => ?_, fun hnil => absurd hnil h.1⟩
    simp [fraction, read_accept, read_digits atEnd h.2 h.1 hdigit]

theorem exists_read_exponent (h : IsExponent t) (hrest : Ends rest) :
    ∃ e, (∀ atEnd, (exponent atEnd).read (t ++ rest) = .ok (e, rest)) ∧ (e = none → t = []) := by
  cases h with
  | none =>
    have hmark : ∀ c ∈ rest.head?, c ∉ ['e', 'E'] := hrest.not_mem (by simp [goesOn])
    refine ⟨none, fun atEnd => ?_, fun _ => rfl⟩
    simp [exponent, read_accept_none hmark]
  | @digits mark sign ds hmark hsign h =>
    have hread := read_sign ['+', '-'] hsign (not_mem_of_isDigit (h.head rest) (by simp))
    refine ⟨some (if sign.head? = some '-' then -(Text.digitsValue ds : Int) else Text.digitsValue ds),
      fun atEnd => ?_, fun hnone => absurd hnone (Option.some_ne_none _)⟩
    rw [List.cons_append, List.append_assoc]
    simp [exponent, read_accept hmark, hread, read_digits atEnd h.2 h.1 hrest.isDigit_eq_false]

/-! ## Whole numbers -/

/-- A number is read to its end, and is a count only if it is spelled as one. -/
theorem exists_read_number (h : IsNumber t) (hrest : Ends rest) :
    ∃ n, (∀ atEnd, (number atEnd).read (t ++ rest) = .ok (n, rest)) ∧
      ∀ v, n.natural? = some v → t = Text.decimal v := by
  cases h with
  | @parts sign whole fraction exponent hsign hwhole hfraction hexponent =>
  have hend := hexponent.head hrest
  obtain ⟨fs, hreadFraction, hfs⟩ :=
    exists_read_fraction hfraction (fun c hc => (hend c hc).1) fun c hc => (hend c hc).2
  obtain ⟨e, hreadExponent, he⟩ := exists_read_exponent hexponent hrest
  refine ⟨⟨sign.head?.isSome, whole, fs, e⟩, fun atEnd => ?_, fun v hv => ?_⟩
  · have hreadSign := read_sign ['-'] hsign
      (not_mem_of_isDigit (hwhole.digits.head (fraction ++ (exponent ++ rest))) (by simp))
    have hreadWhole := read_wholeDigits hwhole (hfraction.head fun c hc => (hend c hc).1) atEnd
    simp [number, hreadSign, hreadWhole, hreadFraction, hreadExponent]
  · simp only [Number.natural?] at hv
    split at hv
    · next hcount =>
      obtain ⟨hplus, hnoFraction, hnoExponent, hlt⟩ := hcount
      obtain rfl := hfs (List.isEmpty_iff.mp hnoFraction)
      obtain rfl := he (Option.isNone_iff_eq_none.mp hnoExponent)
      have hnoSign : sign = [] := by simpa using hplus
      subst hnoSign
      cases hv
      rw [Text.decimal_digitsValue hwhole.digits.2 hwhole.digits.1 hwhole.zero hlt]
      simp
    · cases hv

end UtxoWallet.Json
