import Mathlib.Data.List.TakeWhile
import UtxoWallet.Text.Blank

/-! # Trimming takes off blanks and nothing else -/

namespace UtxoWallet.Text

/-! ## One end -/

section

variable {p : Char → Bool} {cs back : List Char}

theorem dropTrailing_of_last (h : ∀ c ∈ cs.getLast?, p c = false) : dropTrailing p cs = cs := by
  rcases List.eq_nil_or_concat cs with rfl | ⟨init, c, rfl⟩
  · rfl
  · rw [List.concat_eq_append] at h ⊢
    exact dropTrailing_append_singleton (h c (by simp))

theorem exists_dropTrailing (p : Char → Bool) (cs : List Char) :
    ∃ back, cs = dropTrailing p cs ++ back ∧ (∀ c ∈ back, p c = true) ∧
      ∀ c ∈ (dropTrailing p cs).getLast?, p c = false := by
  refine ⟨(cs.reverse.takeWhile p).reverse, ?_, ?_, ?_⟩
  · rw [dropTrailing, ← List.reverse_append, List.takeWhile_append_dropWhile, List.reverse_reverse]
  · intro c hc
    exact List.mem_takeWhile_imp (List.mem_reverse.mp hc)
  · intro c hc
    have hhead := List.head?_dropWhile_not p cs.reverse
    rw [dropTrailing, List.getLast?_reverse] at hc
    rw [Option.mem_def.mp hc] at hhead
    simpa using hhead

end

/-! ## Both ends -/

theorem dropWhile_of_head {p : Char → Bool} {cs : List Char} (h : ∀ c ∈ cs.head?, p c = false) :
    cs.dropWhile p = cs := by
  cases cs with
  | nil => rfl
  | cons c cs => rw [List.dropWhile_cons_of_neg (by simp [h c rfl])]

theorem trimBlanks_of_ends {front cs back : List Char} (hfront : ∀ c ∈ front, isBlank c = true)
    (hback : ∀ c ∈ back, isBlank c = true) (hhead : ∀ c ∈ cs.head?, isBlank c = false)
    (hlast : ∀ c ∈ cs.getLast?, isBlank c = false) : trimBlanks (front ++ cs ++ back) = cs := by
  rw [trimBlanks, List.append_assoc, List.dropWhile_append_of_pos hfront]
  cases cs with
  | nil =>
    rw [List.nil_append, List.dropWhile_eq_nil_iff.mpr hback]
    rfl
  | cons c cs =>
    rw [List.cons_append, dropWhile_of_head (by simpa using hhead), ← List.cons_append,
      dropTrailing_append_of_all (List.all_eq_true.mpr hback), dropTrailing_of_last hlast]

theorem exists_trimBlanks (cs : List Char) :
    ∃ front back, cs = front ++ trimBlanks cs ++ back ∧ (∀ c ∈ front, isBlank c = true) ∧
      (∀ c ∈ back, isBlank c = true) ∧ (∀ c ∈ (trimBlanks cs).head?, isBlank c = false) ∧
      ∀ c ∈ (trimBlanks cs).getLast?, isBlank c = false := by
  obtain ⟨back, hback, hblank, hlast⟩ := exists_dropTrailing isBlank (cs.dropWhile isBlank)
  refine ⟨cs.takeWhile isBlank, back, ?_, fun c hc => List.mem_takeWhile_imp hc, hblank, ?_, hlast⟩
  · rw [List.append_assoc, trimBlanks, ← hback, List.takeWhile_append_dropWhile]
  · intro c hc
    have hhead := List.head?_dropWhile_not isBlank cs
    rw [hback, List.head?_append, ← trimBlanks, Option.mem_def.mp hc] at hhead
    simpa using hhead

end UtxoWallet.Text
