import Mathlib.Data.List.TakeWhile
import UtxoWallet.Text.Blank
import UtxoWallet.Text.Pieces

/-! # Lines and words of texts that are put together -/

namespace UtxoWallet.Text

/-! ## Marks -/

/-- A text is what stands before its first mark and the rest, or it has no mark. -/
theorem mark_induction {motive : List Char → Prop} (isMark : Char → Bool) (cs : List Char)
    (last : ∀ l, (∀ c ∈ l, isMark c = false) → motive l)
    (mark : ∀ l m rest, (∀ c ∈ l, isMark c = false) → isMark m = true → motive rest →
      motive (l ++ m :: rest)) : motive cs := by
  suffices h : ∀ front, (∀ c ∈ front, isMark c = false) → motive (front ++ cs) from
    h [] (by simp)
  induction cs with
  | nil =>
    intro front hfront
    rw [List.append_nil]
    exact last front hfront
  | cons c cs ih =>
    intro front hfront
    cases hc : isMark c with
    | true => exact mark front c cs hfront hc (ih [] (by simp))
    | false =>
      rw [List.append_cons]
      refine ih (front ++ [c]) ?_
      intro d hd
      rcases List.mem_append.mp hd with hd | hd
      · exact hfront d hd
      · rw [List.mem_singleton.mp hd, hc]

/-! ## One line -/

theorem ne_newline_of_not_mem {l : List Char} (h : '\n' ∉ l) : ∀ c ∈ l, (c != '\n') = true := by
  intro c hc
  rw [bne_iff_ne]
  rintro rfl
  exact h hc

theorem lines_line {l : List Char} (h : '\n' ∉ l) (rest : List Char) :
    lines (l ++ '\n' :: rest) = dropReturn l :: lines rest := by
  have hmem : '\n' ∈ l ++ '\n' :: rest := by simp
  have htake : (l ++ '\n' :: rest).takeWhile (· != '\n') = l := by
    rw [List.takeWhile_append_of_pos (ne_newline_of_not_mem h)]
    simp
  have hdrop : (l ++ '\n' :: rest).dropWhile (· != '\n') = '\n' :: rest := by
    rw [List.dropWhile_append_of_pos (ne_newline_of_not_mem h)]
    simp
  obtain ⟨c, cs, hcons⟩ := List.exists_cons_of_ne_nil (List.ne_nil_of_mem hmem)
  rw [hcons] at hmem htake hdrop ⊢
  rw [lines, if_pos hmem, htake, hdrop, List.tail_cons]

theorem lines_of_not_mem {l : List Char} (h : '\n' ∉ l) (hne : l ≠ []) : lines l = [l] := by
  obtain ⟨c, cs, rfl⟩ := List.exists_cons_of_ne_nil hne
  rw [lines, if_neg h]

theorem line_induction {motive : List Char → Prop} (cs : List Char)
    (last : ∀ l, '\n' ∉ l → motive l)
    (line : ∀ l rest, '\n' ∉ l → motive rest → motive (l ++ '\n' :: rest)) : motive cs := by
  have hfree : ∀ l : List Char, (∀ c ∈ l, (c == '\n') = false) → '\n' ∉ l := by
    intro l hl hmem
    simpa using hl '\n' hmem
  induction cs using mark_induction (· == '\n') with
  | last l hl => exact last l (hfree l hl)
  | mark l m rest hl hm ih =>
    rw [beq_iff_eq] at hm
    rw [hm]
    exact line l rest (hfree l hl) ih

/-! ## Whole texts -/

/-- Nothing stands behind the last line end. -/
def Terminated (cs : List Char) : Prop := cs = [] ∨ cs.getLast? = some '\n'

instance (cs : List Char) : Decidable (Terminated cs) := by
  unfold Terminated
  infer_instance

theorem terminated_of_line {l rest : List Char} (h : Terminated (l ++ '\n' :: rest)) :
    Terminated rest := by
  unfold Terminated at *
  rw [List.getLast?_append, List.getLast?_cons] at h
  cases hlast : rest.getLast? with
  | none => exact .inl (List.getLast?_eq_none_iff.mp hlast)
  | some c => simp_all

theorem eq_nil_of_terminated {l : List Char} (h : '\n' ∉ l) (hl : Terminated l) : l = [] := by
  rcases hl with hnil | hlast
  · exact hnil
  · exact absurd (List.mem_of_getLast? hlast) h

theorem lines_append {cs : List Char} (h : Terminated cs) (ds : List Char) :
    lines (cs ++ ds) = lines cs ++ lines ds := by
  induction cs using line_induction with
  | last l hl => rw [eq_nil_of_terminated hl h, lines, List.nil_append, List.nil_append]
  | line l rest hl ih =>
    rw [List.append_assoc, List.cons_append, lines_line hl, lines_line hl,
      ih (terminated_of_line h), List.cons_append]

/-- What stands behind the last line end, if that is not all, is a line of its own. -/
theorem exists_last_line {cs : List Char} (h : ¬Terminated cs) :
    ∃ front l, cs = front ++ l ∧ Terminated front ∧ '\n' ∉ l ∧ l ≠ [] := by
  induction cs using line_induction with
  | last l hl => exact ⟨[], l, rfl, .inl rfl, hl, fun hnil => h (.inl hnil)⟩
  | line l rest hl ih =>
    have hrest : ¬Terminated rest := by
      rintro (rfl | hlast)
      · exact h (.inr (by simp))
      · exact h (.inr (by simp [List.getLast?_append, List.getLast?_cons, hlast]))
    obtain ⟨front, last, rfl, hfront, hlast, hne⟩ := ih hrest
    refine ⟨l ++ '\n' :: front, last, by simp, .inr ?_, hlast, hne⟩
    rcases hfront with rfl | hend
    · simp
    · simp [List.getLast?_append, List.getLast?_cons, hend]

/-! ## Words -/

theorem words_of_blank {b : Char} (h : isBlank b = true) (cs : List Char) :
    words (b :: cs) = words cs := by
  rw [words, if_pos h]

theorem words_word {w : List Char} (h : ∀ c ∈ w, isBlank c = false) (hne : w ≠ []) :
    words w = [w] := by
  obtain ⟨c, cs, rfl⟩ := List.exists_cons_of_ne_nil hne
  rw [List.forall_mem_cons] at h
  have hall : ∀ d ∈ cs, (!isBlank d) = true := by
    intro d hd
    rw [h.2 d hd, Bool.not_false]
  have htake : cs.takeWhile (!isBlank ·) = cs := List.takeWhile_eq_self_iff.mpr hall
  have hdrop : cs.dropWhile (!isBlank ·) = [] := List.dropWhile_eq_nil_iff.mpr hall
  rw [words, if_neg (by simp [h.1]), htake, hdrop, words]

theorem words_first {w : List Char} (h : ∀ c ∈ w, isBlank c = false) {b : Char}
    (hb : isBlank b = true) (rest : List Char) :
    words (w ++ b :: rest) = words w ++ words rest := by
  cases w with
  | nil => rw [List.nil_append, words_of_blank hb, words, List.nil_append]
  | cons c cs =>
    rw [words_word h (List.cons_ne_nil c cs)]
    rw [List.forall_mem_cons] at h
    have hall : ∀ d ∈ cs, (!isBlank d) = true := by
      intro d hd
      rw [h.2 d hd, Bool.not_false]
    have htake : (cs ++ b :: rest).takeWhile (!isBlank ·) = cs := by
      rw [List.takeWhile_append_of_pos hall]
      simp [hb]
    have hdrop : (cs ++ b :: rest).dropWhile (!isBlank ·) = b :: rest := by
      rw [List.dropWhile_append_of_pos hall]
      simp [hb]
    rw [List.cons_append, words, if_neg (by simp [h.1]), htake, hdrop, words_of_blank hb,
      List.singleton_append]

theorem words_append_blank (cs : List Char) {b : Char} (h : isBlank b = true) (ds : List Char) :
    words (cs ++ b :: ds) = words cs ++ words ds := by
  induction cs using mark_induction isBlank with
  | last w hw => exact words_first hw h ds
  | mark w b' rest hw hb' ih =>
    rw [List.append_assoc, List.cons_append, words_first hw hb', words_first hw hb', ih,
      List.append_assoc]

theorem words_ne_nil {w : List Char} (h : ∀ c ∈ w, isBlank c = false) (hne : w ≠ [])
    (ds : List Char) : words (w ++ ds) ≠ [] := by
  obtain ⟨c, cs, rfl⟩ := List.exists_cons_of_ne_nil hne
  rw [List.forall_mem_cons] at h
  rw [List.cons_append, words, if_neg (by simp [h.1])]
  exact List.cons_ne_nil _ _

theorem length_words_le_append (cs ds : List Char) :
    (words cs).length ≤ (words (cs ++ ds)).length := by
  induction cs using mark_induction isBlank with
  | last w hw =>
    by_cases hne : w = []
    · simp [hne, words]
    · rw [words_word hw hne, List.length_singleton]
      exact List.length_pos_iff.mpr (words_ne_nil hw hne ds)
  | mark w b rest hw hb ih =>
    rw [List.append_assoc, List.cons_append, words_first hw hb, words_first hw hb,
      List.length_append, List.length_append]
    exact Nat.add_le_add_left ih _

theorem isBlank_of_mem_words {cs w : List Char} (h : w ∈ words cs) :
    w ≠ [] ∧ ∀ c ∈ w, isBlank c = false := by
  have hfirst : ∀ l : List Char, (∀ c ∈ l, isBlank c = false) → w ∈ words l →
      w ≠ [] ∧ ∀ c ∈ w, isBlank c = false := by
    intro l hl hw
    by_cases hne : l = []
    · rw [hne, words] at hw
      cases hw
    · rw [words_word hl hne, List.mem_singleton] at hw
      rw [hw]
      exact ⟨hne, hl⟩
  induction cs using mark_induction isBlank with
  | last l hl => exact hfirst l hl h
  | mark l b rest hl hb ih =>
    rw [words_first hl hb, List.mem_append] at h
    rcases h with h | h
    · exact hfirst l hl h
    · exact ih h

/-! ## Words in their places -/

theorem words_append_blanks {front : List Char} (h : ∀ c ∈ front, isBlank c = true)
    (cs : List Char) : words (front ++ cs) = words cs := by
  induction front with
  | nil => rfl
  | cons b front ih =>
    rw [List.forall_mem_cons] at h
    rw [List.cons_append, words_of_blank h.1, ih h.2]

/-- A word ends at a blank or with the text. -/
theorem words_spaced {front w rest : List Char} (hfront : ∀ c ∈ front, isBlank c = true)
    (hw : ∀ c ∈ w, isBlank c = false) (hne : w ≠ []) (hrest : ∀ c ∈ rest.head?, isBlank c = true) :
    words (front ++ w ++ rest) = w :: words rest := by
  rw [List.append_assoc, words_append_blanks hfront]
  cases rest with
  | nil => rw [List.append_nil, words_word hw hne, words]
  | cons b rest =>
    have hb : isBlank b = true := hrest b rfl
    rw [words_first hw hb, words_word hw hne, words_of_blank hb, List.singleton_append]

theorem words_eq_nil_iff {cs : List Char} : words cs = [] ↔ ∀ c ∈ cs, isBlank c = true := by
  constructor
  · intro h
    fun_induction words cs with
    | case1 => exact fun c hc => absurd hc (List.not_mem_nil)
    | case2 c cs hc ih => exact List.forall_mem_cons.mpr ⟨hc, ih h⟩
    | case3 => cases h
  · intro h
    have hwords := words_append_blanks h []
    rwa [List.append_nil, words] at hwords

/-- The first word of a text, and what the others are the words of. -/
theorem exists_of_words_eq_cons {cs w : List Char} {ws : List (List Char)} (h : words cs = w :: ws) :
    ∃ front rest, cs = front ++ w ++ rest ∧ (∀ c ∈ front, isBlank c = true) ∧
      (∀ c ∈ rest.head?, isBlank c = true) ∧ words rest = ws := by
  fun_induction words cs with
  | case1 => cases h
  | case2 b cs hb ih =>
    obtain ⟨front, rest, rfl, hfront, hrest⟩ := ih h
    exact ⟨b :: front, rest, rfl, List.forall_mem_cons.mpr ⟨hb, hfront⟩, hrest⟩
  | case3 c cs hc ih =>
    obtain ⟨rfl, rfl⟩ := List.cons.inj h
    refine ⟨[], cs.dropWhile (!isBlank ·), ?_, fun _ hmem => absurd hmem (List.not_mem_nil), ?_, rfl⟩
    · simp
    · intro b hb
      have hhead := List.head?_dropWhile_not (!isBlank ·) cs
      rw [Option.mem_def.mp hb] at hhead
      simpa using hhead

end UtxoWallet.Text
