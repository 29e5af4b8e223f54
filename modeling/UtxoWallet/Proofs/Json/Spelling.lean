import UtxoWallet.Proofs.Bytes.Hex
import UtxoWallet.Proofs.Bytes.Utf8
import UtxoWallet.Proofs.Json.Grammar
import UtxoWallet.Proofs.Json.Text

/-! # What a text between quotes spells

One text may be spelled in many ways. What is read is what is spelled, and nothing else is read.
-/

namespace UtxoWallet.Json

open Reader

/-- What stands behind a backslash, and the character that it spells. -/
inductive Escaped : List Char → Char → Prop
  | letter {c d : Char} (h : simpleEscape? c = some d) : Escaped [c] d
  | code {ds : List Char} {n : Nat} (h : IsCode ds n) (hlow : isLowSurrogate n = false)
      (hhigh : isHighSurrogate n = false) : Escaped ('u' :: ds) (Char.ofNat n)
  | pair {hs ls : List Char} {high low : Nat} (hhigh : IsCode hs high) (hlow : IsCode ls low)
      (high_isHigh : isHighSurrogate high = true) (low_isLow : isLowSurrogate low = true) :
      Escaped ('u' :: (hs ++ '\\' :: 'u' :: ls))
        (Char.ofNat (0x10000 + (high - 0xD800) * 0x400 + (low - 0xDC00)))

/-- What stands behind an opening quote, and the characters that it spells. -/
inductive Spells : List Char → List Char → Prop
  | close : Spells ['"'] []
  | plain {c : Char} {t cs : List Char} (hquote : c ≠ '"') (hback : c ≠ '\\') (hplain : ¬c < ' ')
      (later : Spells t cs) : Spells (c :: t) (c :: cs)
  | escape {e t cs : List Char} {c : Char} (h : Escaped e c) (later : Spells t cs) :
      Spells ('\\' :: (e ++ t)) (c :: cs)

def SpellsText (t : List Char) (s : String) : Prop := ∃ q, t = '"' :: q ∧ Spells q s.toList

/-! ## Four hexadecimal digits -/

section

variable {ds text rest : List Char} {n : Nat}

theorem digitValue?_of_foldlM {sum : Nat}
    (h : ds.foldlM (fun n c => (16 * n + ·) <$> Hex.digitValue? c) sum = some n) :
    ∀ c ∈ ds, ∃ d, Hex.digitValue? c = some d := by
  induction ds generalizing sum with
  | nil => simp
  | cons c ds ih =>
    rw [List.foldlM_cons, Option.bind_eq_bind, Option.bind_eq_some_iff] at h
    obtain ⟨next, hnext, hrest⟩ := h
    obtain ⟨d, hd, -⟩ := Option.map_eq_some_iff.mp hnext
    exact List.forall_mem_cons.mpr ⟨⟨d, hd⟩, ih hrest⟩

theorem foldl_utf8Size (h : ∀ c ∈ ds, c.utf8Size = 1) (count : Nat) :
    ds.foldl (fun n c => n + c.utf8Size) count = count + ds.length := by
  induction ds generalizing count with
  | nil => rfl
  | cons c ds ih =>
    rw [List.forall_mem_cons] at h
    rw [List.foldl_cons, ih h.2, h.1, List.length_cons]
    omega

/-- A digit is a single byte. -/
theorem byteCount_of_hexValue (h : hexValue ds = some n) : byteCount ds = ds.length := by
  have hsize : ∀ c ∈ ds, c.utf8Size = 1 := by
    intro c hc
    obtain ⟨d, hd⟩ := digitValue?_of_foldlM h c hc
    exact Text.utf8Size_of_lt
      (Nat.lt_of_le_of_lt (UInt32.le_iff_toNat_le.mp (Hex.le_of_digitValue? hd)) (by decide))
  rw [byteCount, foldl_utf8Size hsize, Nat.zero_add]

theorem read_hex (h : IsCode ds n) (rest : List Char) : hex.read (ds ++ rest) = .ok (n, rest) := by
  have htake : (ds ++ rest).take 4 = ds := by rw [← h.length, List.take_left]
  have hdrop : (ds ++ rest).drop 4 = rest := by rw [← h.length, List.drop_left]
  have hbytes : ¬byteCount ds < 4 := by
    rw [byteCount_of_hexValue h.value, h.length]
    decide
  simp only [hex, htake, hdrop, if_neg hbytes, h.value]

theorem isCode_of_read (h : hex.read text = .ok (n, rest)) :
    ∃ ds, text = ds ++ rest ∧ IsCode ds n := by
  simp only [hex] at h
  split at h
  · cases h
  next hbytes =>
  split at h
  · next n' hvalue =>
    cases h
    rw [byteCount_of_hexValue hvalue] at hbytes
    have hle := List.length_take_le 4 text
    exact ⟨text.take 4, (List.take_append_drop 4 text).symm, by omega, hvalue⟩
  · cases h

end

/-! ## Escapes -/

section

variable {e text rest : List Char} {c : Char}

theorem read_word (w rest : List Char) : (word w).read (w ++ rest) = .ok ((), rest) := by
  induction w with
  | nil => rfl
  | cons c w ih => rw [List.cons_append, word, read_bind, read_expect, Result.ok_bind, ih]

theorem read_word_eq_ok {w : List Char} (h : (word w).read text = .ok ((), rest)) :
    text = w ++ rest := by
  induction w generalizing text with
  | nil =>
    cases h
    rfl
  | cons c w ih =>
    rw [word, read_bind, Result.bind_eq_ok] at h
    obtain ⟨⟨_, after⟩, hc, hw⟩ := h
    rw [read_expect_eq_ok.mp hc, List.cons_append, ← ih hw]

theorem read_escape (h : Escaped e c) (rest : List Char) : escape.read (e ++ rest) = .ok (c, rest) := by
  cases h with
  | @letter d _ h =>
    have hne : d ≠ 'u' := by
      rintro rfl
      cases h
    exact read_escape_simple hne h rest
  | code h hlow hhigh => simp [escape, codePoint, read_hex h, hlow, hhigh]
  | @pair hs ls high low hhigh hlow high_isHigh low_isLow =>
    have hword := read_word ['\\', 'u'] (ls ++ rest)
    have hnotLow : isLowSurrogate high = false := by
      simp only [isHighSurrogate, isLowSurrogate, Bool.and_eq_true, decide_eq_true_eq,
        Bool.and_eq_false_iff, decide_eq_false_iff_not] at high_isHigh ⊢
      omega
    rw [List.cons_append, List.cons_append, List.nil_append] at hword
    simp [escape, codePoint, lowSurrogate, read_hex hhigh, read_hex hlow, hnotLow, high_isHigh,
      low_isLow, hword]

theorem escaped_of_codePoint (h : codePoint.read text = .ok (c, rest)) :
    ∃ e, text = e ++ rest ∧ Escaped ('u' :: e) c := by
  rw [codePoint, read_bind, Result.bind_eq_ok] at h
  obtain ⟨⟨n, after⟩, hn, h⟩ := h
  obtain ⟨ds, rfl, hds⟩ := isCode_of_read hn
  split at h
  · cases h
  next hlow =>
  split at h
  · next hhigh =>
    simp only [lowSurrogate, read_bind, Result.bind_eq_ok] at h
    obtain ⟨⟨low, _⟩, ⟨⟨_, _⟩, hword, ⟨m, _⟩, hm, h⟩, hpure⟩ := h
    obtain rfl := read_word_eq_ok hword
    obtain ⟨ls, rfl, hls⟩ := isCode_of_read hm
    split at h
    · next hisLow =>
      cases h
      obtain ⟨rfl, rfl⟩ := Prod.mk.inj (Except.ok.inj hpure)
      exact ⟨ds ++ '\\' :: 'u' :: ls, by simp, .pair hds hls hhigh hisLow⟩
    · cases h
  · next hhigh =>
    cases h
    exact ⟨ds, rfl, .code hds (by simpa using hlow) (by simpa using hhigh)⟩

theorem escaped_of_read (h : escape.read text = .ok (c, rest)) :
    ∃ e, text = e ++ rest ∧ Escaped e c := by
  cases text with
  | nil => cases h
  | cons d text =>
    rw [escape, read_bind, read_char_cons, Result.ok_bind] at h
    split at h
    · next hd =>
      obtain ⟨e, rfl, he⟩ := escaped_of_codePoint h
      obtain rfl : d = 'u' := hd
      exact ⟨'u' :: e, rfl, he⟩
    · split at h
      · next hsimple =>
        cases h
        exact ⟨[d], rfl, .letter hsimple⟩
      · cases h

theorem IsEscape.read (h : IsEscape e) (rest : List Char) :
    skippedEscape.read (e ++ rest) = .ok ((), rest) := by
  cases h with
  | @letter d h =>
    have hne : d ≠ 'u' := by
      rintro rfl
      cases h
    simp [skippedEscape, hne, h]
  | code h => simp [skippedEscape, read_hex h]

end

/-! ## Whole texts -/

section

variable {q text rest : List Char} {cs : List Char}

theorem quotedRest_of_spells (h : Spells q cs) (rest : List Char) :
    quotedRest escape id (q ++ rest) = .ok (cs, rest) := by
  induction h with
  | close => exact quotedRest_quote rest
  | plain hquote hback hplain _ ih =>
    rw [List.cons_append, quotedRest_of_plain hquote hback hplain, ih]
    rfl
  | escape h _ ih =>
    rw [List.cons_append, List.append_assoc, quotedRest_of_escape (read_escape h _), ih]
    rfl

theorem spells_of_quotedRest (h : quotedRest escape id text = .ok (cs, rest)) :
    ∃ q, text = q ++ rest ∧ Spells q cs := by
  fun_induction quotedRest escape id text generalizing cs with
  | case1 | case3 | case5 => cases h
  | case2 =>
    cases h
    exact ⟨['"'], rfl, .close⟩
  | case4 text c after hread _ ih =>
    obtain ⟨⟨cs, _⟩, hrest, hpair⟩ := map_eq_ok.mp h
    cases hpair
    obtain ⟨q, rfl, hq⟩ := ih hrest
    obtain ⟨e, rfl, he⟩ := escaped_of_read hread
    exact ⟨'\\' :: (e ++ q), by simp, .escape he hq⟩
  | case6 c text hquote hback hplain ih =>
    obtain ⟨⟨cs, _⟩, hrest, hpair⟩ := map_eq_ok.mp h
    cases hpair
    obtain ⟨q, rfl, hq⟩ := ih hrest
    exact ⟨c :: q, rfl, .plain hquote hback hplain hq⟩

theorem quotedRest_of_isQuoted (h : IsQuoted q) (rest : List Char) :
    ∃ units, quotedRest skippedEscape (fun _ => ()) (q ++ rest) = .ok (units, rest) := by
  induction h with
  | close => exact ⟨[], quotedRest_quote rest⟩
  | plain hquote hback hplain _ ih =>
    obtain ⟨units, ih⟩ := ih
    rw [List.cons_append, quotedRest_of_plain hquote hback hplain, ih]
    exact ⟨_, rfl⟩
  | escape h _ ih =>
    obtain ⟨units, ih⟩ := ih
    rw [List.cons_append, List.append_assoc, quotedRest_of_escape (h.read _), ih]
    exact ⟨_, rfl⟩

/-- A pair of surrogates is two escapes, and any other escape is one. -/
theorem IsQuoted.escaped {e : List Char} {c : Char} (h : Escaped e c) (hq : IsQuoted q) :
    IsQuoted ('\\' :: (e ++ q)) := by
  cases h with
  | letter h => exact .escape (.letter (by rw [h]; rfl)) hq
  | code h => exact .escape (.code h) hq
  | @pair hs ls _ _ hhigh hlow =>
    have hpair : 'u' :: (hs ++ '\\' :: 'u' :: ls) ++ q =
        ('u' :: hs) ++ '\\' :: (('u' :: ls) ++ q) := by simp
    rw [hpair]
    exact .escape (.code hhigh) (.escape (.code hlow) hq)

theorem Spells.isQuoted (h : Spells q cs) : IsQuoted q := by
  induction h with
  | close => exact .close
  | plain hquote hback hplain _ ih => exact .plain hquote hback hplain ih
  | escape h _ ih => exact ih.escaped h

theorem read_skippedTextRest (h : IsQuoted q) (rest : List Char) :
    skippedTextRest.read (q ++ rest) = .ok ((), rest) := by
  obtain ⟨units, hunits⟩ := quotedRest_of_isQuoted h rest
  change (quotedRest skippedEscape _ _).map _ = _
  rw [hunits]
  rfl

variable {s : String}

theorem read_textRest_of_spells (h : Spells q s.toList) (rest : List Char) :
    textRest.read (q ++ rest) = .ok (s, rest) := by
  change (quotedRest escape id _).map _ = _
  rw [quotedRest_of_spells h, Except.map, String.ofList_toList]

/-- Where a text ends does not depend on whether it is wanted. -/
theorem spells_of_read {rest' : List Char} (hq : IsQuoted q)
    (h : textRest.read (q ++ rest) = .ok (s, rest')) : rest' = rest ∧ Spells q s.toList := by
  obtain ⟨⟨cs, _⟩, hread, hpair⟩ := map_eq_ok.mp h
  cases hpair
  obtain ⟨p, hp, hspells⟩ := spells_of_quotedRest hread
  have hskip := read_skippedTextRest hq rest
  rw [hp, read_skippedTextRest hspells.isQuoted] at hskip
  cases hskip
  rw [List.append_cancel_right hp, String.toList_ofList]
  exact ⟨rfl, hspells⟩

end

/-! ## Texts with their quotes -/

section

variable {t : List Char} {s s' : String}

theorem SpellsText.isText (h : SpellsText t s) : IsText t := by
  obtain ⟨q, rfl, hq⟩ := h
  exact ⟨q, rfl, hq.isQuoted⟩

theorem SpellsText.unique (h : SpellsText t s) (h' : SpellsText t s') : s = s' := by
  obtain ⟨q, rfl, hq⟩ := h
  obtain ⟨_, hcons, hq'⟩ := h'
  cases hcons
  have hread := read_textRest_of_spells hq []
  rw [read_textRest_of_spells hq'] at hread
  cases hread
  rfl

end

end UtxoWallet.Json
