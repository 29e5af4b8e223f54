import Mathlib.Data.List.DropRight
import UtxoWallet.Json.Skipping
import UtxoWallet.Proofs.Json.Numeral
import UtxoWallet.Proofs.Json.Shape
import UtxoWallet.Proofs.Json.Spelling

/-! # Stepping over a value

However deep a value is, it is stepped over to its end and no further.
-/

namespace UtxoWallet.Json

open Reader

def Bracket.opening : Bracket → Char
  | .list => '['
  | .object => '\x7b'

section

variable {b : Bracket} {bs : List Bracket} {c : Char} {text cs rest : List Char}

/-! ## One step -/

theorem skipFrom_beforeValue (h : text.dropWhile isBlank = c :: cs) :
    skipFrom .beforeValue bs text =
      if c = '[' then skipFrom .opened (.list :: bs) cs
      else if c = '\x7b' then skipFrom .opened (.object :: bs) cs
      else skipPlain.read (c :: cs) >>= fun p => skipFrom .afterValue bs p.2 := by
  conv_lhs => rw [skipFrom]
  split
  · next hnil => simp [h] at hnil
  · next d after hcons =>
    obtain ⟨rfl, rfl⟩ := List.cons.inj (hcons.symm.trans h)
    congr 2
    split <;> next hread => rw [hread]; rfl

theorem skipFrom_opened (h : text.dropWhile isBlank = c :: cs) :
    skipFrom .opened (b :: bs) text =
      if c = b.closing then skipFrom .afterValue bs cs
      else (beforeValue b).read (c :: cs) >>= fun p => skipFrom .beforeValue (b :: bs) p.2 := by
  conv_lhs => rw [skipFrom]
  split
  · next hnil => simp [h] at hnil
  · next d after hcons =>
    obtain ⟨rfl, rfl⟩ := List.cons.inj (hcons.symm.trans h)
    congr 1
    split <;> next hread => rw [hread]; rfl

theorem skipFrom_afterValue (h : text.dropWhile isBlank = c :: cs) :
    skipFrom .afterValue (b :: bs) text =
      if c = b.closing then skipFrom .afterValue bs cs
      else if c = ',' then
        (beforeValue b).read cs >>= fun p => skipFrom .beforeValue (b :: bs) p.2
      else .error .malformed := by
  conv_lhs => rw [skipFrom]
  split
  · next hnil => simp [h] at hnil
  · next d after hcons =>
    obtain ⟨rfl, rfl⟩ := List.cons.inj (hcons.symm.trans h)
    congr 2
    split <;> next hread => rw [hread]; rfl

theorem skipFrom_done (text : List Char) : skipFrom .afterValue [] text = .ok text := by
  rw [skipFrom]
  decide

theorem skipFrom_opening (h : text.dropWhile isBlank = b.opening :: cs) :
    skipFrom .beforeValue bs text = skipFrom .opened (b :: bs) cs := by
  rw [skipFrom_beforeValue h]
  cases b <;> rfl

/-! ## One value -/

/-- From its first character on, this text is stepped over as a value. -/
def Passes (t : List Char) : Prop :=
  ∀ ⦃bs : List Bracket⦄ ⦃text rest : List Char⦄, text.dropWhile isBlank = t ++ rest → Ends rest →
    skipFrom .beforeValue bs text = skipFrom .afterValue bs rest

theorem passes_of_skipPlain {t : List Char} (hne : ∃ c cs, t = c :: cs ∧ c ≠ '[' ∧ c ≠ '\x7b')
    (h : Reads skipPlain t ()) : Passes t := by
  intro bs text rest htext hrest
  obtain ⟨c, cs, rfl, hlist, hobject⟩ := hne
  rw [List.cons_append] at htext
  rw [skipFrom_beforeValue htext, if_neg hlist, if_neg hobject, ← List.cons_append, h rest hrest]
  rfl

theorem exists_read_literal {t : List Char}
    (h : t ∈ ["null".toList, "true".toList, "false".toList]) :
    ∃ c ∈ ['n', 't', 'f'], ∃ w, t = c :: w ∧
      ∀ rest, (literal c).read (w ++ rest) = .ok ((), rest) := by
  simp only [List.mem_cons, List.not_mem_nil, or_false] at h
  rcases h with rfl | rfl | rfl
  · exact ⟨'n', by decide, "ull".toList, rfl, read_word _⟩
  · exact ⟨'t', by decide, "rue".toList, rfl, read_word _⟩
  · exact ⟨'f', by decide, "alse".toList, rfl, read_word _⟩

theorem passes_literal {t : List Char} (h : t ∈ ["null".toList, "true".toList, "false".toList]) :
    Passes t := by
  obtain ⟨c, hc, w, rfl, hread⟩ := exists_read_literal h
  have hfirst : c ≠ '[' ∧ c ≠ '\x7b' ∧ c ≠ '"' ∧ startsNumber c = false := by
    simp only [List.mem_cons, List.not_mem_nil, or_false] at hc
    rcases hc with rfl | rfl | rfl <;> decide
  obtain ⟨hlist, hobject, hquote, hnumber⟩ := hfirst
  refine passes_of_skipPlain ⟨c, w, rfl, hlist, hobject⟩ fun rest _ => ?_
  simp [skipPlain, hnumber, hquote, hread]

theorem passes_number {t : List Char} (h : IsNumber t) : Passes t := by
  obtain ⟨c, cs, rfl, hc⟩ := h.head
  refine passes_of_skipPlain ⟨c, cs, rfl, ?_, ?_⟩ fun rest hrest => ?_
  · rintro rfl
    exact absurd hc (by decide)
  · rintro rfl
    exact absurd hc (by decide)
  · obtain ⟨n, hread, -⟩ := exists_read_number h hrest
    have hnumber := hread .malformed
    rw [List.cons_append] at hnumber ⊢
    simp [skipPlain, hc, hnumber]

theorem passes_text {t : List Char} (h : IsText t) : Passes t := by
  obtain ⟨q, rfl, hq⟩ := h
  refine passes_of_skipPlain ⟨'"', q, rfl, by decide, by decide⟩ fun rest _ => ?_
  have hstart : startsNumber '"' = false := by decide
  simp [skipPlain, hstart, read_skippedTextRest hq]

end

/-! ## Values within brackets -/

/-- Where this text stands between brackets, this value is what is to be stepped over in it. -/
structure Brings (b : Bracket) (item : List Char) (value : Spaced) : Prop where
  passes : Passes value.inner
  opens : ∀ rest, ∃ c cs, (item ++ rest).dropWhile isBlank = c :: cs ∧ c ≠ b.closing
  leads : ∀ ⦃text rest : List Char⦄,
    text.dropWhile isBlank = (item ++ rest).dropWhile isBlank →
    ∃ after, (beforeValue b).read text = .ok ((), after) ∧
      after.dropWhile isBlank = value.inner ++ (value.back ++ rest)

section

variable {b : Bracket} {bs : List Bracket} {text rest : List Char} {ι : Type}
  {write : ι → List Char} {value : ι → Spaced} {items : List ι}

theorem skipFrom_later (h : ∀ i ∈ items, Brings b (write i) (value i))
    (htext : text.dropWhile isBlank = (items.map write).flatMap (',' :: ·) ++ b.closing :: rest) :
    skipFrom .afterValue (b :: bs) text = skipFrom .afterValue bs rest := by
  have hclosing : goesOn b.closing = false := by cases b <;> decide
  have hblank : isBlank b.closing = false := by cases b <;> decide
  have hcomma : ',' ≠ b.closing := by cases b <;> decide
  induction items generalizing text with
  | nil => rw [skipFrom_afterValue htext, if_pos rfl]
  | cons i items ih =>
    rw [List.forall_mem_cons] at h
    obtain ⟨hi, hitems⟩ := h
    rw [List.map_cons, List.flatMap_cons, List.cons_append, List.cons_append, List.append_assoc]
      at htext
    obtain ⟨after, hread, hafter⟩ := hi.leads rfl
    rw [skipFrom_afterValue htext, if_neg hcomma, if_pos rfl, hread, Result.ok_bind,
      hi.passes hafter ((value i).blanks_back.ends (ends_later b.closing hclosing _ rest))]
    refine ih hitems ?_
    exact (value i).blanks_back.dropWhile_later b.closing hblank _ rest

theorem skipFrom_items (h : ∀ i ∈ items, Brings b (write i) (value i))
    (htext : text.dropWhile isBlank =
      (Written.commaSeparated (items.map write) ++ b.closing :: rest).dropWhile isBlank) :
    skipFrom .opened (b :: bs) text = skipFrom .afterValue bs rest := by
  have hclosing : goesOn b.closing = false := by cases b <;> decide
  have hblank : isBlank b.closing = false := by cases b <;> decide
  cases items with
  | nil =>
    rw [List.map_nil, Written.commaSeparated, List.nil_append, List.dropWhile_cons_of_neg
      (by rw [hblank]; decide)] at htext
    rw [skipFrom_opened htext, if_pos rfl]
  | cons i items =>
    rw [List.forall_mem_cons] at h
    obtain ⟨hi, hitems⟩ := h
    rw [List.map_cons, commaSeparated_cons, List.append_assoc] at htext
    obtain ⟨c, cs, hcons, hc⟩ := hi.opens ((items.map write).flatMap (',' :: ·) ++ b.closing :: rest)
    have hsame : (c :: cs).dropWhile isBlank = (write i ++
        ((items.map write).flatMap (',' :: ·) ++ b.closing :: rest)).dropWhile isBlank := by
      rw [← hcons, List.dropWhile_idempotent]
    obtain ⟨after, hread, hafter⟩ := hi.leads hsame
    rw [skipFrom_opened (htext.trans hcons), if_neg hc, hread, Result.ok_bind,
      hi.passes hafter ((value i).blanks_back.ends (ends_later b.closing hclosing _ rest))]
    refine skipFrom_later hitems ?_
    exact (value i).blanks_back.dropWhile_later b.closing hblank _ rest

end

/-! ## Items of lists and members of objects -/

theorem Spaced.dropWhile {s : Spaced} (h : IsValue s.inner) (rest : List Char) :
    (s.text ++ rest).dropWhile isBlank = s.inner ++ (s.back ++ rest) := by
  rw [Spaced.text, List.append_assoc, List.append_assoc, s.blanks_front.dropWhile, h.dropWhile]

theorem brings_item {i : Spaced} (h : IsValue i.inner) (hpasses : Passes i.inner) :
    Brings .list i.text i where
  passes := hpasses
  opens rest := by
    obtain ⟨c, cs, hcons, hc⟩ := h.head
    rw [Spaced.dropWhile h, hcons]
    exact ⟨c, _, rfl, ne_of_startsValue hc (by decide)⟩
  leads text rest htext := ⟨text, rfl, htext.trans (Spaced.dropWhile h rest)⟩

theorem read_colon {blanks : List Char} (h : Blanks blanks) (rest : List Char) :
    colon.read (blanks ++ ':' :: rest) = .ok ((), rest) := by
  simp [colon, h.dropWhile, isBlank]

/-- What a member of an object looks like once the blanks in front of it are gone. -/
theorem Entry.dropWhile {e : Entry} {q : List Char} (hkey : e.key.inner = '"' :: q) (hq : IsQuoted q)
    (rest : List Char) : (e.text ++ rest).dropWhile isBlank =
      '"' :: (q ++ (e.key.back ++ ':' :: (e.value.text ++ rest))) := by
  have hvalue : IsValue e.key.inner := .text ⟨q, hkey, hq⟩
  rw [Entry.text, List.append_assoc, Spaced.dropWhile hvalue, hkey, List.cons_append,
    List.cons_append]

theorem brings_entry {e : Entry} (hkey : IsText e.key.inner) (h : IsValue e.value.inner)
    (hpasses : Passes e.value.inner) : Brings .object e.text e.value := by
  obtain ⟨q, hcons, hq⟩ := hkey
  refine ⟨hpasses, fun rest => ⟨'"', _, Entry.dropWhile hcons hq rest, by decide⟩, ?_⟩
  intro text rest htext
  rw [Entry.dropWhile hcons hq] at htext
  refine ⟨e.value.text ++ rest, ?_, Spaced.dropWhile h rest⟩
  simp [beforeValue, htext, read_skippedTextRest hq, read_colon e.key.blanks_back]

theorem passes_brackets {b : Bracket} {ι : Type} {write : ι → List Char} {value : ι → Spaced}
    {items : List ι} {front : List Char} (hfront : Blanks front)
    (h : ∀ i ∈ items, Brings b (write i) (value i)) :
    Passes (b.opening :: (front ++ (Written.commaSeparated (items.map write) ++ [b.closing]))) := by
  intro bs text rest htext _
  rw [List.cons_append] at htext
  rw [skipFrom_opening htext]
  refine skipFrom_items h ?_
  simp [hfront.dropWhile]

/-- A value is stepped over to its end. -/
theorem passes_of_isValue {t : List Char} (h : IsValue t) : Passes t := by
  induction h with
  | literal h => exact passes_literal h
  | number h => exact passes_number h
  | text h => exact passes_text h
  | @list front items hfront hitems ih =>
    exact passes_brackets hfront fun i hi => brings_item (hitems i hi) (ih i hi)
  | @object front entries hfront hkeys hvalues ih =>
    exact passes_brackets hfront fun e he => brings_entry (hkeys e he) (hvalues e he) (ih e he)

theorem read_skip {s : Spaced} {rest : List Char} (h : IsValue s.inner) (hrest : Ends rest) :
    skip.read (s.text ++ rest) = .ok ((), s.back ++ rest) := by
  change (skipFrom .beforeValue [] (s.text ++ rest)).map _ = _
  rw [passes_of_isValue h (Spaced.dropWhile h rest) (s.blanks_back.ends hrest), skipFrom_done]
  rfl

end UtxoWallet.Json
