import Mathlib.Data.List.Forall2
import UtxoWallet.Proofs.Json.Skipping

/-! # What a reader makes of a value

Of all values a reader takes those that spell something for it, and it takes them to their end. So a
text that is well formed is never read out of step.
-/

namespace UtxoWallet.Json

open Reader

variable {α : Type} {r : Reader α} {spelled : List Char → α → Prop}

/-- The reader takes the values that spell something, and no others. -/
structure Judges (r : Reader α) (spelled : List Char → α → Prop) : Prop where
  /-- Blanks in front make no difference. -/
  blanks : ∀ text, r.read (text.dropWhile isBlank) = r.read text
  read_iff : ∀ {t rest rest' : List Char} {a : α}, IsValue t → Ends rest →
    (r.read (t ++ rest) = .ok (a, rest') ↔ rest' = rest ∧ spelled t a)

namespace Judges

variable {s : Spaced} {t rest rest' : List Char} {a a' : α}

theorem read_blanks (h : Judges r spelled) {blanks : List Char} (hblanks : Blanks blanks)
    (text : List Char) : r.read (blanks ++ text) = r.read text := by
  rw [← h.blanks, hblanks.dropWhile, h.blanks]

theorem read_spaced (h : Judges r spelled) (hs : IsValue s.inner) (hrest : Ends rest) :
    r.read (s.text ++ rest) = .ok (a, rest') ↔ rest' = s.back ++ rest ∧ spelled s.inner a := by
  rw [← h.blanks, Spaced.dropWhile hs, h.read_iff hs (s.blanks_back.ends hrest)]

/-- A value spells one thing only. -/
theorem unique (h : Judges r spelled) (ht : IsValue t) (ha : spelled t a) (ha' : spelled t a') :
    a = a' := by
  have hread := (h.read_iff ht ends_nil).mpr ⟨rfl, ha⟩
  rw [(h.read_iff ht ends_nil).mpr ⟨rfl, ha'⟩] at hread
  cases hread
  rfl

theorem whole_iff (h : Judges r spelled) (hs : IsValue s.inner) :
    r.whole (String.ofList s.text) = .ok a ↔ spelled s.inner a := by
  have hread : ∀ b after, r.read s.text = .ok (b, after) ↔ after = s.back ∧ spelled s.inner b := by
    intro b after
    rw [← List.append_nil s.text, h.read_spaced hs ends_nil, List.append_nil]
  have hback : s.back.dropWhile isBlank = [] := List.dropWhile_eq_nil_iff.mpr s.blanks_back
  rw [Reader.whole, String.toList_ofList, Result.bind_eq_ok]
  constructor
  · rintro ⟨⟨b, after⟩, hafter, hb⟩
    obtain ⟨rfl, hspelled⟩ := (hread b after).mp hafter
    dsimp only at hb
    rw [hback, List.isEmpty_nil, if_pos rfl] at hb
    cases hb
    exact hspelled
  · intro hspelled
    refine ⟨(a, s.back), (hread a s.back).mpr ⟨rfl, hspelled⟩, ?_⟩
    dsimp only
    rw [hback, List.isEmpty_nil, if_pos rfl]
    rfl

end Judges

/-! ## Plain values -/

theorem read_blanks_bind (k : Unit → Reader α) (text : List Char) :
    (Reader.blanks >>= k).read (text.dropWhile isBlank) = (Reader.blanks >>= k).read text := by
  simp [List.dropWhile_idempotent]

theorem bind_fail_ne_ok {β : Type} (r : Reader β) (fault : β → Fault) {text : List Char}
    {p : α × List Char} : (r >>= fun b => (fail (fault b) : Reader α)).read text ≠ .ok p := by
  rw [read_bind]
  intro h
  obtain ⟨_, _, hfail⟩ := Result.bind_eq_ok.mp h
  cases hfail

theorem otherShape_ne_ok {text : List Char} {p : α × List Char} :
    (otherShape : Reader α).read text ≠ .ok p := by
  intro h
  rw [otherShape, read_bind, read_peek, Result.ok_bind] at h
  cases text with
  | nil => cases h
  | cons c cs =>
    dsimp only [List.head?_cons] at h
    split at h
    · exact bind_fail_ne_ok _ _ h
    · split at h
      · cases h
      · rw [read_bind, read_char_cons, Result.ok_bind] at h
        split at h <;> exact bind_fail_ne_ok _ _ h

/-- Where a value may start with one character only, any other is a fault. -/
theorem read_opening_eq_ok {c d : Char} {text : List Char} {p : α × List Char}
    (h : isBlank d = false) :
    (opening c r).read (d :: text) = .ok p ↔ d = c ∧ r.read text = .ok p := by
  by_cases hd : d = c
  · subst hd
    rw [read_opening h, and_iff_right rfl]
  · have hnone : ∀ d' ∈ (d :: text).head?, d' ∉ [c] := by
      rintro d' hd' hmem
      cases hd'
      exact hd (List.mem_singleton.mp hmem)
    have hother : (opening c r).read (d :: text) = (otherShape : Reader α).read (d :: text) := by
      simp [opening, h, read_accept_none hnone]
    rw [hother]
    exact ⟨fun hread => absurd hread otherShape_ne_ok, fun hread => absurd hread.1 hd⟩

theorem judges_text : Judges Reader.text SpellsText where
  blanks text := read_blanks_bind _ text
  read_iff {t rest rest' s} ht hrest := by
    obtain ⟨c, q, rfl, hc⟩ := ht.head
    rw [Reader.text, List.cons_append, read_opening_eq_ok (isBlank_of_startsValue hc)]
    constructor
    · rintro ⟨rfl, hread⟩
      obtain ⟨rfl, hq⟩ := spells_of_read ht.isQuoted hread
      exact ⟨rfl, q, rfl, hq⟩
    · rintro ⟨rfl, q', hcons, hq⟩
      cases hcons
      exact ⟨rfl, read_textRest_of_spells hq rest'⟩

theorem judges_natural : Judges Reader.natural fun t n => t = Text.decimal n where
  blanks text := read_blanks_bind _ text
  read_iff {t rest rest' n} ht hrest := by
    constructor
    · intro h
      obtain ⟨c, cs, rfl, hc⟩ := ht.head
      have hblank := isBlank_of_startsValue hc
      rw [List.cons_append] at h
      simp only [natural, read_bind, read_blanks, Result.ok_bind, read_peek] at h
      rw [List.dropWhile_cons_of_neg (by rw [hblank]; decide)] at h
      dsimp only [List.head?_cons] at h
      split at h
      · next hnumber =>
        obtain ⟨m, hm, hnatural⟩ := exists_read_number (ht.isNumber hnumber) hrest
        rw [read_bind, ← List.cons_append, hm, Result.ok_bind] at h
        dsimp only at h
        split at h
        · next value hvalue =>
          cases h
          exact ⟨rfl, hnatural _ hvalue⟩
        · cases h
      · exact absurd h otherShape_ne_ok
    · rintro ⟨rfl, rfl⟩
      exact reads_natural n rest' hrest

theorem read_null (rest : List Char) : null.read ("null".toList ++ rest) = .ok ((), rest) := by
  have hword := read_word "ull".toList rest
  simpa [null, isBlank, literal] using hword

theorem judges_null : Judges Reader.null fun t _ => t = "null".toList where
  blanks text := read_blanks_bind _ text
  read_iff {t rest rest' _} ht hrest := by
    constructor
    · intro h
      obtain ⟨c, cs, rfl, hc⟩ := ht.head
      by_cases hn : c = 'n'
      · subst hn
        rw [ht.eq_null, read_null] at h
        cases h
        exact ⟨rfl, ht.eq_null⟩
      · rw [List.cons_append] at h
        simp only [null, read_bind, read_blanks, Result.ok_bind, read_peek] at h
        rw [List.dropWhile_cons_of_neg (by rw [isBlank_of_startsValue hc]; decide)] at h
        dsimp only [List.head?_cons] at h
        split at h
        · next hsome => exact absurd (Option.some.inj hsome) hn
        · exact absurd h otherShape_ne_ok
    · rintro ⟨rfl, rfl⟩
      exact read_null rest'

/-! ## Names -/

section

variable {names : List (String × α)} {t rest rest' : List Char} {a : α}

def SpellsName (names : List (String × α)) (t : List Char) (a : α) : Prop :=
  ∃ name, names.lookup name = some a ∧ SpellsText t name

/-- A name stands alone, or as the key of a null and of nothing else. -/
inductive SpellsOneOf (names : List (String × α)) : List Char → α → Prop
  | name {t : List Char} {a : α} (h : SpellsName names t a) : SpellsOneOf names t a
  | key {o : ObjectText} {e : Entry} {a : α} (hentries : o.entries = [e])
      (hkey : SpellsName names e.key.inner a) (hvalue : e.value.inner = "null".toList) :
      SpellsOneOf names o.text a

theorem read_nameIn_eq_ok {q : List Char} (hq : IsQuoted q) :
    (nameIn names).read (q ++ rest) = .ok (a, rest') ↔
      rest' = rest ∧ SpellsName names ('"' :: q) a := by
  rw [nameIn, read_bind, Result.bind_eq_ok]
  constructor
  · rintro ⟨⟨name, after⟩, hread, hlookup⟩
    obtain ⟨rfl, hspells⟩ := spells_of_read hq hread
    dsimp only at hlookup
    split at hlookup
    · next b hb =>
      cases hlookup
      exact ⟨rfl, name, hb, q, rfl, hspells⟩
    · cases hlookup
  · rintro ⟨rfl, name, hlookup, q', hcons, hspells⟩
    cases hcons
    refine ⟨(name, rest'), read_textRest_of_spells hspells rest', ?_⟩
    dsimp only
    rw [hlookup]
    rfl

theorem judges_name : Judges (opening '"' (nameIn names)) (SpellsName names) where
  blanks text := read_blanks_bind _ text
  read_iff {t rest rest' a} ht hrest := by
    obtain ⟨c, q, rfl, hc⟩ := ht.head
    rw [List.cons_append, read_opening_eq_ok (isBlank_of_startsValue hc)]
    constructor
    · rintro ⟨rfl, hread⟩
      exact (read_nameIn_eq_ok ht.isQuoted).mp hread
    · rintro ⟨rfl, name, hlookup, q', hcons, hspells⟩
      cases hcons
      exact ⟨rfl, (read_nameIn_eq_ok ht.isQuoted).mpr ⟨rfl, name, hlookup, q, rfl, hspells⟩⟩

theorem read_oneOf_text (text : List Char) :
    (oneOf names).read ('"' :: text) = (nameIn names).read text := by
  simp [oneOf, isBlank, read_accept]

theorem read_oneOf_object_eq_ok {text : List Char} :
    (oneOf names).read ('\x7b' :: text) = .ok (a, rest') ↔
      ∃ afterKey beforeNull afterNull,
        (opening '"' (nameIn names)).read text = .ok (a, afterKey) ∧
        colon.read afterKey = .ok ((), beforeNull) ∧ null.read beforeNull = .ok ((), afterNull) ∧
        afterNull.dropWhile isBlank = '\x7d' :: rest' := by
  have hread : (oneOf names).read ('\x7b' :: text) =
      (do let a ← opening '"' (nameIn names)
          colon
          null
          blanks
          expect '\x7d'
          return a : Reader α).read text := by
    simp [oneOf, isBlank, read_accept]
  rw [hread]
  simp only [read_bind, Result.bind_eq_ok, read_blanks, read_pure]
  constructor
  · rintro ⟨⟨_, afterKey⟩, hkey, ⟨_, beforeNull⟩, hcolon, ⟨_, afterNull⟩, hnull, _, hblanks,
      ⟨_, after⟩, hclose, hpure⟩
    cases hblanks
    cases hpure
    exact ⟨afterKey, beforeNull, afterNull, hkey, hcolon, hnull, read_expect_eq_ok.mp hclose⟩
  · rintro ⟨afterKey, beforeNull, afterNull, hkey, hcolon, hnull, hclose⟩
    exact ⟨(a, afterKey), hkey, ((), beforeNull), hcolon, ((), afterNull), hnull, _, rfl,
      ((), rest'), read_expect_eq_ok.mpr hclose, rfl⟩

theorem read_oneOf_other {c : Char} {text : List Char} {p : α × List Char}
    (hblank : isBlank c = false) (hquote : c ≠ '"') (hobject : c ≠ '\x7b') :
    (oneOf names).read (c :: text) ≠ .ok p := by
  have hnone : ∀ d ∈ (c :: text).head?, d ∉ ['"', '\x7b'] := by
    rintro d hd
    cases hd
    simp [hquote, hobject]
  simp [oneOf, hblank, read_accept_none hnone]

theorem ObjectText.text_append (o : ObjectText) (rest : List Char) :
    o.text ++ rest = '\x7b' :: (o.front ++
      (Written.commaSeparated (o.entries.map Entry.text) ++ '\x7d' :: rest)) := by
  simp [ObjectText.text, objectText]

theorem read_oneOf_objectText (o : ObjectText) :
    (oneOf names).read (o.text ++ rest) = .ok (a, rest') ↔
      rest' = rest ∧ ∃ e, o.entries = [e] ∧ SpellsName names e.key.inner a ∧
        e.value.inner = "null".toList := by
  have hkeys := o.isText
  have hvalues := o.isValue
  rw [o.text_append, read_oneOf_object_eq_ok]
  generalize o.entries = entries at hkeys hvalues ⊢
  cases entries with
  | nil =>
    have hclose : isBlank '\x7d' = false := rfl
    rw [List.map_nil, Written.commaSeparated, List.nil_append]
    constructor
    · rintro ⟨_, _, _, hkey, -⟩
      rw [judges_name.read_blanks o.blanks_front, read_opening_eq_ok hclose] at hkey
      exact absurd hkey.1 (by decide)
    · rintro ⟨-, e, hnil, -⟩
      cases hnil
  | cons e es =>
    rw [List.forall_mem_cons] at hkeys hvalues
    rw [List.map_cons, commaSeparated_cons, List.append_assoc, Entry.text, List.append_assoc,
      List.cons_append]
    have hends := ends_cons (c := ':') (by decide)
    have hlater := ends_later '\x7d' (by decide) (es.map Entry.text) rest
    constructor
    · rintro ⟨afterKey, beforeNull, afterNull, hkey, hcolon, hnull, hclose⟩
      rw [judges_name.read_blanks o.blanks_front,
        judges_name.read_spaced (.text hkeys.1) (hends _)] at hkey
      obtain ⟨rfl, hname⟩ := hkey
      cases hcolon.symm.trans (read_colon e.key.blanks_back _)
      rw [judges_null.read_spaced hvalues.1 hlater] at hnull
      obtain ⟨rfl, hvalue⟩ := hnull
      rw [e.value.blanks_back.dropWhile_later '\x7d' (by decide)] at hclose
      cases es with
      | nil =>
        cases hclose
        exact ⟨rfl, e, rfl, hname, hvalue⟩
      | cons e' es => exact absurd (List.cons.inj hclose).1 (by decide)
    · rintro ⟨rfl, e', hsingle, hname, hvalue⟩
      cases hsingle
      refine ⟨e.key.back ++ ':' :: (e.value.text ++ '\x7d' :: rest'), e.value.text ++ '\x7d' :: rest',
        e.value.back ++ '\x7d' :: rest', ?_, read_colon e.key.blanks_back _, ?_, ?_⟩
      · rw [judges_name.read_blanks o.blanks_front,
          judges_name.read_spaced (.text hkeys.1) (hends _)]
        exact ⟨rfl, hname⟩
      · exact (judges_null.read_spaced hvalues.1 hlater).mpr ⟨rfl, hvalue⟩
      · rw [e.value.blanks_back.dropWhile]
        rfl

theorem judges_oneOf : Judges (oneOf names) (SpellsOneOf names) where
  blanks text := read_blanks_bind _ text
  read_iff {t rest rest' a} ht hrest := by
    constructor
    · intro h
      obtain ⟨c, q, rfl, hc⟩ := ht.head
      by_cases hquote : c = '"'
      · subst hquote
        rw [List.cons_append, read_oneOf_text, read_nameIn_eq_ok ht.isQuoted] at h
        exact ⟨h.1, .name h.2⟩
      by_cases hobject : c = '\x7b'
      · subst hobject
        obtain ⟨o, ho⟩ := ht.exists_objectText
        rw [← ho, read_oneOf_objectText] at h
        obtain ⟨hrest', e, hentries, hkey, hvalue⟩ := h
        rw [← ho]
        exact ⟨hrest', .key hentries hkey hvalue⟩
      · exact absurd h (read_oneOf_other (isBlank_of_startsValue hc) hquote hobject)
    · rintro ⟨rfl, ⟨name, hlookup, q, rfl, hspells⟩ | ⟨hentries, hkey, hvalue⟩⟩
      · rw [List.cons_append, read_oneOf_text, read_nameIn_eq_ok hspells.isQuoted]
        exact ⟨rfl, name, hlookup, q, rfl, hspells⟩
      · exact (read_oneOf_objectText _).mpr ⟨rfl, _, hentries, hkey, hvalue⟩

end

/-! ## Lists -/

section

variable {item : Reader α} {text rest rest' : List Char} {as : List α}

/-- A list spells its values item by item. -/
def SpellsList (spelled : List Char → α → Prop) (t : List Char) (as : List α) : Prop :=
  ∃ l : ListText, l.text = t ∧ List.Forall₂ (fun i a => spelled i.inner a) l.items as

/-- One item, and whatever is made of those behind it. -/
theorem read_item_iff (h : Judges item spelled) {i : Spaced} {items : List Spaced}
    (hi : IsValue i.inner)
    (hlater : ∀ as, itemsRest item
        (i.back ++ ((items.map Spaced.text).flatMap (',' :: ·) ++ ']' :: rest)) = .ok (as, rest') ↔
      rest' = rest ∧ List.Forall₂ (fun i a => spelled i.inner a) items as) :
    (item.read (i.text ++ ((items.map Spaced.text).flatMap (',' :: ·) ++ ']' :: rest)) >>= fun p =>
        (itemsRest item p.2).map fun q => (p.1 :: q.1, q.2)) = .ok (as, rest') ↔
      rest' = rest ∧ List.Forall₂ (fun i a => spelled i.inner a) (i :: items) as := by
  have hends := ends_later ']' (by decide) (items.map Spaced.text) rest
  rw [Result.bind_eq_ok]
  constructor
  · rintro ⟨⟨a, after⟩, hitem, has⟩
    obtain ⟨rfl, ha⟩ := (h.read_spaced hi hends).mp hitem
    obtain ⟨⟨as, _⟩, hrest, hpair⟩ := map_eq_ok.mp has
    cases hpair
    obtain ⟨rfl, hspelled⟩ := (hlater as).mp hrest
    exact ⟨rfl, .cons ha hspelled⟩
  · rintro ⟨rfl, _ | ⟨ha, hspelled⟩⟩
    refine ⟨_, (h.read_spaced hi hends).mpr ⟨rfl, ha⟩, ?_⟩
    exact map_eq_ok.mpr ⟨_, (hlater _).mpr ⟨rfl, hspelled⟩, rfl⟩

theorem read_later_iff (h : Judges item spelled) {items : List Spaced}
    (hitems : ∀ i ∈ items, IsValue i.inner)
    (htext : text.dropWhile isBlank = (items.map Spaced.text).flatMap (',' :: ·) ++ ']' :: rest) :
    itemsRest item text = .ok (as, rest') ↔
      rest' = rest ∧ List.Forall₂ (fun i a => spelled i.inner a) items as := by
  induction items generalizing text as with
  | nil =>
    rw [itemsRest_of_close htext, List.forall₂_nil_left_iff]
    constructor
    · intro heq
      cases heq
      exact ⟨rfl, rfl⟩
    · rintro ⟨rfl, rfl⟩
      rfl
  | cons i items ih =>
    rw [List.forall_mem_cons] at hitems
    rw [List.map_cons, List.flatMap_cons, List.cons_append, List.cons_append, List.append_assoc]
      at htext
    rw [itemsRest_of_comma htext]
    refine read_item_iff h hitems.1 fun as => ih hitems.2 ?_
    exact i.blanks_back.dropWhile_later ']' (by decide) _ rest

theorem read_items_of_close {cs : List Char} (htext : text.dropWhile isBlank = ']' :: cs) :
    (items item).read text = .ok ([], cs) := by
  simp [items, htext, read_accept]

theorem read_items_of_first {c : Char} {cs : List Char} (htext : text.dropWhile isBlank = c :: cs)
    (hc : c ≠ ']') : (items item).read text = item.read (c :: cs) >>= fun p =>
      (itemsRest item p.2).map fun q => (p.1 :: q.1, q.2) := by
  have hnone : ∀ d ∈ (c :: cs).head?, d ∉ [']'] := by
    rintro d hd
    cases hd
    simpa using hc
  simp only [items, read_bind, read_blanks, Result.ok_bind, htext, read_accept_none hnone, laterItems,
    read_pure]
  rfl

theorem ListText.text_append (l : ListText) (rest : List Char) :
    l.text ++ rest = '[' :: (l.front ++
      (Written.commaSeparated (l.items.map Spaced.text) ++ ']' :: rest)) := by
  simp [ListText.text, listText]

theorem read_listText_iff (h : Judges item spelled) (l : ListText) :
    (list item).read (l.text ++ rest) = .ok (as, rest') ↔
      rest' = rest ∧ List.Forall₂ (fun i a => spelled i.inner a) l.items as := by
  have hvalues := l.isValue
  rw [l.text_append, list, read_opening (by decide)]
  generalize l.items = items at hvalues ⊢
  cases items with
  | nil =>
    have hclose : (l.front ++ ']' :: rest).dropWhile isBlank = ']' :: rest := by
      rw [l.blanks_front.dropWhile]
      rfl
    rw [List.map_nil, Written.commaSeparated, List.nil_append, read_items_of_close hclose,
      List.forall₂_nil_left_iff]
    constructor
    · intro heq
      cases heq
      exact ⟨rfl, rfl⟩
    · rintro ⟨rfl, rfl⟩
      rfl
  | cons i items =>
    rw [List.forall_mem_cons] at hvalues
    obtain ⟨hi, hitems⟩ := hvalues
    have hfirst := Spaced.dropWhile hi ((items.map Spaced.text).flatMap (',' :: ·) ++ ']' :: rest)
    obtain ⟨c, cs, hcons, hc⟩ := hi.head
    rw [hcons, List.cons_append] at hfirst
    rw [List.map_cons, commaSeparated_cons, List.append_assoc,
      read_items_of_first ((l.blanks_front.dropWhile _).trans hfirst)
        (ne_of_startsValue hc (by decide)), ← hfirst, h.blanks]
    refine read_item_iff h hi fun as => read_later_iff h hitems ?_
    exact i.blanks_back.dropWhile_later ']' (by decide) _ rest

theorem judges_list (h : Judges item spelled) : Judges (list item) (SpellsList spelled) where
  blanks text := read_blanks_bind _ text
  read_iff {t rest rest' as} ht hrest := by
    constructor
    · intro hread
      obtain ⟨c, cs, rfl, hc⟩ := ht.head
      have hopen := hread
      rw [list, List.cons_append, read_opening_eq_ok (isBlank_of_startsValue hc)] at hopen
      obtain rfl := hopen.1
      obtain ⟨l, hl⟩ := ht.exists_listText
      rw [← hl, read_listText_iff h] at hread
      exact ⟨hread.1, l, hl, hread.2⟩
    · rintro ⟨rfl, l, rfl, hspelled⟩
      exact (read_listText_iff h l).mpr ⟨rfl, hspelled⟩

/-- A list spells values in no other way than by its own items. -/
theorem spellsList_text (h : Judges item spelled) (l : ListText) :
    SpellsList spelled l.text as ↔ List.Forall₂ (fun i a => spelled i.inner a) l.items as := by
  have hread : (list item).read (l.text ++ []) = .ok (as, []) ↔
      List.Forall₂ (fun i a => spelled i.inner a) l.items as := by
    rw [read_listText_iff h, and_iff_right rfl]
  rw [← hread, (judges_list h).read_iff l.isValue_text ends_nil, and_iff_right rfl]

end

end UtxoWallet.Json
