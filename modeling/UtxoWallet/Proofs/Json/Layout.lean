import UtxoWallet.Proofs.Json.Fields
import UtxoWallet.Proofs.Json.Record

/-! # Records are read by their fields

The reader of a record takes the objects and lists that spell the record, and no other value.
-/

namespace UtxoWallet.Json

open Reader

variable {δ α : Type}

/-- How the members of a format are the fields of its records. -/
structure Layout (f : Format δ α) (fs : List (FieldOf α)) where
  slots : List (Slot δ α)
  members_eq : f.members = slots.map Slot.member
  fields_eq : fs = slots.map Slot.field
  apart : slots.Pairwise Slot.Apart
  draft_eq : ∀ s ∈ slots, s.get f.draft = none
  finish_iff : ∀ {d : δ} {a : α}, f.finish d = some a ↔ ∀ s ∈ slots, s.Held d a

/-! ## One member -/

section

variable {slots : List (Slot δ α)} {s : Slot δ α} {d d' : δ} {e : Entry} {es : List Entry} {a : α}
  {text rest rest' : List Char}

theorem Slot.read_value_eq_ok :
    (s.member.value d).read text = .ok (d', rest) ↔
      ∃ v, s.reader.read text = .ok (v, rest) ∧ d' = s.put v d := by
  change (s.reader >>= fun v => pure (s.put v d)).read text = _ ↔ _
  rw [read_bind, Result.bind_eq_ok]
  constructor
  · rintro ⟨⟨v, after⟩, hread, hpure⟩
    cases hpure
    exact ⟨v, hread, rfl⟩
  · rintro ⟨v, hread, rfl⟩
    exact ⟨(v, rest), hread, rfl⟩

theorem Slot.read_value_blanks (text : List Char) :
    (s.member.value d).read (text.dropWhile isBlank) = (s.member.value d).read text := by
  change (s.reader >>= fun v => pure (s.put v d)).read _ =
    (s.reader >>= fun v => pure (s.put v d)).read _
  rw [read_bind, read_bind, s.judges.blanks]

theorem find?_member {name : String} :
    (slots.map Slot.member).find? (·.name == name) =
      (slots.find? (·.name == name)).map Slot.member := by
  rw [List.find?_map]
  rfl

theorem find?_of_mem (hapart : slots.Pairwise Slot.Apart) (hs : s ∈ slots) :
    slots.find? (·.name == s.name) = some s := by
  cases hfind : slots.find? (·.name == s.name) with
  | none =>
    have hne := List.find?_eq_none.mp hfind s hs
    simp at hne
  | some s' =>
    have hname : s'.name = s.name := by simpa using List.find?_some hfind
    by_contra hne
    have hne' : s' ≠ s := fun h => hne (congrArg some h)
    exact (apart_of_ne hapart (List.mem_of_find?_eq_some hfind) hs hne').name hname

theorem takes_of_read {q : List Char} (hcons : e.key.inner = '"' :: q) (hq : IsQuoted q)
    (hvalue : IsValue e.value.inner) (hrest : Ends rest)
    (h : (member (slots.map Slot.member) d).read
      (q ++ (e.key.back ++ ':' :: (e.value.text ++ rest))) = .ok (d', rest')) :
    rest' = e.value.back ++ rest ∧ Takes slots d e d' := by
  have hcolon := read_colon e.key.blanks_back (e.value.text ++ rest)
  rw [member, read_bind, Result.bind_eq_ok] at h
  obtain ⟨⟨name, after⟩, hread, h⟩ := h
  obtain ⟨rfl, hspells⟩ := spells_of_read hq hread
  have hname : e.Named name := ⟨q, hcons, hspells⟩
  dsimp only at h
  rw [find?_member] at h
  cases hfind : slots.find? (·.name == name) with
  | none =>
    rw [hfind] at h
    simp only [Option.map_none, read_bind, hcolon, Result.ok_bind, read_skip hvalue hrest,
      read_pure] at h
    cases h
    refine ⟨rfl, .other hname fun s hs => ?_⟩
    simpa using List.find?_eq_none.mp hfind s hs
  | some s =>
    obtain rfl : s.name = name := by simpa using List.find?_some hfind
    rw [hfind] at h
    dsimp only [Option.map_some] at h
    split at h
    · cases h
    next hfree =>
    rw [read_bind, hcolon, Result.ok_bind, Slot.read_value_eq_ok] at h
    obtain ⟨v, hv, rfl⟩ := h
    obtain ⟨rfl, hspelled⟩ := (s.judges.read_spaced hvalue hrest).mp hv
    have hnone : s.get d = none := by simpa [Slot.member] using hfree
    exact ⟨rfl, .value (List.mem_of_find?_eq_some hfind) hname hnone hspelled⟩

theorem read_of_takes {q : List Char} (hapart : slots.Pairwise Slot.Apart)
    (hcons : e.key.inner = '"' :: q) (hvalue : IsValue e.value.inner) (hrest : Ends rest)
    (h : Takes slots d e d') :
    (member (slots.map Slot.member) d).read (q ++ (e.key.back ++ ':' :: (e.value.text ++ rest))) =
      .ok (d', e.value.back ++ rest) := by
  have hcolon := read_colon e.key.blanks_back (e.value.text ++ rest)
  cases h with
  | @other name hname hother =>
    obtain ⟨q', hcons', hspells⟩ := hname
    cases hcons.symm.trans hcons'
    have hfind : slots.find? (·.name == name) = none := by
      simpa [List.find?_eq_none] using hother
    simp only [member, read_bind, read_textRest_of_spells hspells, Result.ok_bind, find?_member,
      hfind, Option.map_none, hcolon, read_skip hvalue hrest, read_pure]
  | @value s v hs hname hfree hspelled =>
    obtain ⟨q', hcons', hspells⟩ := hname
    cases hcons.symm.trans hcons'
    have hgiven : ¬s.member.isGiven d = true := by simp [Slot.member, hfree]
    have hread : (s.member.value d).read (e.value.text ++ rest) =
        .ok (s.put v d, e.value.back ++ rest) :=
      Slot.read_value_eq_ok.mpr ⟨v, (s.judges.read_spaced hvalue hrest).mpr ⟨rfl, hspelled⟩, rfl⟩
    simp only [member, read_bind, read_textRest_of_spells hspells, Result.ok_bind, find?_member,
      find?_of_mem hapart hs, Option.map_some, if_neg hgiven, hcolon, hread]

/-- A member is read exactly as its entry says. -/
theorem read_nextMember_iff (hapart : slots.Pairwise Slot.Apart) (hkey : IsText e.key.inner)
    (hvalue : IsValue e.value.inner) (hrest : Ends rest)
    (htext : text.dropWhile isBlank = (e.text ++ rest).dropWhile isBlank) :
    (nextMember (slots.map Slot.member) d).read text = .ok (d', rest') ↔
      rest' = e.value.back ++ rest ∧ Takes slots d e d' := by
  obtain ⟨q, hcons, hq⟩ := hkey
  rw [Entry.dropWhile hcons hq] at htext
  rw [read_nextMember_eq_ok]
  constructor
  · rintro ⟨cs, hcs, hread⟩
    cases htext.symm.trans hcs
    exact takes_of_read hcons hq hvalue hrest hread
  · rintro ⟨rfl, htakes⟩
    exact ⟨_, htext, read_of_takes hapart hcons hvalue hrest htakes⟩

/-! ## Objects -/

/-- One member, and whatever is made of the draft with it. -/
theorem read_entry_iff {β : Type} {b : β} {later : δ × List Char → Except Fault (β × List Char)}
    {P : δ → Prop} (hapart : slots.Pairwise Slot.Apart) (hkey : IsText e.key.inner)
    (hvalue : IsValue e.value.inner)
    (htext : text.dropWhile isBlank =
      (e.text ++ ((es.map Entry.text).flatMap (',' :: ·) ++ '\x7d' :: rest)).dropWhile isBlank)
    (hlater : ∀ d', later (d', e.value.back ++
        ((es.map Entry.text).flatMap (',' :: ·) ++ '\x7d' :: rest)) = .ok (b, rest') ↔
      rest' = rest ∧ P d') :
    (nextMember (slots.map Slot.member) d).read text >>= later = .ok (b, rest') ↔
      rest' = rest ∧ ∃ d', Takes slots d e d' ∧ P d' := by
  have hends := ends_later '\x7d' (by decide) (es.map Entry.text) rest
  rw [Result.bind_eq_ok]
  constructor
  · rintro ⟨⟨d', after⟩, hread, hok⟩
    obtain ⟨rfl, htakes⟩ := (read_nextMember_iff hapart hkey hvalue hends htext).mp hread
    obtain ⟨rfl, hd'⟩ := (hlater d').mp hok
    exact ⟨rfl, d', htakes, hd'⟩
  · rintro ⟨rfl, d', htakes, hd'⟩
    exact ⟨_, (read_nextMember_iff hapart hkey hvalue hends htext).mpr ⟨rfl, htakes⟩,
      (hlater d').mpr ⟨rfl, hd'⟩⟩

theorem membersRest_iff (hapart : slots.Pairwise Slot.Apart) (hkeys : ∀ e ∈ es, IsText e.key.inner)
    (hvalues : ∀ e ∈ es, IsValue e.value.inner)
    (htext : text.dropWhile isBlank = (es.map Entry.text).flatMap (',' :: ·) ++ '\x7d' :: rest) :
    membersRest (slots.map Slot.member) d text = .ok (d', rest') ↔
      rest' = rest ∧ Runs slots d es d' := by
  induction es generalizing d text with
  | nil =>
    rw [membersRest_of_close htext]
    constructor
    · intro h
      cases h
      exact ⟨rfl, .nil _⟩
    · rintro ⟨rfl, ⟨⟩⟩
      rfl
  | cons e es ih =>
    rw [List.forall_mem_cons] at hkeys hvalues
    rw [List.map_cons, List.flatMap_cons, List.cons_append, List.cons_append, List.append_assoc]
      at htext
    rw [membersRest_of_comma htext, runs_cons]
    refine read_entry_iff hapart hkeys.1 hvalues.1 rfl fun d₁ => ih hkeys.2 hvalues.2 ?_
    exact e.value.blanks_back.dropWhile_later '\x7d' (by decide) _ rest

end

namespace Layout

variable {f : Format δ α} {fs : List (FieldOf α)} {rest rest' : List Char} {a : α}

theorem read_object_iff (l : Layout f fs) {front : List Char} (hfront : Blanks front)
    {es : List Entry} (hkeys : ∀ e ∈ es, IsText e.key.inner)
    (hvalues : ∀ e ∈ es, IsValue e.value.inner) :
    (object f).read
        (front ++ (Written.commaSeparated (es.map Entry.text) ++ '\x7d' :: rest)) = .ok (a, rest') ↔
      rest' = rest ∧ ∃ d, Runs l.slots f.draft es d ∧ f.finish d = some a := by
  cases es with
  | nil =>
    have hclose : (front ++ '\x7d' :: rest).dropWhile isBlank = '\x7d' :: rest := by
      rw [hfront.dropWhile]
      rfl
    rw [List.map_nil, Written.commaSeparated, List.nil_append, read_object_of_close hclose,
      read_finished_eq_ok]
    constructor
    · rintro ⟨rfl, hfinish⟩
      exact ⟨rfl, f.draft, .nil _, hfinish⟩
    · rintro ⟨rfl, _, ⟨⟩, hfinish⟩
      exact ⟨rfl, hfinish⟩
  | cons e es =>
    rw [List.forall_mem_cons] at hkeys hvalues
    obtain ⟨q, hcons, hq⟩ := hkeys.1
    have hfirst := Entry.dropWhile hcons hq ((es.map Entry.text).flatMap (',' :: ·) ++ '\x7d' :: rest)
    have hruns : (∃ d, Runs l.slots f.draft (e :: es) d ∧ f.finish d = some a) ↔
        ∃ d₁, Takes l.slots f.draft e d₁ ∧ ∃ d, Runs l.slots d₁ es d ∧ f.finish d = some a := by
      simp only [runs_cons, ← exists_and_right, ← exists_and_left, and_assoc]
      exact exists_comm
    rw [List.map_cons, commaSeparated_cons, List.append_assoc,
      read_object_of_first ((hfront.dropWhile _).trans hfirst) (by decide), ← hfirst,
      l.members_eq, hruns]
    refine read_entry_iff l.apart hkeys.1 hvalues.1 (List.dropWhile_idempotent _ _) fun d₁ => ?_
    have hback := e.value.blanks_back.dropWhile_later '\x7d' (by decide) (es.map Entry.text) rest
    rw [Result.bind_eq_ok]
    constructor
    · rintro ⟨⟨d, after⟩, hrest, hfinished⟩
      obtain ⟨rfl, hruns⟩ := (membersRest_iff l.apart hkeys.2 hvalues.2 hback).mp hrest
      obtain ⟨rfl, hfinish⟩ := read_finished_eq_ok.mp hfinished
      exact ⟨rfl, d, hruns, hfinish⟩
    · rintro ⟨rfl, d, hruns, hfinish⟩
      exact ⟨_, (membersRest_iff l.apart hkeys.2 hvalues.2 hback).mpr ⟨rfl, hruns⟩,
        read_finished_eq_ok.mpr ⟨rfl, hfinish⟩⟩

theorem exists_runs_iff_gives (l : Layout f fs) {es : List Entry} :
    (∃ d, Runs l.slots f.draft es d ∧ f.finish d = some a) ↔ Gives fs es a := by
  simp only [l.finish_iff]
  rw [exists_runs_iff l.apart]
  have hfills : ∀ s ∈ l.slots, s.Fills f.draft es a ↔
      s.field.Given es a ∨ s.field.LeftOut es ∧ s.field.absent a := by
    intro s hs
    simp [Slot.Fills, l.draft_eq s hs, Slot.field]
  constructor
  · rintro ⟨hnamed, hall⟩
    refine ⟨hnamed, fun g hg => ?_⟩
    rw [l.fields_eq] at hg
    obtain ⟨s, hs, rfl⟩ := List.mem_map.mp hg
    exact (hfills s hs).mp (hall s hs)
  · rintro ⟨hnamed, hall⟩
    refine ⟨hnamed, fun s hs => (hfills s hs).mpr (hall s.field ?_)⟩
    rw [l.fields_eq]
    exact List.mem_map_of_mem hs

/-! ## Lists -/

theorem apart_around (l : Layout f fs) {s : Slot δ α} {done todo : List (Slot δ α)}
    (hslots : l.slots = done ++ s :: todo) :
    (∀ s' ∈ done, s'.Apart s) ∧ ∀ s' ∈ todo, s.Apart s' := by
  have hpairs := l.apart
  rw [hslots, List.pairwise_append, List.pairwise_cons] at hpairs
  exact ⟨fun s' hs' => hpairs.2.2 s' hs' s List.mem_cons_self, hpairs.2.1.1⟩

section

variable {l : Layout f fs} {items : List Spaced} {done todo : List (Slot δ α)} {d : δ}
  {text : List Char}

/-- At the end of the list, the draft has to have what the fields need that have come, and those that
have not come may be left out. -/
theorem read_finished_iff (hslots : l.slots = done ++ todo) (hfree : ∀ s ∈ todo, s.get d = none) :
    (finished f d).read text = .ok (a, rest') ↔
      rest' = text ∧ Lists (todo.map Slot.field) [] a ∧ ∀ s ∈ done, s.Held d a := by
  have htodo : (∀ s ∈ todo, s.Held d a) ↔ Lists (todo.map Slot.field) [] a := by
    rw [lists_nil, List.forall_mem_map]
    exact forall₂_congr fun s hs => Slot.held_of_free (hfree s hs)
  rw [read_finished_eq_ok, l.finish_iff, hslots, List.forall_mem_append, htodo,
    and_comm (b := Lists _ _ _)]

/-- One value, and whatever is made of the draft with it. -/
theorem read_value_iff {s : Slot δ α} {i : Spaced} {rest' : List Char}
    (hslots : l.slots = done ++ s :: todo) (hi : IsValue i.inner)
    (hlater : ∀ v, (values f (s.put v d) false (todo.map Slot.member)).read
        (i.back ++ ((items.map Spaced.text).flatMap (',' :: ·) ++ ']' :: rest)) = .ok (a, rest') ↔
      rest' = rest ∧ Lists (todo.map Slot.field) items a ∧ ∀ s' ∈ done ++ [s], s'.Held (s.put v d) a) :
    ((s.member.value d).read
        (i.text ++ ((items.map Spaced.text).flatMap (',' :: ·) ++ ']' :: rest)) >>= fun p =>
          (values f p.1 false (todo.map Slot.member)).read p.2) = .ok (a, rest') ↔
      rest' = rest ∧ Lists (s.field :: todo.map Slot.field) (i :: items) a ∧
        ∀ s' ∈ done, s'.Held d a := by
  have hends := ends_later ']' (by decide) (items.map Spaced.text) rest
  have hdone : ∀ v, (∀ s' ∈ done, s'.Held (s.put v d) a) ↔ ∀ s' ∈ done, s'.Held d a := fun v =>
    forall₂_congr fun s' hs' => Slot.held_congr (((l.apart_around hslots).1 s' hs').get_put v d)
  simp only [List.forall_mem_append, List.forall_mem_singleton, Slot.held_put, hdone] at hlater
  rw [Result.bind_eq_ok]
  constructor
  · rintro ⟨⟨d', after⟩, hvalue, hrest⟩
    obtain ⟨v, hv, rfl⟩ := Slot.read_value_eq_ok.mp hvalue
    obtain ⟨rfl, hspelled⟩ := (s.judges.read_spaced hi hends).mp hv
    obtain ⟨rfl, hlists, hheld, rfl⟩ := (hlater v).mp hrest
    exact ⟨rfl, ⟨hspelled, hlists⟩, hheld⟩
  · rintro ⟨rfl, ⟨hspelled, hlists⟩, hheld⟩
    have hv := (s.judges.read_spaced hi hends).mpr ⟨rfl, hspelled⟩
    exact ⟨_, Slot.read_value_eq_ok.mpr ⟨_, hv, rfl⟩, (hlater _).mpr ⟨rfl, hlists, hheld, rfl⟩⟩

theorem read_values_iff (hslots : l.slots = done ++ todo) (hfree : ∀ s ∈ todo, s.get d = none)
    (hitems : ∀ i ∈ items, IsValue i.inner)
    (htext : text.dropWhile isBlank = (items.map Spaced.text).flatMap (',' :: ·) ++ ']' :: rest) :
    (values f d false (todo.map Slot.member)).read text = .ok (a, rest') ↔
      rest' = rest ∧ Lists (todo.map Slot.field) items a ∧ ∀ s ∈ done, s.Held d a := by
  -- Each value moves one field from those to come to those that have come.
  induction todo generalizing done items d text with
  | nil =>
    cases items with
    | nil => rw [read_values_of_close htext, read_finished_iff hslots hfree]
    | cons i items =>
      have hcomma : ',' ≠ ']' := by decide
      exact ⟨fun h => absurd h (read_values_nil_ne_ok htext hcomma), fun h => h.2.1.elim⟩
  | cons s todo ih =>
    cases items with
    | nil => rw [read_values_of_close htext, read_finished_iff hslots hfree]
    | cons i items =>
      rw [List.forall_mem_cons] at hitems
      have hfree' : ∀ v, ∀ s' ∈ todo, s'.get (s.put v d) = none := fun v s' hs' =>
        (((l.apart_around hslots).2 s' hs').get_put' v d).trans (hfree s' (List.mem_cons_of_mem s hs'))
      rw [List.map_cons, List.flatMap_cons, List.cons_append, List.cons_append, List.append_assoc]
        at htext
      rw [List.map_cons, read_values_of_comma htext]
      refine read_value_iff hslots hitems.1 fun v => ih ?_ (hfree' v) hitems.2 ?_
      · rw [hslots, List.append_assoc, List.singleton_append]
      · exact i.blanks_back.dropWhile_later ']' (by decide) _ rest

end

theorem read_listText_iff (l : Layout f fs) (t : ListText) :
    (record f).read (t.text ++ rest) = .ok (a, rest') ↔ rest' = rest ∧ Lists fs t.items a := by
  have hvalues := t.isValue
  have hopen : (record f).read (t.text ++ rest) = (values f f.draft true f.members).read
      (t.front ++ (Written.commaSeparated (t.items.map Spaced.text) ++ ']' :: rest)) := by
    rw [t.text_append]
    simp [record, isBlank, read_accept]
  have hfields : Lists fs t.items a ↔ Lists (l.slots.map Slot.field) t.items a := by
    rw [← l.fields_eq]
  have hnone : ∀ s ∈ ([] : List (Slot δ α)), s.Held f.draft a :=
    fun s hs => absurd hs List.not_mem_nil
  rw [hopen, l.members_eq, hfields]
  generalize t.items = items at hvalues ⊢
  cases items with
  | nil =>
    have hclose : (t.front ++ ']' :: rest).dropWhile isBlank = ']' :: rest := by
      rw [t.blanks_front.dropWhile]
      rfl
    rw [List.map_nil, Written.commaSeparated, List.nil_append, read_values_of_close hclose,
      read_finished_iff (List.nil_append l.slots).symm l.draft_eq, and_iff_left hnone]
  | cons i items =>
    rw [List.forall_mem_cons] at hvalues
    obtain ⟨hi, hitems⟩ := hvalues
    have hfirst := Spaced.dropWhile hi ((items.map Spaced.text).flatMap (',' :: ·) ++ ']' :: rest)
    obtain ⟨c, cs, hcons, hc⟩ := hi.head
    rw [hcons, List.cons_append] at hfirst
    have hblank := (t.blanks_front.dropWhile _).trans hfirst
    have hclose : c ≠ ']' := ne_of_startsValue hc (by decide)
    rw [List.map_cons, commaSeparated_cons, List.append_assoc]
    cases hcase : l.slots with
    | nil => exact ⟨fun h => absurd h (read_values_nil_ne_ok hblank hclose), fun h => h.2.elim⟩
    | cons s todo =>
      have hslots : l.slots = [] ++ s :: todo := hcase
      have hfree : ∀ v, ∀ s' ∈ todo, s'.get (s.put v f.draft) = none := by
        intro v s' hs'
        rw [((l.apart_around hslots).2 s' hs').get_put']
        exact l.draft_eq s' (hcase ▸ List.mem_cons_of_mem s hs')
      rw [List.map_cons, read_values_of_first hblank hclose, ← hfirst, Slot.read_value_blanks,
        List.map_cons, ← and_iff_left (a := Lists _ _ _) hnone]
      refine read_value_iff hslots hi fun v => read_values_iff hcase (hfree v) hitems ?_
      exact i.blanks_back.dropWhile_later ']' (by decide) _ rest

theorem read_objectText_iff (l : Layout f fs) (o : ObjectText) :
    (record f).read (o.text ++ rest) = .ok (a, rest') ↔ rest' = rest ∧ Gives fs o.entries a := by
  have hopen : (record f).read (o.text ++ rest) = (object f).read
      (o.front ++ (Written.commaSeparated (o.entries.map Entry.text) ++ '\x7d' :: rest)) := by
    rw [o.text_append]
    simp [record, isBlank, read_accept]
  rw [hopen, l.read_object_iff o.blanks_front o.isText o.isValue, l.exists_runs_iff_gives]

/-- The reader of a record takes what spells one. -/
theorem judges (l : Layout f fs) : Judges (record f) (SpellsRecord fs) where
  blanks text := read_blanks_bind _ text
  read_iff {t rest rest' a} ht hrest := by
    constructor
    · intro h
      obtain ⟨c, cs, rfl, hc⟩ := ht.head
      by_cases hlist : c = '['
      · subst hlist
        obtain ⟨t, ht⟩ := ht.exists_listText
        rw [← ht, l.read_listText_iff] at h
        exact ⟨h.1, ht ▸ .list h.2⟩
      by_cases hobject : c = '\x7b'
      · subst hobject
        obtain ⟨o, ho⟩ := ht.exists_objectText
        rw [← ho, l.read_objectText_iff] at h
        exact ⟨h.1, ho ▸ .object h.2⟩
      · have hnone : ∀ d ∈ (c :: (cs ++ rest)).head?, d ∉ ['[', '\x7b'] := by
          rintro d hd
          cases hd
          simp [hlist, hobject]
        have hother : (record f).read (c :: (cs ++ rest)) = otherShape.read (c :: (cs ++ rest)) := by
          simp [record, isBlank_of_startsValue hc, read_accept_none hnone]
        rw [List.cons_append, hother] at h
        exact absurd h otherShape_ne_ok
    · rintro ⟨rfl, h | h⟩
      · exact (l.read_objectText_iff _).mpr ⟨rfl, h⟩
      · exact (l.read_listText_iff _).mpr ⟨rfl, h⟩

/-- An object spells a record in no other way than by its own entries. -/
theorem spellsRecord_objectText (l : Layout f fs) (o : ObjectText) :
    SpellsRecord fs o.text a ↔ Gives fs o.entries a := by
  have hread : (record f).read (o.text ++ []) = .ok (a, []) ↔ Gives fs o.entries a := by
    rw [l.read_objectText_iff, and_iff_right rfl]
  rw [← hread, l.judges.read_iff o.isValue_text ends_nil, and_iff_right rfl]

theorem spellsRecord_listText (l : Layout f fs) (t : ListText) :
    SpellsRecord fs t.text a ↔ Lists fs t.items a := by
  have hread : (record f).read (t.text ++ []) = .ok (a, []) ↔ Lists fs t.items a := by
    rw [l.read_listText_iff, and_iff_right rfl]
  rw [← hread, l.judges.read_iff t.isValue_text ends_nil, and_iff_right rfl]

end Layout

/-! ## Whole texts -/

/-- Records of these fields are read by the names of the fields. Only the optional ones may be left
out. -/
structure ReadByFields (read : String → Except Fault α) (fs : List (FieldOf α))
    (optional : List String) : Prop where
  object : ∀ {s : Spaced} {o : ObjectText} {a : α}, s.inner = o.text →
    (read (String.ofList s.text) = .ok a ↔ Gives fs o.entries a)
  list : ∀ {s : Spaced} {l : ListText} {a : α}, s.inner = l.text →
    (read (String.ofList s.text) = .ok a ↔ Lists fs l.items a)
  reordered : ∀ {s s' : Spaced} {o o' : ObjectText} {a : α}, s.inner = o.text → s'.inner = o'.text →
    o.entries.Perm o'.entries →
    (read (String.ofList s.text) = .ok a ↔ read (String.ofList s'.text) = .ok a)
  incomplete : ∀ {s : Spaced} {o : ObjectText} {f : FieldOf α}, s.inner = o.text → f ∈ fs →
    f.name ∉ optional → f.LeftOut o.entries → ∀ a, read (String.ofList s.text) ≠ .ok a
  repeated : ∀ {s : Spaced} {o : ObjectText} {f : FieldOf α} {before between after : List Entry}
    {e e' : Entry}, s.inner = o.text → f ∈ fs →
    o.entries = before ++ e :: (between ++ e' :: after) → e.Named f.name → e'.Named f.name →
    ∀ a, read (String.ofList s.text) ≠ .ok a

theorem Layout.readByFields {f : Format δ α} {fs : List (FieldOf α)} {optional : List String}
    (l : Layout f fs) (hrequired : ∀ g ∈ fs, g.name ∉ optional → ∀ a, ¬g.absent a) :
    ReadByFields (record f).whole fs optional := by
  have hobject : ∀ {s : Spaced} {o : ObjectText} {a : α}, s.inner = o.text →
      ((record f).whole (String.ofList s.text) = .ok a ↔ Gives fs o.entries a) := by
    intro s o a hs
    rw [l.judges.whole_iff (hs ▸ o.isValue_text), hs, l.spellsRecord_objectText]
  constructor
  case object => exact hobject
  case list =>
    intro s t a hs
    rw [l.judges.whole_iff (hs ▸ t.isValue_text), hs, l.spellsRecord_listText]
  case reordered =>
    intro s s' o o' a hs hs' hperm
    rw [hobject hs, hobject hs', gives_perm hperm]
  case incomplete =>
    intro s o g hs hg hoptional hleft a hread
    obtain ⟨before, e, after, hentries, hname, -⟩ | ⟨-, habsent⟩ :=
      ((hobject hs).mp hread).fields g hg
    · exact hleft e (by simp [hentries]) hname
    · exact hrequired g hg hoptional a habsent
  case repeated =>
    intro s o g before between after e e' hs hg hentries he he' a hread
    obtain hgiven | ⟨hleft, -⟩ := ((hobject hs).mp hread).fields g hg
    · rw [hentries] at hgiven
      exact FieldOf.not_given_of_twice he he' hgiven
    · exact hleft e (by simp [hentries]) he

end UtxoWallet.Json
