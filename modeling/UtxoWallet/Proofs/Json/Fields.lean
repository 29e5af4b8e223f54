import Mathlib.Data.List.Pairwise
import UtxoWallet.Json.Record
import UtxoWallet.Proofs.Json.Judging

/-! # Records by the names of their fields

A record is what its fields say, each of them once, in whatever order they come.
-/

namespace UtxoWallet.Json

/-! ## What spells a record -/

def Entry.Named (e : Entry) (name : String) : Prop := SpellsText e.key.inner name

structure FieldOf (α : Type) where
  name : String
  /-- A value with this text spells the field of this record. -/
  spelled : List Char → α → Prop
  /-- The records from which the field may be left out. -/
  absent : α → Prop

section

variable {α : Type} {f : FieldOf α} {e : Entry} {es : List Entry} {a : α}

namespace FieldOf

/-- A field that no record does without. -/
def required (name : String) (spelled : List Char → α → Prop) : FieldOf α where
  name := name
  spelled := spelled
  absent _ := False

def LeftOut (f : FieldOf α) (es : List Entry) : Prop := ∀ e ∈ es, ¬e.Named f.name

/-- One entry has the name of the field, no other has it, and its value spells the field. -/
def Given (f : FieldOf α) (es : List Entry) (a : α) : Prop :=
  ∃ before e after, es = before ++ e :: after ∧ e.Named f.name ∧ f.spelled e.value.inner a ∧
    f.LeftOut (before ++ after)

end FieldOf

/-- Every key is a name, and every field of the record is given once. -/
structure Gives (fs : List (FieldOf α)) (es : List Entry) (a : α) : Prop where
  named : ∀ e ∈ es, ∃ name, e.Named name
  fields : ∀ f ∈ fs, f.Given es a ∨ f.LeftOut es ∧ f.absent a

/-- The items spell the fields one by one. Only fields that may be left out are missing at the end. -/
def Lists : List (FieldOf α) → List Spaced → α → Prop
  | f :: fs, i :: is, a => f.spelled i.inner a ∧ Lists fs is a
  | fs, [], a => ∀ f ∈ fs, f.absent a
  | [], _ :: _, _ => False

/-- A record is spelled by an object or by a list. -/
inductive SpellsRecord (fs : List (FieldOf α)) : List Char → α → Prop
  | object {o : ObjectText} {a : α} (h : Gives fs o.entries a) : SpellsRecord fs o.text a
  | list {l : ListText} {a : α} (h : Lists fs l.items a) : SpellsRecord fs l.text a

theorem lists_nil {fs : List (FieldOf α)} : Lists fs [] a ↔ ∀ f ∈ fs, f.absent a := by
  cases fs <;> rfl

namespace FieldOf

theorem leftOut_cons : f.LeftOut (e :: es) ↔ ¬e.Named f.name ∧ f.LeftOut es := List.forall_mem_cons

theorem leftOut_of_named {names : List String} (h : List.Forall₂ Entry.Named es names)
    (hname : f.name ∉ names) : f.LeftOut es := by
  induction h with
  | nil => exact fun _ he => absurd he List.not_mem_nil
  | cons hnamed _ ih =>
    rw [List.mem_cons, not_or] at hname
    exact leftOut_cons.mpr ⟨fun hf => hname.1 (hf.unique hnamed), ih hname.2⟩

theorem not_given_nil : ¬f.Given [] a := by
  rintro ⟨before, e, after, hnil, -⟩
  cases before <;> cases hnil

theorem given_cons_of_named (h : e.Named f.name) :
    f.Given (e :: es) a ↔ f.spelled e.value.inner a ∧ f.LeftOut es := by
  constructor
  · rintro ⟨before, e', after, hcons, hname, hspelled, hothers⟩
    cases before with
    | nil =>
      cases hcons
      exact ⟨hspelled, hothers⟩
    | cons b before =>
      cases hcons
      exact absurd h (hothers e List.mem_cons_self)
  · rintro ⟨hspelled, hothers⟩
    exact ⟨[], e, es, rfl, h, hspelled, hothers⟩

theorem given_cons_of_not_named (h : ¬e.Named f.name) : f.Given (e :: es) a ↔ f.Given es a := by
  constructor
  · rintro ⟨before, e', after, hcons, hname, hspelled, hothers⟩
    cases before with
    | nil =>
      cases hcons
      exact absurd hname h
    | cons b before =>
      cases hcons
      exact ⟨before, e', after, rfl, hname, hspelled, (leftOut_cons.mp hothers).2⟩
  · rintro ⟨before, e', after, rfl, hname, hspelled, hothers⟩
    exact ⟨e :: before, e', after, rfl, hname, hspelled, leftOut_cons.mpr ⟨h, hothers⟩⟩

/-- A field is not given by two entries. -/
theorem not_given_of_twice {before between after : List Entry} {e e' : Entry}
    (he : e.Named f.name) (he' : e'.Named f.name) :
    ¬f.Given (before ++ e :: (between ++ e' :: after)) a := by
  induction before with
  | nil =>
    intro h
    exact ((given_cons_of_named he).mp h).2 e' (by simp) he'
  | cons b before ih =>
    rw [List.cons_append]
    by_cases hb : b.Named f.name
    · intro h
      exact ((given_cons_of_named hb).mp h).2 e (by simp) he
    · rwa [given_cons_of_not_named hb]

theorem leftOut_perm {es' : List Entry} (h : es.Perm es') : f.LeftOut es ↔ f.LeftOut es' :=
  forall_congr' fun _ => by rw [h.mem_iff]

theorem given_perm {es' : List Entry} (h : es.Perm es') : f.Given es a ↔ f.Given es' a := by
  induction h with
  | nil => rfl
  | @cons e es es' hperm ih =>
    by_cases he : e.Named f.name
    · rw [given_cons_of_named he, given_cons_of_named he, leftOut_perm hperm]
    · rw [given_cons_of_not_named he, given_cons_of_not_named he, ih]
  | swap e e' es =>
    by_cases he : e.Named f.name <;> by_cases he' : e'.Named f.name <;>
      simp [given_cons_of_named, given_cons_of_not_named, leftOut_cons, he, he']
  | trans _ _ ih ih' => exact ih.trans ih'

end FieldOf

/-- The order of the entries does not matter. -/
theorem gives_perm {fs : List (FieldOf α)} {es' : List Entry} (h : es.Perm es') :
    Gives fs es a ↔ Gives fs es' a := by
  have hfields : ∀ f : FieldOf α, (f.Given es a ∨ f.LeftOut es ∧ f.absent a) ↔
      (f.Given es' a ∨ f.LeftOut es' ∧ f.absent a) := fun f => by
    rw [FieldOf.given_perm h, FieldOf.leftOut_perm h]
  constructor
  · rintro ⟨hnamed, hgiven⟩
    exact ⟨fun e he => hnamed e (h.mem_iff.mpr he), fun f hf => (hfields f).mp (hgiven f hf)⟩
  · rintro ⟨hnamed, hgiven⟩
    exact ⟨fun e he => hnamed e (h.mem_iff.mp he), fun f hf => (hfields f).mpr (hgiven f hf)⟩

/-! ## Fields that are left out -/

variable {fs gs : List (FieldOf α)}

theorem gives_append (h : Gives fs es a) (hleft : ∀ g ∈ gs, g.LeftOut es)
    (habsent : ∀ g ∈ gs, g.absent a) : Gives (fs ++ gs) es a := by
  refine ⟨h.named, fun f hf => ?_⟩
  rcases List.mem_append.mp hf with hf | hf
  · exact h.fields f hf
  · exact .inr ⟨hleft f hf, habsent f hf⟩

theorem lists_append {items : List Spaced} (h : Lists fs items a)
    (habsent : ∀ g ∈ gs, g.absent a) : Lists (fs ++ gs) items a := by
  induction fs generalizing items with
  | nil =>
    cases items with
    | nil => exact lists_nil.mpr habsent
    | cons i items => exact h.elim
  | cons f fs ih =>
    cases items with
    | nil => exact lists_nil.mpr (List.forall_mem_append.mpr ⟨lists_nil.mp h, habsent⟩)
    | cons i items => exact ⟨h.1, ih h.2⟩

end

/-! ## How a draft comes by its fields -/

variable {δ α : Type}

/-- A field with its place in the draft. -/
structure Slot (δ α : Type) where
  Value : Type
  name : String
  reader : Reader Value
  spelled : List Char → Value → Prop
  judges : Judges reader spelled
  get : δ → Option Value
  put : Value → δ → δ
  get_put : ∀ v d, get (put v d) = some v
  of : α → Value
  absent : α → Prop

namespace Slot

/-- The place of a field that no record does without. -/
def required {Value : Type} {reader : Reader Value} {spelled : List Char → Value → Prop}
    (name : String) (judges : Judges reader spelled) (get : δ → Option Value) (put : Value → δ → δ)
    (get_put : ∀ v d, get (put v d) = some v) (of : α → Value) : Slot δ α where
  Value := Value
  name := name
  reader := reader
  spelled := spelled
  judges := judges
  get := get
  put := put
  get_put := get_put
  of := of
  absent _ := False

def member (s : Slot δ α) : Member δ where
  name := s.name
  isGiven d := (s.get d).isSome
  value d := do return s.put (← s.reader) d

def field (s : Slot δ α) : FieldOf α where
  name := s.name
  spelled t a := s.spelled t (s.of a)
  absent := s.absent

/-- Neither slot has anything to do with the other. -/
@[mk_iff]
structure Apart (s s' : Slot δ α) : Prop where
  name : s.name ≠ s'.name
  get_put : ∀ v d, s.get (s'.put v d) = s.get d
  get_put' : ∀ v d, s'.get (s.put v d) = s'.get d

/-- The draft has what this field of the record needs. -/
def Held (s : Slot δ α) (d : δ) (a : α) : Prop :=
  s.get d = some (s.of a) ∨ s.get d = none ∧ s.absent a

/-- The draft has the field already, or the entries still bring it. -/
def Fills (s : Slot δ α) (d : δ) (es : List Entry) (a : α) : Prop :=
  s.get d = some (s.of a) ∧ s.field.LeftOut es ∨
    s.get d = none ∧ (s.field.Given es a ∨ s.field.LeftOut es ∧ s.absent a)

end Slot

/-- What one entry makes of a draft. -/
inductive Takes (slots : List (Slot δ α)) (d : δ) (e : Entry) : δ → Prop
  | other {name : String} (hname : e.Named name) (h : ∀ s ∈ slots, s.name ≠ name) :
      Takes slots d e d
  | value {s : Slot δ α} {v : s.Value} (hs : s ∈ slots) (hname : e.Named s.name)
      (hfree : s.get d = none) (h : s.spelled e.value.inner v) : Takes slots d e (s.put v d)

inductive Runs (slots : List (Slot δ α)) : δ → List Entry → δ → Prop
  | nil (d : δ) : Runs slots d [] d
  | cons {d d' d'' : δ} {e : Entry} {es : List Entry} (h : Takes slots d e d')
      (later : Runs slots d' es d'') : Runs slots d (e :: es) d''

section

variable {slots : List (Slot δ α)} {s : Slot δ α} {d d' : δ} {e : Entry} {es : List Entry} {a : α}

namespace Slot

theorem fills_nil : s.Fills d [] a ↔ s.Held d a := by
  simp [Fills, Held, FieldOf.not_given_nil, FieldOf.LeftOut]

theorem fills_cons_of_not_named (h : ¬e.Named s.name) (hget : s.get d' = s.get d) :
    s.Fills d (e :: es) a ↔ s.Fills d' es a := by
  have hname : ¬e.Named s.field.name := h
  simp only [Fills, FieldOf.leftOut_cons, FieldOf.given_cons_of_not_named hname, hget,
    not_false_eq_true, hname, true_and]

theorem fills_cons_of_named (h : e.Named s.name) :
    s.Fills d (e :: es) a ↔
      s.get d = none ∧ s.spelled e.value.inner (s.of a) ∧ s.field.LeftOut es := by
  have hname : e.Named s.field.name := h
  simp only [Fills, FieldOf.leftOut_cons, FieldOf.given_cons_of_named hname, hname, not_true_eq_false,
    false_and, and_false, false_or, or_false]
  rfl

theorem held_of_free (h : s.get d = none) : s.Held d a ↔ s.absent a := by
  simp [Held, h]

theorem held_put (v : s.Value) : s.Held (s.put v d) a ↔ v = s.of a := by
  simp [Held, s.get_put]

theorem held_congr (h : s.get d' = s.get d) : s.Held d' a ↔ s.Held d a := by
  rw [Held, h]
  rfl

theorem fills_put (v : s.Value) : s.Fills (s.put v d) es a ↔ v = s.of a ∧ s.field.LeftOut es := by
  simp [Fills, s.get_put]

end Slot

instance : Std.Symm (@Slot.Apart δ α) where
  symm _ _ h := ⟨h.name.symm, h.get_put', h.get_put⟩

theorem apart_of_ne (hapart : slots.Pairwise Slot.Apart) {s s' : Slot δ α} (hs : s ∈ slots)
    (hs' : s' ∈ slots) (hne : s ≠ s') : s.Apart s' :=
  hapart.forall hs hs' hne

theorem fills_of_takes (hapart : slots.Pairwise Slot.Apart) (h : Takes slots d e d')
    (hfills : ∀ s ∈ slots, s.Fills d' es a) : ∀ s ∈ slots, s.Fills d (e :: es) a := by
  intro s hs
  cases h with
  | other hname hother =>
    refine (Slot.fills_cons_of_not_named (fun hnamed => ?_) rfl).mpr (hfills s hs)
    exact hother s hs (hnamed.unique hname)
  | @value s' v hs' hname hfree hspelled =>
    by_cases hsame : s = s'
    · subst hsame
      obtain ⟨rfl, hothers⟩ := (Slot.fills_put v).mp (hfills s hs)
      exact (Slot.fills_cons_of_named hname).mpr ⟨hfree, hspelled, hothers⟩
    · have hs's := apart_of_ne hapart hs hs' hsame
      refine (Slot.fills_cons_of_not_named (fun hnamed => ?_) (hs's.get_put v d)).mpr (hfills s hs)
      exact hs's.name (hnamed.unique hname)

theorem exists_takes (hapart : slots.Pairwise Slot.Apart) (hnamed : ∃ name, e.Named name)
    (hfills : ∀ s ∈ slots, s.Fills d (e :: es) a) :
    ∃ d', Takes slots d e d' ∧ ∀ s ∈ slots, s.Fills d' es a := by
  obtain ⟨name, hname⟩ := hnamed
  by_cases hfield : ∃ s ∈ slots, s.name = name
  · obtain ⟨s, hs, rfl⟩ := hfield
    obtain ⟨hfree, hspelled, hothers⟩ := (Slot.fills_cons_of_named hname).mp (hfills s hs)
    refine ⟨s.put (s.of a) d, .value hs hname hfree hspelled, fun s' hs' => ?_⟩
    by_cases hsame : s' = s
    · subst hsame
      exact (Slot.fills_put _).mpr ⟨rfl, hothers⟩
    · have hs's := apart_of_ne hapart hs' hs hsame
      refine (Slot.fills_cons_of_not_named (fun hnamed => ?_) (hs's.get_put _ d)).mp (hfills s' hs')
      exact hs's.name (hnamed.unique hname)
  · have hother : ∀ s ∈ slots, s.name ≠ name := fun s hs hs' => hfield ⟨s, hs, hs'⟩
    refine ⟨d, .other hname hother, fun s hs => ?_⟩
    refine (Slot.fills_cons_of_not_named (fun hnamed => ?_) rfl).mp (hfills s hs)
    exact hother s hs (hnamed.unique hname)

theorem runs_cons {d'' : δ} :
    Runs slots d (e :: es) d'' ↔ ∃ d', Takes slots d e d' ∧ Runs slots d' es d'' := by
  constructor
  · rintro (_ | ⟨htakes, hruns⟩)
    exact ⟨_, htakes, hruns⟩
  · rintro ⟨d', htakes, hruns⟩
    exact .cons htakes hruns

theorem Takes.named (h : Takes slots d e d') : ∃ name, e.Named name := by
  cases h with
  | other hname => exact ⟨_, hname⟩
  | value _ hname => exact ⟨_, hname⟩

/-- A draft can be run to the end exactly if every key is a name and every field is filled once. -/
theorem exists_runs_iff (hapart : slots.Pairwise Slot.Apart) :
    (∃ d', Runs slots d es d' ∧ ∀ s ∈ slots, s.Held d' a) ↔
      (∀ e ∈ es, ∃ name, e.Named name) ∧ ∀ s ∈ slots, s.Fills d es a := by
  -- `Fills` counts what the draft has with what is still to come, so one entry leaves it as it is.
  induction es generalizing d with
  | nil =>
    simp only [Slot.fills_nil]
    constructor
    · rintro ⟨_, ⟨⟩, hheld⟩
      exact ⟨nofun, hheld⟩
    · rintro ⟨-, hheld⟩
      exact ⟨d, .nil d, hheld⟩
  | cons e es ih =>
    rw [List.forall_mem_cons]
    constructor
    · rintro ⟨d'', _ | ⟨htakes, hruns⟩, hheld⟩
      obtain ⟨hnamed, hfills⟩ := ih.mp ⟨d'', hruns, hheld⟩
      exact ⟨⟨htakes.named, hnamed⟩, fills_of_takes hapart htakes hfills⟩
    · rintro ⟨⟨hname, hnamed⟩, hfills⟩
      obtain ⟨d', htakes, hfills⟩ := exists_takes hapart hname hfills
      obtain ⟨d'', hruns, hheld⟩ := ih.mpr ⟨hnamed, hfills⟩
      exact ⟨d'', .cons htakes hruns, hheld⟩

end

end UtxoWallet.Json
