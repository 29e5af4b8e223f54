import UtxoWallet.Proofs.Json.Layout

/-! # What is written spells what was meant

Of all the ways to spell a value, this is the one without blanks and with its fields in order.
-/

namespace UtxoWallet.Json

/-! ## Texts -/

theorem isCode_control {n : Nat} (h : n < 32) :
    IsCode ['0', '0', Nat.digitChar (n / 16), Nat.digitChar (n % 16)] n := by
  have hdigits : ∀ n < 32,
      hexValue ['0', '0', Nat.digitChar (n / 16), Nat.digitChar (n % 16)] = some n := by decide
  exact ⟨rfl, hdigits n h⟩

/-- A control character has a code point of its own, and not a half of one. -/
theorem escaped_control {c : Char} (h : c < ' ') :
    Escaped ['u', '0', '0', Nat.digitChar (c.toNat / 16), Nat.digitChar (c.toNat % 16)] c := by
  have hlt : c.toNat < 32 := UInt32.lt_iff_toNat_lt.mp h
  have hlow : isLowSurrogate c.toNat = false := by
    simp only [isLowSurrogate, Bool.and_eq_false_iff, decide_eq_false_iff_not]
    omega
  have hhigh : isHighSurrogate c.toNat = false := by
    simp only [isHighSurrogate, Bool.and_eq_false_iff, decide_eq_false_iff_not]
    omega
  have hcode := Escaped.code (isCode_control hlt) hlow hhigh
  rwa [Char.ofNat_toNat] at hcode

theorem Spells.written {t cs : List Char} (c : Char) (h : Spells t cs) :
    Spells (Written.escaped c ++ t) (c :: cs) := by
  rcases escaped_cases c with ⟨d, hsimple, heq⟩ | ⟨hcontrol, heq⟩ | ⟨hquote, hback, hplain, heq⟩
  · rw [heq]
    exact .escape (.letter hsimple) h
  · rw [heq]
    exact .escape (escaped_control hcontrol) h
  · rw [heq]
    exact .plain hquote hback hplain h

theorem spellsText_written (s : String) : SpellsText (Written.text s) s := by
  have hspells : ∀ cs : List Char, Spells (cs.flatMap Written.escaped ++ ['"']) cs := by
    intro cs
    induction cs with
    | nil => exact .close
    | cons c cs ih =>
      rw [List.flatMap_cons, List.append_assoc]
      exact ih.written c
  exact ⟨_, rfl, hspells s.toList⟩

theorem isValue_text (s : String) : IsValue (Written.text s) := .text (spellsText_written s).isText

theorem isValue_decimal (n : UInt64) : IsValue (Text.decimal n) := by
  have hwhole : IsWhole (Text.decimal n) :=
    ⟨⟨Text.decimal_ne_nil n, fun _ => Text.isDigit_of_mem_decimal⟩, Text.length_decimal_of_head⟩
  have hnumber : IsNumber ([] ++ (Text.decimal n ++ ([] ++ []))) :=
    .parts List.mem_cons_self hwhole .none .none
  rw [List.append_nil, List.append_nil, List.nil_append] at hnumber
  exact .number hnumber

/-! ## Lists and objects -/

theorem blanks_nil : Blanks [] := fun _ h => absurd h List.not_mem_nil

/-- Nothing but the value. -/
def Spaced.bare (t : List Char) : Spaced := ⟨[], t, [], blanks_nil, blanks_nil⟩

theorem Spaced.text_bare (t : List Char) : (Spaced.bare t).text = t := List.append_nil t

theorem Judges.whole_bare {α : Type} {r : Reader α} {spelled : List Char → α → Prop} {t : List Char}
    {a : α} (h : Judges r spelled) (ht : IsValue t) (hspelled : spelled t a) :
    r.whole (String.ofList t) = .ok a := by
  rw [← Spaced.text_bare t]
  exact (h.whole_iff ht).mpr hspelled

def ListText.bare (ts : List (List Char)) (h : ∀ t ∈ ts, IsValue t) : ListText where
  front := []
  items := ts.map Spaced.bare
  blanks_front := blanks_nil
  isValue := List.forall_mem_map.mpr h

theorem ListText.text_bare {ts : List (List Char)} (h : ∀ t ∈ ts, IsValue t) :
    (ListText.bare ts h).text = Written.list ts := by
  have hitems : (ts.map Spaced.bare).map Spaced.text = ts := by
    rw [List.map_map]
    exact (List.map_congr_left fun t _ => Spaced.text_bare t).trans (List.map_id ts)
  rw [ListText.text, ListText.bare, listText, hitems]
  rfl

def Entry.bare (m : String × List Char) : Entry := ⟨.bare (Written.text m.1), .bare m.2⟩

def ObjectText.bare (ms : List (String × List Char)) (h : ∀ m ∈ ms, IsValue m.2) : ObjectText where
  front := []
  entries := ms.map Entry.bare
  blanks_front := blanks_nil
  isText := List.forall_mem_map.mpr fun m _ => (spellsText_written m.1).isText
  isValue := List.forall_mem_map.mpr h

theorem ObjectText.text_bare {ms : List (String × List Char)} (h : ∀ m ∈ ms, IsValue m.2) :
    (ObjectText.bare ms h).text = Written.object ms := by
  have hentry : ∀ m, (Entry.bare m).text = Written.member m := by
    intro m
    rw [Entry.text, Entry.bare, Spaced.text_bare, Spaced.text_bare, Written.member]
  have hentries : (ms.map Entry.bare).map Entry.text = ms.map Written.member := by
    rw [List.map_map]
    exact List.map_congr_left fun m _ => hentry m
  rw [ObjectText.text, ObjectText.bare, objectText, hentries]
  rfl

theorem isValue_list {ts : List (List Char)} (h : ∀ t ∈ ts, IsValue t) : IsValue (Written.list ts) :=
  ListText.text_bare h ▸ (ListText.bare ts h).isValue_text

theorem isValue_object {ms : List (String × List Char)} (h : ∀ m ∈ ms, IsValue m.2) :
    IsValue (Written.object ms) :=
  ObjectText.text_bare h ▸ (ObjectText.bare ms h).isValue_text

section

variable {α : Type} {spelled : List Char → α → Prop} {a : α}

theorem spellsList_written {write : α → List Char} (hvalue : ∀ a, IsValue (write a))
    (h : ∀ a, spelled (write a) a) (as : List α) :
    SpellsList spelled (Written.list (as.map write)) as := by
  have hvalues : ∀ t ∈ as.map write, IsValue t := List.forall_mem_map.mpr fun a _ => hvalue a
  refine ⟨.bare _ hvalues, ListText.text_bare hvalues, ?_⟩
  change List.Forall₂ _ ((as.map write).map Spaced.bare) as
  rw [List.forall₂_map_left_iff, List.forall₂_map_left_iff, List.forall₂_same]
  exact fun a _ => h a

/-! ## Records -/

/-- The member has the name of the field and a value that spells it. -/
structure Writes (a : α) (f : FieldOf α) (m : String × List Char) : Prop where
  name : m.1 = f.name
  isValue : IsValue m.2
  spelled : f.spelled m.2 a

variable {fs : List (FieldOf α)} {ms : List (String × List Char)}

theorem named_bare (m : String × List Char) : (Entry.bare m).Named m.1 := spellsText_written m.1

theorem named_of_writes (h : List.Forall₂ (Writes a) fs ms) :
    List.Forall₂ Entry.Named (ms.map Entry.bare) (fs.map (·.name)) := by
  rw [List.forall₂_map_left_iff, List.forall₂_map_right_iff]
  exact h.flip.imp fun m f hm => hm.name ▸ named_bare m

theorem given_bare (hnames : fs.Pairwise (·.name ≠ ·.name)) (h : List.Forall₂ (Writes a) fs ms) :
    ∀ f ∈ fs, f.Given (ms.map Entry.bare) a := by
  induction h with
  | nil => exact fun _ hf => absurd hf List.not_mem_nil
  | @cons f m fs ms hm hms ih =>
    rw [List.pairwise_cons] at hnames
    have hnamed : (Entry.bare m).Named f.name := hm.name ▸ named_bare m
    rw [List.map_cons, List.forall_mem_cons]
    constructor
    · refine (FieldOf.given_cons_of_named hnamed).mpr
        ⟨hm.spelled, FieldOf.leftOut_of_named (named_of_writes hms) ?_⟩
      rintro hmem
      obtain ⟨g, hg, hname⟩ := List.mem_map.mp hmem
      exact hnames.1 g hg hname.symm
    · intro g hg
      refine (FieldOf.given_cons_of_not_named fun hnamed' => ?_).mpr (ih hnames.2 g hg)
      exact hnames.1 g hg (hnamed.unique hnamed')

theorem isValue_of_writes (h : List.Forall₂ (Writes a) fs ms) : ∀ m ∈ ms, IsValue m.2 := by
  induction h with
  | nil => exact fun _ hm => absurd hm List.not_mem_nil
  | cons hm _ ih => exact List.forall_mem_cons.mpr ⟨hm.isValue, ih⟩

/-- A record is spelled by an object with its fields in order. -/
theorem spellsRecord_written (hnames : fs.Pairwise (·.name ≠ ·.name))
    (h : List.Forall₂ (Writes a) fs ms) : SpellsRecord fs (Written.object ms) a := by
  have hvalues := isValue_of_writes h
  rw [← ObjectText.text_bare hvalues]
  exact .object ⟨List.forall_mem_map.mpr fun m _ => ⟨m.1, named_bare m⟩,
    fun f hf => .inl (given_bare hnames h f hf)⟩

end

end UtxoWallet.Json
