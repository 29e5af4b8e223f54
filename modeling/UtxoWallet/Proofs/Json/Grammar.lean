import UtxoWallet.Json.Writing
import UtxoWallet.Proofs.Json.Number
import UtxoWallet.Proofs.Json.Shape

/-! # Well-formed values

What makes a text a value, whether anybody wants it or not.
-/

namespace UtxoWallet.Json

/-! ## Blanks -/

def Blanks (text : List Char) : Prop := ∀ c ∈ text, Reader.isBlank c = true

/-- A text with blanks around it. -/
structure Spaced where
  front : List Char
  inner : List Char
  back : List Char
  blanks_front : Blanks front
  blanks_back : Blanks back

def Spaced.text (s : Spaced) : List Char := s.front ++ s.inner ++ s.back

theorem Blanks.dropWhile {blanks : List Char} (h : Blanks blanks) (text : List Char) :
    (blanks ++ text).dropWhile Reader.isBlank = text.dropWhile Reader.isBlank :=
  List.dropWhile_append_of_pos h

theorem Blanks.dropWhile_later {blanks : List Char} (h : Blanks blanks) (close : Char)
    (hclose : Reader.isBlank close = false) (items : List (List Char)) (rest : List Char) :
    (blanks ++ (items.flatMap (',' :: ·) ++ close :: rest)).dropWhile Reader.isBlank =
      items.flatMap (',' :: ·) ++ close :: rest := by
  rw [h.dropWhile]
  cases items with
  | nil => exact List.dropWhile_cons_of_neg (by rw [hclose]; decide)
  | cons next items => exact List.dropWhile_cons_of_neg (by decide)

theorem goesOn_of_isBlank {c : Char} (h : Reader.isBlank c = true) : goesOn c = false := by
  simp only [Reader.isBlank, Bool.or_eq_true, beq_iff_eq] at h
  rcases h with ((rfl | rfl) | rfl) | rfl <;> decide

theorem Blanks.ends {blanks rest : List Char} (h : Blanks blanks) (hrest : Ends rest) :
    Ends (blanks ++ rest) := by
  cases blanks with
  | nil => exact hrest
  | cons c cs => exact ends_cons (goesOn_of_isBlank (h c List.mem_cons_self)) _

/-! ## Numbers -/

def IsDigits (ds : List Char) : Prop := ds ≠ [] ∧ ∀ c ∈ ds, c.isDigit = true

/-- No other digit follows a zero in front. -/
structure IsWhole (ds : List Char) : Prop where
  digits : IsDigits ds
  zero : ds.head? = some '0' → ds.length = 1

inductive IsFraction : List Char → Prop
  | none : IsFraction []
  | digits {ds : List Char} (h : IsDigits ds) : IsFraction ('.' :: ds)

inductive IsExponent : List Char → Prop
  | none : IsExponent []
  | digits {mark : Char} {sign ds : List Char} (hmark : mark ∈ ['e', 'E'])
      (hsign : sign ∈ [[], ['+'], ['-']]) (h : IsDigits ds) : IsExponent (mark :: (sign ++ ds))

inductive IsNumber : List Char → Prop
  | parts {sign whole fraction exponent : List Char} (hsign : sign ∈ [[], ['-']])
      (hwhole : IsWhole whole) (hfraction : IsFraction fraction) (hexponent : IsExponent exponent) :
      IsNumber (sign ++ (whole ++ (fraction ++ exponent)))

/-! ## Texts between quotes -/

/-- Four hexadecimal digits, and what they count. -/
structure IsCode (ds : List Char) (n : Nat) : Prop where
  length : ds.length = 4
  value : hexValue ds = some n

/-- What may stand behind a backslash. Half a surrogate pair is an escape too. -/
inductive IsEscape : List Char → Prop
  | letter {c : Char} (h : (simpleEscape? c).isSome = true) : IsEscape [c]
  | code {ds : List Char} {n : Nat} (h : IsCode ds n) : IsEscape ('u' :: ds)

/-- What may stand behind an opening quote, up to the closing one. -/
inductive IsQuoted : List Char → Prop
  | close : IsQuoted ['"']
  | plain {c : Char} {t : List Char} (hquote : c ≠ '"') (hback : c ≠ '\\') (hplain : ¬c < ' ')
      (later : IsQuoted t) : IsQuoted (c :: t)
  | escape {e t : List Char} (h : IsEscape e) (later : IsQuoted t) : IsQuoted ('\\' :: (e ++ t))

def IsText (t : List Char) : Prop := ∃ q, t = '"' :: q ∧ IsQuoted q

/-! ## Values -/

def listText (front : List Char) (items : List Spaced) : List Char :=
  '[' :: (front ++ (Written.commaSeparated (items.map Spaced.text) ++ [']']))

/-- A member of an object, with blanks wherever they may stand. -/
structure Entry where
  key : Spaced
  value : Spaced

def Entry.text (e : Entry) : List Char := e.key.text ++ ':' :: e.value.text

def objectText (front : List Char) (entries : List Entry) : List Char :=
  '\x7b' :: (front ++ (Written.commaSeparated (entries.map Entry.text) ++ ['\x7d']))

inductive IsValue : List Char → Prop
  | literal {t : List Char} (h : t ∈ ["null".toList, "true".toList, "false".toList]) : IsValue t
  | number {t : List Char} (h : IsNumber t) : IsValue t
  | text {t : List Char} (h : IsText t) : IsValue t
  | list {front : List Char} {items : List Spaced} (hfront : Blanks front)
      (hitems : ∀ i ∈ items, IsValue i.inner) : IsValue (listText front items)
  | object {front : List Char} {entries : List Entry} (hfront : Blanks front)
      (hkeys : ∀ e ∈ entries, IsText e.key.inner)
      (hvalues : ∀ e ∈ entries, IsValue e.value.inner) : IsValue (objectText front entries)

/-- A list that is a value, item by item. -/
structure ListText where
  front : List Char
  items : List Spaced
  blanks_front : Blanks front
  isValue : ∀ i ∈ items, IsValue i.inner

def ListText.text (l : ListText) : List Char := listText l.front l.items

/-- An object that is a value, member by member. -/
structure ObjectText where
  front : List Char
  entries : List Entry
  blanks_front : Blanks front
  isText : ∀ e ∈ entries, IsText e.key.inner
  isValue : ∀ e ∈ entries, IsValue e.value.inner

def ObjectText.text (o : ObjectText) : List Char := objectText o.front o.entries

theorem ListText.isValue_text (l : ListText) : IsValue l.text := .list l.blanks_front l.isValue

theorem ObjectText.isValue_text (o : ObjectText) : IsValue o.text :=
  .object o.blanks_front o.isText o.isValue

/-! ## First characters

A value is told from the others by its first character.
-/

/-- How a value may start. -/
def startsValue (c : Char) : Bool := Reader.startsNumber c || ['n', 't', 'f', '"', '[', '\x7b'].elem c

section

variable {c : Char} {t : List Char}

theorem startsNumber_of_isDigit (h : c.isDigit = true) : Reader.startsNumber c = true := by
  rw [Reader.startsNumber, h, Bool.or_true]

theorem IsNumber.head (h : IsNumber t) : ∃ c cs, t = c :: cs ∧ Reader.startsNumber c = true := by
  cases h with
  | parts hsign hwhole =>
  obtain ⟨hne, hdigits⟩ := hwhole.digits
  rcases List.mem_pair.mp hsign with rfl | rfl
  · obtain ⟨d, ds, rfl⟩ := List.exists_cons_of_ne_nil hne
    exact ⟨d, _, rfl, startsNumber_of_isDigit (hdigits d List.mem_cons_self)⟩
  · exact ⟨'-', _, rfl, rfl⟩

theorem IsValue.head (h : IsValue t) : ∃ c cs, t = c :: cs ∧ startsValue c = true := by
  cases h with
  | literal h =>
    simp only [List.mem_cons, List.not_mem_nil, or_false] at h
    rcases h with rfl | rfl | rfl
    · exact ⟨'n', _, rfl, by decide⟩
    · exact ⟨'t', _, rfl, by decide⟩
    · exact ⟨'f', _, rfl, by decide⟩
  | number h =>
    obtain ⟨c, cs, rfl, hc⟩ := h.head
    exact ⟨c, cs, rfl, by rw [startsValue, hc, Bool.true_or]⟩
  | text h =>
    obtain ⟨q, rfl, -⟩ := h
    exact ⟨'"', q, rfl, by decide⟩
  | list => exact ⟨'[', _, rfl, by decide⟩
  | object => exact ⟨'\x7b', _, rfl, by decide⟩

theorem isBlank_of_startsValue (h : startsValue c = true) : Reader.isBlank c = false := by
  cases hblank : Reader.isBlank c with
  | false => rfl
  | true =>
    simp only [Reader.isBlank, Bool.or_eq_true, beq_iff_eq] at hblank
    rcases hblank with ((rfl | rfl) | rfl) | rfl <;> exact absurd h (by decide)

theorem ne_of_startsValue {d : Char} (h : startsValue c = true) (hd : startsValue d = false) :
    c ≠ d := by
  rintro rfl
  rw [h] at hd
  cases hd

theorem IsValue.dropWhile (h : IsValue t) (rest : List Char) :
    (t ++ rest).dropWhile Reader.isBlank = t ++ rest := by
  obtain ⟨c, cs, rfl, hc⟩ := h.head
  rw [List.cons_append, List.dropWhile_cons_of_neg]
  rw [isBlank_of_startsValue hc]
  decide

/-- A text that starts as a value of a kind may start is a value of that kind. -/
theorem IsValue.cases_head (h : IsValue (c :: t)) :
    (c ∈ ['n', 't', 'f'] ∧ c :: t ∈ ["null".toList, "true".toList, "false".toList]) ∨
    (Reader.startsNumber c = true ∧ IsNumber (c :: t)) ∨
    (c = '"' ∧ IsQuoted t) ∨
    (c = '[' ∧ ∃ l : ListText, l.text = c :: t) ∨
    (c = '\x7b' ∧ ∃ o : ObjectText, o.text = c :: t) := by
  generalize hct : c :: t = s at h
  cases h with
  | literal h =>
    refine .inl ⟨?_, h⟩
    simp only [List.mem_cons, List.not_mem_nil, or_false] at h ⊢
    rcases h with rfl | rfl | rfl <;> obtain rfl := (List.cons.inj hct).1 <;> decide
  | number h =>
    obtain ⟨d, ds, rfl, hd⟩ := h.head
    obtain ⟨rfl, rfl⟩ := List.cons.inj hct
    exact .inr (.inl ⟨hd, h⟩)
  | text h =>
    obtain ⟨q, rfl, hq⟩ := h
    obtain ⟨rfl, rfl⟩ := List.cons.inj hct
    exact .inr (.inr (.inl ⟨rfl, hq⟩))
  | @list front items hfront hitems =>
    exact .inr (.inr (.inr (.inl ⟨(List.cons.inj hct).1, ⟨front, items, hfront, hitems⟩, rfl⟩)))
  | @object front entries hfront hkeys hvalues =>
    exact .inr (.inr (.inr (.inr
      ⟨(List.cons.inj hct).1, ⟨front, entries, hfront, hkeys, hvalues⟩, rfl⟩)))

theorem IsValue.eq_null (h : IsValue ('n' :: t)) : 'n' :: t = "null".toList := by
  rcases h.cases_head with ⟨-, h⟩ | ⟨h, -⟩ | ⟨h, -⟩ | ⟨h, -⟩ | ⟨h, -⟩
  · simp only [List.mem_cons, List.not_mem_nil, or_false] at h
    rcases h with h | h | h
    · exact h
    · exact absurd (List.cons.inj h).1 (by decide)
    · exact absurd (List.cons.inj h).1 (by decide)
  all_goals exact absurd h (by decide)

theorem IsValue.isNumber (h : IsValue (c :: t)) (hc : Reader.startsNumber c = true) :
    IsNumber (c :: t) := by
  rcases h.cases_head with ⟨h, -⟩ | ⟨-, h⟩ | ⟨rfl, -⟩ | ⟨rfl, -⟩ | ⟨rfl, -⟩
  · simp only [List.mem_cons, List.not_mem_nil, or_false] at h
    rcases h with rfl | rfl | rfl <;> exact absurd hc (by decide)
  · exact h
  all_goals exact absurd hc (by decide)

theorem IsValue.isQuoted (h : IsValue ('"' :: t)) : IsQuoted t := by
  rcases h.cases_head with ⟨h, -⟩ | ⟨h, -⟩ | ⟨-, h⟩ | ⟨h, -⟩ | ⟨h, -⟩
  · exact absurd h (by decide)
  · exact absurd h (by decide)
  · exact h
  all_goals exact absurd h (by decide)

theorem IsValue.exists_listText (h : IsValue ('[' :: t)) : ∃ l : ListText, l.text = '[' :: t := by
  rcases h.cases_head with ⟨h, -⟩ | ⟨h, -⟩ | ⟨h, -⟩ | ⟨-, h⟩ | ⟨h, -⟩
  · exact absurd h (by decide)
  · exact absurd h (by decide)
  · exact absurd h (by decide)
  · exact h
  · exact absurd h (by decide)

theorem IsValue.exists_objectText (h : IsValue ('\x7b' :: t)) :
    ∃ o : ObjectText, o.text = '\x7b' :: t := by
  rcases h.cases_head with ⟨h, -⟩ | ⟨h, -⟩ | ⟨h, -⟩ | ⟨h, -⟩ | ⟨-, h⟩
  · exact absurd h (by decide)
  · exact absurd h (by decide)
  · exact absurd h (by decide)
  · exact absurd h (by decide)
  · exact h

end

end UtxoWallet.Json
