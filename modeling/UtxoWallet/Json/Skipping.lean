import UtxoWallet.Json.Number
import UtxoWallet.Json.Text

/-! # Values that nobody wants

They are stepped over, however deep they are. The brackets that are still open are kept in a list.
-/

namespace UtxoWallet.Json

inductive Bracket where
  | list
  | object
deriving DecidableEq, Repr

def Bracket.closing : Bracket → Char
  | .list => ']'
  | .object => '\x7d'

namespace Reader

/-- Goes on with `literal` after its first character. -/
def literal (c : Char) : Reader Unit :=
  if c = 'n' then word "ull".toList
  else if c = 't' then word "rue".toList
  else if c = 'f' then word "alse".toList
  else fail .malformed

def startsNumber (c : Char) : Bool := c == '-' || c.isDigit

def skipPlain : Reader Unit := do
  match ← peek with
  | none => fail .endOfText
  | some c =>
    if startsNumber c then discard (number .malformed)
    else
      let c ← char
      if c = '"' then skippedTextRest else literal c

def colon : Reader Unit := do
  blanks
  expect ':'

/-- What stands before a value: a key in an object, and nothing in a list. -/
def beforeValue : Bracket → Reader Unit
  | .list => return ()
  | .object => do
    blanks
    expect '"'
    skippedTextRest
    colon

end Reader

/-- Where the next character stands. -/
inductive Place where
  | beforeValue
  | opened
  | afterValue
deriving DecidableEq, Repr

/-- Breaks the tie between two places with the same text before them. -/
def Place.rank : Place → Nat
  | .afterValue => 0
  | .beforeValue => 1
  | .opened => 2

/-- Steps over the rest of a value, with the brackets that are open. -/
def skipFrom (place : Place) (open_ : List Bracket) (text : List Char) :
    Except Fault (List Char) :=
  match place, open_ with
  | .beforeValue, bs =>
    match _h : text.dropWhile Reader.isBlank with
    | [] => .error .endOfText
    | c :: cs =>
      if c = '[' then skipFrom .opened (.list :: bs) cs
      else if c = '\x7b' then skipFrom .opened (.object :: bs) cs
      else
        match _hplain : Reader.skipPlain.read (c :: cs) with
        | .error fault => .error fault
        | .ok (_, rest) => skipFrom .afterValue bs rest
  | _, [] => .ok text
  | .opened, b :: bs =>
    match _h : text.dropWhile Reader.isBlank with
    | [] => .error .endOfText
    | c :: cs =>
      if c = b.closing then skipFrom .afterValue bs cs
      else
        match _hbefore : (Reader.beforeValue b).read (c :: cs) with
        | .error fault => .error fault
        | .ok (_, rest) => skipFrom .beforeValue (b :: bs) rest
  | .afterValue, b :: bs =>
    match _h : text.dropWhile Reader.isBlank with
    | [] => .error .endOfText
    | c :: cs =>
      if c = b.closing then skipFrom .afterValue bs cs
      else if c = ',' then
        match _hbefore : (Reader.beforeValue b).read cs with
        | .error fault => .error fault
        | .ok (_, rest) => skipFrom .beforeValue (b :: bs) rest
      else .error .malformed
termination_by (text.length, place.rank)
decreasing_by
  · exact Prod.Lex.left _ _ (Reader.length_of_dropWhile _h)
  · exact Prod.Lex.left _ _ (Reader.length_of_dropWhile _h)
  · have := Reader.length_of_dropWhile _h
    have := Reader.skipPlain.length_le _hplain
    simp only [List.length_cons] at this
    rw [Prod.lex_def]
    simp only [Place.rank]
    omega
  · exact Prod.Lex.left _ _ (Reader.length_of_dropWhile _h)
  · have := Reader.length_of_dropWhile _h
    have := (Reader.beforeValue b).length_le _hbefore
    simp only [List.length_cons] at this
    rw [Prod.lex_def]
    simp only [Place.rank]
    omega
  · exact Prod.Lex.left _ _ (Reader.length_of_dropWhile _h)
  · have := Reader.length_of_dropWhile _h
    have := (Reader.beforeValue b).length_le _hbefore
    exact Prod.Lex.left _ _ (by omega)

theorem length_skipFrom_le {place : Place} {open_ : List Bracket} {text rest : List Char}
    (h : skipFrom place open_ text = .ok rest) : rest.length ≤ text.length := by
  fun_induction skipFrom place open_ text generalizing rest with
  | case1 | case4 | case7 | case9 | case11 | case13 | case15 => cases h
  | case6 => cases h; exact Nat.le_refl _
  | case2 _ _ _ hblank ih | case3 _ _ _ hblank _ ih | case8 _ _ _ _ hblank ih
  | case12 _ _ _ _ hblank ih =>
    exact Nat.le_trans (ih h) (Nat.le_of_lt (Reader.length_of_dropWhile hblank))
  | case5 _ _ _ _ hblank _ _ _ _ hread ih =>
    have := Reader.length_of_dropWhile hblank
    have := Reader.skipPlain.length_le hread
    have := ih h
    simp only [List.length_cons] at *
    omega
  | case10 _ b _ _ _ hblank _ _ _ hread ih =>
    have := Reader.length_of_dropWhile hblank
    have := (Reader.beforeValue b).length_le hread
    have := ih h
    simp only [List.length_cons] at *
    omega
  | case14 _ b _ _ _ _ hread hblank _ ih =>
    have := Reader.length_of_dropWhile hblank
    have := (Reader.beforeValue b).length_le hread
    have := ih h
    omega

namespace Reader

def skip : Reader Unit where
  read text := (skipFrom .beforeValue [] text).map fun rest => ((), rest)
  length_le h := by
    obtain ⟨_, hrest, hpair⟩ := map_eq_ok.mp h
    cases hpair
    exact length_skipFrom_le hrest

end Reader

end UtxoWallet.Json
