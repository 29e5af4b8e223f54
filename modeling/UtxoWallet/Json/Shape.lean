import UtxoWallet.Json.Skipping

/-! # Values of a wanted shape

A text is read straight into the shape that is wanted, and the first thing wrong is the fault.
-/

namespace UtxoWallet.Json.Reader

/-! ## Other shapes -/

/-- A value whose first character shows that its shape is not the wanted one. A list or an object
is not looked into. -/
def otherShape {α : Type} : Reader α := do
  match ← peek with
  | none => fail .endOfText
  | some c =>
    if startsNumber c then
      let n ← number .endOfText
      fail (if n.isTooLarge then .malformed else .mismatch)
    else if c = '[' ∨ c = '\x7b' then fail .mismatch
    else
      let c ← char
      if c = '"' then discard textRest else literal c
      fail .mismatch

/-- What follows `c`, where a value may start with `c` only. -/
def opening {α : Type} (c : Char) (rest : Reader α) : Reader α := do
  blanks
  match ← accept [c] with
  | some _ => rest
  | none => otherShape

/-! ## Plain values -/

def text : Reader String := opening '"' textRest

def natural : Reader UInt64 := do
  blanks
  match ← peek with
  | none => fail .endOfText
  | some c =>
    if startsNumber c then
      let n ← number .endOfText
      match n.natural? with
      | some value => return value
      | none => fail (if n.isTooLarge then .malformed else .mismatch)
    else otherShape

def null : Reader Unit := do
  blanks
  match ← peek with
  | some 'n' =>
    let c ← char
    literal c
  | _ => otherShape

/-! ## Names -/

def nameIn {α : Type} (names : List (String × α)) : Reader α := do
  match names.lookup (← textRest) with
  | some a => return a
  | none => fail .mismatch

/-- One of several names, which may also be the key of an object that holds a null. -/
def oneOf {α : Type} (names : List (String × α)) : Reader α := do
  blanks
  match ← accept ['"', '\x7b'] with
  | some '"' => nameIn names
  | some _ =>
    let a ← opening '"' (nameIn names)
    colon
    null
    blanks
    expect '\x7d'
    return a
  | none =>
    match ← peek with
    | none => fail .endOfText
    | some _ => fail .malformed

end Reader

/-! ## Lists -/

def itemsRest {α : Type} (item : Reader α) (text : List Char) : Except Fault (List α × List Char) :=
  match _h : text.dropWhile Reader.isBlank with
  | [] => .error .endOfText
  | c :: cs =>
    if c = ']' then .ok ([], cs)
    else if c = ',' then
      match _hitem : item.read cs with
      | .error fault => .error fault
      | .ok (a, rest) => (itemsRest item rest).map fun p => (a :: p.1, p.2)
    else .error .malformed
termination_by text.length
decreasing_by
  have := Reader.length_of_dropWhile _h
  have := item.length_le _hitem
  omega

theorem length_itemsRest_le {α : Type} {item : Reader α} {text rest : List Char} {as : List α}
    (h : itemsRest item text = .ok (as, rest)) : rest.length ≤ text.length := by
  fun_induction itemsRest item text generalizing as with
  | case1 | case3 | case5 => cases h
  | case2 _ _ hblank =>
    cases h
    exact Nat.le_of_lt (Reader.length_of_dropWhile hblank)
  | case4 _ _ _ _ hread hblank _ ih =>
    obtain ⟨⟨_, _⟩, hrest, hpair⟩ := map_eq_ok.mp h
    cases hpair
    have := Reader.length_of_dropWhile hblank
    have := item.length_le hread
    have := ih hrest
    omega

namespace Reader

def laterItems {α : Type} (item : Reader α) : Reader (List α) where
  read := itemsRest item
  length_le h := length_itemsRest_le h

def items {α : Type} (item : Reader α) : Reader (List α) := do
  blanks
  match ← accept [']'] with
  | some _ => return []
  | none =>
    let a ← item
    let as ← laterItems item
    return a :: as

def list {α : Type} (item : Reader α) : Reader (List α) := opening '[' (items item)

end Reader

end UtxoWallet.Json
