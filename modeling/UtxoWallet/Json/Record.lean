import UtxoWallet.Json.Shape

/-! # Records

A record is an object with named members in any order, or a list of its members in their own order.
Its members are gathered in a draft. Members of other names are stepped over.
-/

namespace UtxoWallet.Json

structure Member (δ : Type) where
  name : String
  /-- Whether a draft has its value already. -/
  isGiven : δ → Bool
  value : δ → Reader δ

structure Format (δ α : Type) where
  draft : δ
  /-- The members in the order of the list. -/
  members : List (Member δ)
  /-- The record, unless a member is missing. -/
  finish : δ → Option α

variable {δ α : Type}

namespace Reader

def finished (f : Format δ α) (d : δ) : Reader α :=
  match f.finish d with
  | some a => return a
  | none => fail .mismatch

/-! ## Objects -/

/-- A member behind the opening quote of its name. -/
def member (members : List (Member δ)) (d : δ) : Reader δ := do
  let name ← textRest
  match members.find? (·.name == name) with
  | none =>
    colon
    skip
    return d
  | some m =>
    if m.isGiven d then fail .mismatch
    else
      colon
      m.value d

def nextMember (members : List (Member δ)) (d : δ) : Reader δ := do
  blanks
  expect '"'
  member members d

end Reader

def membersRest (members : List (Member δ)) (d : δ) (text : List Char) :
    Except Fault (δ × List Char) :=
  match _h : text.dropWhile Reader.isBlank with
  | [] => .error .endOfText
  | c :: cs =>
    if c = '\x7d' then .ok (d, cs)
    else if c = ',' then
      match _hmember : (Reader.nextMember members d).read cs with
      | .error fault => .error fault
      | .ok (d', rest) => membersRest members d' rest
    else .error .malformed
termination_by text.length
decreasing_by
  have := Reader.length_of_dropWhile _h
  have := (Reader.nextMember members d).length_le _hmember
  omega

theorem length_membersRest_le {members : List (Member δ)} {d d' : δ} {text rest : List Char}
    (h : membersRest members d text = .ok (d', rest)) : rest.length ≤ text.length := by
  fun_induction membersRest members d text with
  | case1 | case3 | case5 => cases h
  | case2 _ _ _ hblank =>
    cases h
    exact Nat.le_of_lt (Reader.length_of_dropWhile hblank)
  | case4 d _ _ _ _ hread hblank _ ih =>
    have := Reader.length_of_dropWhile hblank
    have := (Reader.nextMember members d).length_le hread
    have := ih h
    omega

namespace Reader

def laterMembers (members : List (Member δ)) (d : δ) : Reader δ where
  read := membersRest members d
  length_le h := length_membersRest_le h

def object (f : Format δ α) : Reader α := do
  blanks
  match ← accept ['\x7d'] with
  | some _ => finished f f.draft
  | none =>
    let d ← nextMember f.members f.draft
    let d ← laterMembers f.members d
    finished f d

/-! ## Lists -/

/-- The values of these members, up to the closing bracket. A list may stop early. -/
def values (f : Format δ α) (d : δ) (isFirst : Bool) : List (Member δ) → Reader α
  | [] => do
    blanks
    expect ']'
    finished f d
  | m :: ms => do
    blanks
    match ← accept [']'] with
    | some _ => finished f d
    | none =>
      if !isFirst then expect ','
      let d ← m.value d
      values f d false ms

/-! ## Either form -/

def record (f : Format δ α) : Reader α := do
  blanks
  match ← accept ['[', '\x7b'] with
  | some '[' => values f f.draft true f.members
  | some _ => object f
  | none => otherShape

end Reader

end UtxoWallet.Json
