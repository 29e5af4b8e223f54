/-! # Readers

A reader takes a value off the start of a text, or tells why it cannot. No reader puts characters
back.
-/

namespace UtxoWallet.Json

inductive Fault where
  | endOfText
  /-- A sound value, but not of the shape that is wanted. -/
  | mismatch
  | malformed
deriving DecidableEq, Repr

theorem map_eq_ok {ε α β : Type} {f : α → β} {x : Except ε α} {b : β} :
    x.map f = .ok b ↔ ∃ a, x = .ok a ∧ f a = b := by
  cases x <;> simp [Except.map]

structure Reader (α : Type) where
  read : List Char → Except Fault (α × List Char)
  length_le : ∀ {text rest : List Char} {a : α}, read text = .ok (a, rest) →
    rest.length ≤ text.length

namespace Reader

/-! ## Sequences -/

protected def pure {α : Type} (a : α) : Reader α where
  read text := .ok (a, text)
  length_le h := by cases h; exact Nat.le_refl _

protected def bind {α β : Type} (r : Reader α) (f : α → Reader β) : Reader β where
  read text :=
    match r.read text with
    | .error fault => .error fault
    | .ok (a, rest) => (f a).read rest
  length_le {text rest b} h := by
    cases hr : r.read text with
    | error fault => simp [hr] at h
    | ok p => exact Nat.le_trans ((f p.1).length_le (by simpa [hr] using h)) (r.length_le hr)

instance : Monad Reader where
  pure := Reader.pure
  bind := Reader.bind

def fail {α : Type} (fault : Fault) : Reader α where
  read _ := .error fault
  length_le h := nomatch h

/-! ## Characters -/

def char : Reader Char where
  read
    | [] => .error .endOfText
    | c :: cs => .ok (c, cs)
  length_le {text rest a} h := by
    cases text with
    | nil => cases h
    | cons c cs =>
      cases h
      exact Nat.le_succ _

/-- The next character, left in its place, or nothing at the end. -/
def peek : Reader (Option Char) where
  read text := .ok (text.head?, text)
  length_le h := by cases h; exact Nat.le_refl _

/-- The longest start whose characters all satisfy `p`. -/
def run (p : Char → Bool) : Reader (List Char) where
  read text := .ok (text.takeWhile p, text.dropWhile p)
  length_le h := by cases h; exact (List.dropWhile_suffix p).length_le

def expect (c : Char) : Reader Unit := do
  if (← char) = c then return () else fail .malformed

/-- Takes the next character if it is one of these. -/
def accept (cs : List Char) : Reader (Option Char) := do
  match ← peek with
  | some c => if c ∈ cs then some <$> char else return none
  | none => return none

def word : List Char → Reader Unit
  | [] => return ()
  | c :: cs => do
    expect c
    word cs

/-! ## Blanks -/

def isBlank (c : Char) : Bool := c == ' ' || c == '\t' || c == '\n' || c == '\r'

theorem length_of_dropWhile {p : Char → Bool} {text cs : List Char} {c : Char}
    (h : text.dropWhile p = c :: cs) : cs.length < text.length := by
  have := (List.dropWhile_suffix (l := text) p).length_le
  rw [h, List.length_cons] at this
  exact this

def blanks : Reader Unit := discard (run isBlank)

/-- The whole text as one value, with nothing but blanks around it. -/
def whole {α : Type} (r : Reader α) (text : String) : Except Fault α := do
  let (a, rest) ← r.read text.toList
  if (rest.dropWhile isBlank).isEmpty then return a else throw .malformed

end Reader

end UtxoWallet.Json
