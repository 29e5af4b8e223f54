/-! # Punycode

A text is written in ASCII: first its ASCII characters, and behind the last hyphen where each of the
others goes. These come in the order of their code points, each as the number of steps from the one
before it. A step goes to the next place in the text, or on to the next code point.
-/

namespace UtxoWallet.Url.Punycode

/-! ## Numbers of variable length -/

def digit (n : Nat) : Char := Char.ofNat (if n < 26 then 'a'.toNat + n else '0'.toNat + (n - 26))

def digitValue? (c : Char) : Option Nat :=
  if c.isLower then some (c.toNat - 'a'.toNat)
  else if c.isUpper then some (c.toNat - 'A'.toNat)
  else if c.isDigit then some (c.toNat - '0'.toNat + 26)
  else none

/-- A digit below this one ends a number. `weight` grows by thirty-six from digit to digit. -/
def threshold (bias weight : Nat) : Nat := min 26 (max 1 (weight - bias))

theorem threshold_pos (bias weight : Nat) : 0 < threshold bias weight := by
  unfold threshold
  omega

def writeNumber (bias weight n : Nat) : List Char :=
  let t := threshold bias weight
  if n < t then [digit n]
  else digit (t + (n - t) % (36 - t)) :: writeNumber bias (weight + 36) ((n - t) / (36 - t))
termination_by n
decreasing_by
  have := threshold_pos bias weight
  have := Nat.div_le_self (n - threshold bias weight) (36 - threshold bias weight)
  omega

/-- A number that is added to `n`, and what follows it. `unit` is what its first digit counts. -/
def readNumber (bias weight unit n : Nat) : List Char → Option (Nat × List Char)
  | [] => none
  | c :: cs =>
    match digitValue? c with
    | none => none
    | some d =>
      if d < threshold bias weight then some (n + d * unit, cs)
      else
        readNumber bias (weight + 36) (unit * (36 - threshold bias weight)) (n + d * unit) cs

theorem length_readNumber {bias weight unit n m : Nat} {cs rest : List Char}
    (h : readNumber bias weight unit n cs = some (m, rest)) : rest.length < cs.length := by
  fun_induction readNumber bias weight unit n cs with
  | case1 => cases h
  | case2 => cases h
  | case3 =>
    cases h
    exact Nat.lt_succ_self _
  | case4 weight unit n c cs d hd ht ih => exact Nat.lt_succ_of_lt (ih h)

/-! ## Bias -/

def shrink (weight n : Nat) : Nat :=
  if 455 < n then shrink (weight + 36) (n / 35) else weight + 36 * n / (n + 38)
termination_by n
decreasing_by omega

/-- The bias after a number, when the text has `length` characters. -/
def adapt (isFirst : Bool) (n length : Nat) : Nat :=
  let n := if isFirst then n / 700 else n / 2
  shrink 0 (n + n / length)

def firstBias : Nat := 72

/-! ## Writing -/

structure Writer where
  steps : Nat := 0
  bias : Nat := firstBias
  placed : Nat
  written : List Char

/-- One character of the text, in the round for a code point. -/
def Writer.visit (basic point : Nat) (w : Writer) (c : Char) : Writer :=
  if c.toNat < point then { w with steps := w.steps + 1 }
  else if c.toNat = point then
    { steps := 0, bias := adapt (w.placed = basic) w.steps (w.placed + 1), placed := w.placed + 1,
      written := w.written ++ writeNumber w.bias 36 w.steps }
  else w

/-- The rounds for some code points, from `next` on. -/
def Writer.rounds (cs : List Char) (basic next : Nat) (w : Writer) : List Nat → Writer
  | [] => w
  | point :: points =>
    let w := { w with steps := w.steps + (point - next) * (w.placed + 1) }
    let w := cs.foldl (Writer.visit basic point) w
    Writer.rounds cs basic (point + 1) { w with steps := w.steps + 1 } points

def isBasic (c : Char) : Bool := c.toNat < 0x80

def encode (cs : List Char) : List Char :=
  let basic := cs.filter isBasic
  let points := ((cs.filter (!isBasic ·)).map Char.toNat).mergeSort.eraseDups
  let start : Writer :=
    { placed := basic.length, written := if basic.isEmpty then [] else basic ++ ['-'] }
  (start.rounds cs basic.length 0x80 points).written

/-! ## Reading -/

/-- Puts the other characters in. The next one goes to `place`, if it is `point`. -/
def insert (bias point place : Nat) (cs : List Char) (text : List Char) : Option (List Char) :=
  if text.isEmpty then some cs
  else
    match _h : readNumber bias 36 1 place text with
    | none => none
    | some (n, rest) =>
      let length := cs.length + 1
      let point := point + n / length
      if point.isValidChar then
        insert (adapt (place = 0) (n - place) length) point (n % length + 1)
          (cs.insertIdx (n % length) (Char.ofNat point)) rest
      else none
termination_by text.length
decreasing_by exact length_readNumber _h

/-- What stands before the last hyphen, and what follows it. -/
def parts (cs : List Char) : List Char × List Char :=
  match cs.reverse.dropWhile (· ≠ '-') with
  | [] => ([], cs)
  | _ :: basic => (basic.reverse, (cs.reverse.takeWhile (· ≠ '-')).reverse)

def decode (cs : List Char) : Option (List Char) :=
  if cs.all isBasic then insert firstBias 0x80 0 (parts cs).1 (parts cs).2 else none

end UtxoWallet.Url.Punycode
