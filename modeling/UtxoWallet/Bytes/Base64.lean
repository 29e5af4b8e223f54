import UtxoWallet.Text.Blank

/-! # Base64

Bytes in groups of three become four symbols of six bits each. A last group of one or two bytes
takes two or three symbols; its unused bits are zero, so that each row of bytes has one spelling.
-/

namespace UtxoWallet.Base64

/-! ## The alphabet -/

def symbol (n : Nat) : Char :=
  if n < 26 then Char.ofNat (65 + n)
  else if n < 52 then Char.ofNat (71 + n)
  else if n < 62 then Char.ofNat (n - 4)
  else if n = 62 then '+'
  else '/'

def value? (c : Char) : Option Nat :=
  if 'A' ≤ c ∧ c ≤ 'Z' then some (c.toNat - 65)
  else if 'a' ≤ c ∧ c ≤ 'z' then some (c.toNat - 71)
  else if '0' ≤ c ∧ c ≤ '9' then some (c.toNat + 4)
  else if c = '+' then some 62
  else if c = '/' then some 63
  else none

theorem value?_symbol {n : Nat} (h : n < 64) : value? (symbol n) = some n := by
  revert n
  decide

/-! ## Groups -/

def sextets : List UInt8 → List Nat
  | a :: b :: c :: rest =>
    a.toNat / 4 :: (a.toNat % 4 * 16 + b.toNat / 16) :: (b.toNat % 16 * 4 + c.toNat / 64) ::
      (c.toNat % 64) :: sextets rest
  | [a, b] => [a.toNat / 4, a.toNat % 4 * 16 + b.toNat / 16, b.toNat % 16 * 4]
  | [a] => [a.toNat / 4, a.toNat % 4 * 16]
  | [] => []

inductive TailFault where
  | single
  | unusedBits
deriving DecidableEq, Repr

def octets : List Nat → Except TailFault (List UInt8)
  | s :: t :: u :: v :: rest => do
    let bytes ← octets rest
    return UInt8.ofNat (s * 4 + t / 16) :: UInt8.ofNat (t % 16 * 16 + u / 4) ::
      UInt8.ofNat (u % 4 * 64 + v) :: bytes
  | [s, t, u] =>
    if u % 4 = 0 then .ok [UInt8.ofNat (s * 4 + t / 16), UInt8.ofNat (t % 16 * 16 + u / 4)]
    else .error .unusedBits
  | [s, t] => if t % 16 = 0 then .ok [UInt8.ofNat (s * 4 + t / 16)] else .error .unusedBits
  | [_] => .error .single
  | [] => .ok []

/-! ## Without padding -/

def encode (bytes : List UInt8) : List Char := (sextets bytes).map symbol

inductive Fault where
  /-- A byte outside the alphabet, and where it stands. -/
  | symbol (byte : UInt8) (offset : Nat)
  /-- One symbol is left over. -/
  | length (count : Nat)
  /-- The last symbol has bits that belong to no byte. -/
  | lastSymbol (byte : UInt8) (offset : Nat)
deriving DecidableEq, Repr

def byteValue? (b : UInt8) : Option Nat := value? (Char.ofUInt8 b)

def firstStray (offset : Nat) : List UInt8 → Option (UInt8 × Nat)
  | [] => none
  | b :: bs => if (byteValue? b).isNone then some (b, offset) else firstStray (offset + 1) bs

/-- The stray byte to report. One that ends the text and alone makes it too long comes first, since
it is most likely a line end. -/
def stray (text : List UInt8) : Option (UInt8 × Nat) :=
  match text.getLast? with
  | some b =>
    if text.length % 4 = 1 ∧ (byteValue? b).isNone then some (b, text.length - 1)
    else firstStray 0 text
  | none => none

def decode (text : List UInt8) : Except Fault (List UInt8) :=
  match stray text with
  | some (b, offset) => .error (.symbol b offset)
  | none =>
    match octets (text.filterMap byteValue?) with
    | .ok bytes => .ok bytes
    | .error .single => .error (.length text.length)
    | .error .unusedBits => .error (.lastSymbol (text.getLast?.getD 0) (text.length - 1))

/-! ## With padding -/

/-- Signs that fill the last group up to four symbols. -/
def padding (count : Nat) : List Char := List.replicate ((4 - count % 4) % 4) '='

def encodePadded (bytes : List UInt8) : List Char := encode bytes ++ padding (encode bytes).length

/-- Without the signs that fill up the end, however many there are. -/
def unpadded (text : List Char) : List Char := Text.dropTrailing (· = '=') text

def decodePadded (text : List Char) : Option (List UInt8) :=
  let body := unpadded text
  if text.length % 4 = 0 ∧ text.length ≤ body.length + 2 then do
    let values ← body.mapM value?
    (octets values).toOption
  else none

/-! ## Writing and reading -/

theorem sextets_lt (bytes : List UInt8) : ∀ n ∈ sextets bytes, n < 64 := by
  induction bytes using sextets.induct with
  | case1 a b c rest ih =>
    have ha := a.toNat_lt
    have hb := b.toNat_lt
    have hc := c.toNat_lt
    simp only [sextets, List.mem_cons]
    rintro n (rfl | rfl | rfl | rfl | hn)
    · omega
    · omega
    · omega
    · omega
    · exact ih n hn
  | case2 a b =>
    have ha := a.toNat_lt
    have hb := b.toNat_lt
    simp only [sextets, List.mem_cons, List.not_mem_nil, or_false]
    omega
  | case3 a =>
    have ha := a.toNat_lt
    simp only [sextets, List.mem_cons, List.not_mem_nil, or_false]
    omega
  | case4 => simp [sextets]

theorem octets_sextets (bytes : List UInt8) : octets (sextets bytes) = .ok bytes := by
  induction bytes using sextets.induct with
  | case1 a b c rest ih =>
    have ha := a.toNat_lt
    have hb := b.toNat_lt
    have hc := c.toNat_lt
    have h1 : a.toNat / 4 * 4 + (a.toNat % 4 * 16 + b.toNat / 16) / 16 = a.toNat := by omega
    have h2 : (a.toNat % 4 * 16 + b.toNat / 16) % 16 * 16 + (b.toNat % 16 * 4 + c.toNat / 64) / 4 =
        b.toNat := by omega
    have h3 : (b.toNat % 16 * 4 + c.toNat / 64) % 4 * 64 + c.toNat % 64 = c.toNat := by omega
    simp only [sextets, octets, ih, h1, h2, h3, UInt8.ofNat_toNat]
    rfl
  | case2 a b =>
    have ha := a.toNat_lt
    have hb := b.toNat_lt
    have h1 : a.toNat / 4 * 4 + (a.toNat % 4 * 16 + b.toNat / 16) / 16 = a.toNat := by omega
    have h2 : (a.toNat % 4 * 16 + b.toNat / 16) % 16 * 16 + b.toNat % 16 * 4 / 4 = b.toNat := by
      omega
    have h3 : b.toNat % 16 * 4 % 4 = 0 := by omega
    simp only [sextets, octets, h1, h2, h3, if_true, UInt8.ofNat_toNat]
  | case3 a =>
    have ha := a.toNat_lt
    have h1 : a.toNat / 4 * 4 + a.toNat % 4 * 16 / 16 = a.toNat := by omega
    have h2 : a.toNat % 4 * 16 % 16 = 0 := by omega
    simp only [sextets, octets, h1, h2, if_true, UInt8.ofNat_toNat]
  | case4 => rfl

end UtxoWallet.Base64
