import UtxoWallet.Bytes.Hex
import UtxoWallet.Json.Reader

/-! # Texts between quotes -/

namespace UtxoWallet.Json

/-! ## Four hexadecimal digits -/

def hexValue (cs : List Char) : Option Nat :=
  cs.foldlM (fun n c => (16 * n + ·) <$> Hex.digitValue? c) 0

def byteCount (cs : List Char) : Nat := cs.foldl (fun n c => n + c.utf8Size) 0

/-- Four bytes are looked at together, so that a text with fewer left ends too early whatever they
are. -/
def Reader.hex : Reader Nat where
  read text :=
    if byteCount (text.take 4) < 4 then .error .endOfText
    else
      match hexValue (text.take 4) with
      | some n => .ok (n, text.drop 4)
      | none => .error .malformed
  length_le {text rest a} h := by
    split at h
    · cases h
    · split at h
      · cases h
        simp
      · cases h

/-! ## Escapes -/

def simpleEscape? : Char → Option Char
  | '"' => some '"'
  | '\\' => some '\\'
  | '/' => some '/'
  | 'b' => some '\x08'
  | 'f' => some '\x0C'
  | 'n' => some '\n'
  | 'r' => some '\r'
  | 't' => some '\t'
  | _ => none

def isHighSurrogate (n : Nat) : Bool := decide (0xD800 ≤ n) && decide (n ≤ 0xDBFF)

def isLowSurrogate (n : Nat) : Bool := decide (0xDC00 ≤ n) && decide (n ≤ 0xDFFF)

namespace Reader

/-- The low half that has to follow a high one. -/
def lowSurrogate : Reader Nat := do
  word ['\\', 'u']
  let n ← hex
  if isLowSurrogate n then return n else fail .malformed

/-- A character by its code point, or by the two halves of one. -/
def codePoint : Reader Char := do
  let n ← hex
  if isLowSurrogate n then fail .malformed
  else if isHighSurrogate n then
    let low ← lowSurrogate
    return Char.ofNat (0x10000 + (n - 0xD800) * 0x400 + (low - 0xDC00))
  else return Char.ofNat n

def escape : Reader Char := do
  let c ← char
  if c = 'u' then codePoint
  else
    match simpleEscape? c with
    | some d => return d
    | none => fail .malformed

/-- An escape in a text that nobody wants: its digits only have to be digits. -/
def skippedEscape : Reader Unit := do
  let c ← char
  if c = 'u' then discard hex
  else if (simpleEscape? c).isSome then return ()
  else fail .malformed

end Reader

/-! ## Whole texts -/

/-- Up to the closing quote, with escapes read by `escape`. -/
def quotedRest {α : Type} (escape : Reader α) (plain : Char → α) (text : List Char) :
    Except Fault (List α × List Char) :=
  match text with
  | [] => .error .endOfText
  | c :: cs =>
    if c = '"' then .ok ([], cs)
    else if c = '\\' then
      match _h : escape.read cs with
      | .error fault => .error fault
      | .ok (a, rest) => (quotedRest escape plain rest).map fun p => (a :: p.1, p.2)
    else if c < ' ' then .error .malformed
    else (quotedRest escape plain cs).map fun p => (plain c :: p.1, p.2)
termination_by text.length
decreasing_by
  · have := escape.length_le _h
    simp only [List.length_cons]
    omega
  · simp

theorem length_quotedRest_le {α : Type} {escape : Reader α} {plain : Char → α}
    {text rest : List Char} {as : List α} (h : quotedRest escape plain text = .ok (as, rest)) :
    rest.length ≤ text.length := by
  fun_induction quotedRest escape plain text generalizing as with
  | case1 => cases h
  | case2 => cases h; simp
  | case3 => cases h
  | case4 cs a after hread _ ih =>
    obtain ⟨⟨as, _⟩, hrest, hpair⟩ := map_eq_ok.mp h
    cases hpair
    have := escape.length_le hread
    have := ih hrest
    simp only [List.length_cons] at *
    omega
  | case5 => cases h
  | case6 c cs _ _ _ ih =>
    obtain ⟨⟨as, _⟩, hrest, hpair⟩ := map_eq_ok.mp h
    cases hpair
    have := ih hrest
    simp only [List.length_cons] at *
    omega

namespace Reader

def textRest : Reader String where
  read text := (quotedRest escape id text).map fun p => (String.ofList p.1, p.2)
  length_le h := by
    obtain ⟨⟨_, _⟩, hrest, hpair⟩ := map_eq_ok.mp h
    cases hpair
    exact length_quotedRest_le hrest

def skippedTextRest : Reader Unit where
  read text := (quotedRest skippedEscape (fun _ => ()) text).map fun p => ((), p.2)
  length_le h := by
    obtain ⟨⟨_, _⟩, hrest, hpair⟩ := map_eq_ok.mp h
    cases hpair
    exact length_quotedRest_le hrest

end Reader

end UtxoWallet.Json
