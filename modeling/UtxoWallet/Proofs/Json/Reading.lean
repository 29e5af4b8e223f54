import UtxoWallet.Json.Reader
import UtxoWallet.Proofs.Result

/-! # Readers that take one text and no more

What a reader takes does not depend on what stands behind it, except that a number goes on as long
as it can.
-/

namespace UtxoWallet.Json

variable {α β : Type}

/-! ## Ends -/

/-- A number may go on with this character. -/
def goesOn (c : Char) : Bool := c.isDigit || c == '.' || c == 'e' || c == 'E'

/-- Nothing with which a number could go on comes first. -/
def Ends (text : List Char) : Prop := ∀ c ∈ text.head?, goesOn c = false

theorem ends_nil : Ends [] := nofun

theorem ends_cons {c : Char} (h : goesOn c = false) (text : List Char) : Ends (c :: text) := by
  rintro d hd
  rwa [← Option.some.inj hd]

/-! ## Steps of readers -/

namespace Reader

variable {c : Char} {text rest : List Char}

@[simp] theorem read_pure (a : α) (text : List Char) :
    (pure a : Reader α).read text = .ok (a, text) := rfl

@[simp] theorem read_bind (r : Reader α) (f : α → Reader β) (text : List Char) :
    (r >>= f).read text = r.read text >>= fun p => (f p.1).read p.2 := by
  change (Reader.bind r f).read text = _
  cases h : r.read text <;> simp only [Reader.bind, h] <;> rfl

@[simp] theorem read_map (f : α → β) (r : Reader α) (text : List Char) :
    (f <$> r).read text = r.read text >>= fun p => .ok (f p.1, p.2) :=
  read_bind r (fun a => pure (f a)) text

@[simp] theorem read_discard (r : Reader α) (text : List Char) :
    (discard r : Reader Unit).read text = r.read text >>= fun p => .ok ((), p.2) :=
  read_bind r (fun _ => pure ()) text

@[simp] theorem read_fail (fault : Fault) (text : List Char) :
    (fail fault : Reader α).read text = .error fault := rfl

@[simp] theorem read_char_cons (c : Char) (text : List Char) :
    char.read (c :: text) = .ok (c, text) := rfl

@[simp] theorem read_peek (text : List Char) : peek.read text = .ok (text.head?, text) := rfl

@[simp] theorem read_blanks (text : List Char) :
    blanks.read text = .ok ((), text.dropWhile isBlank) := rfl

@[simp] theorem read_expect (c : Char) (text : List Char) :
    (expect c).read (c :: text) = .ok ((), text) := by
  simp [expect]

theorem read_expect_eq_ok {c : Char} {text rest : List Char} :
    (expect c).read text = .ok ((), rest) ↔ text = c :: rest := by
  constructor
  · intro h
    cases text with
    | nil => cases h
    | cons d text =>
      by_cases hd : d = c
      · simpa [expect, hd] using h
      · simp [expect, hd] at h
  · rintro rfl
    exact read_expect c rest

theorem read_accept {cs : List Char} (h : c ∈ cs) (text : List Char) :
    (accept cs).read (c :: text) = .ok (some c, text) := by
  simp [accept, h]

theorem read_accept_none {cs : List Char} (h : ∀ c ∈ text.head?, c ∉ cs) :
    (accept cs).read text = .ok (none, text) := by
  cases text with
  | nil => rfl
  | cons c text => simp [accept, h c rfl]

end Reader

/-! ## Whole values -/

/-- The reader takes this text and no more, and finds this value in it. -/
def Reads (r : Reader α) (text : List Char) (a : α) : Prop :=
  ∀ rest, Ends rest → r.read (text ++ rest) = .ok (a, rest)

end UtxoWallet.Json
