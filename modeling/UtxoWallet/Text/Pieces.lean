/-! # Cutting a text

A text is cut at marks, or at the ends of its lines. A line feed ends a line, with or without a
carriage return before it. The last line may go without.
-/

namespace UtxoWallet.Text

/-! ## Pieces -/

/-- The pieces between marks, empty ones included. -/
def pieces (isMark : Char → Bool) : List Char → List (List Char)
  | [] => [[]]
  | c :: cs =>
    if isMark c then [] :: pieces isMark cs
    else
      match pieces isMark cs with
      | [] => [[c]]
      | p :: ps => (c :: p) :: ps

theorem pieces_ne_nil (isMark : Char → Bool) (cs : List Char) : pieces isMark cs ≠ [] := by
  cases cs with
  | nil => simp [pieces]
  | cons c cs =>
    rw [pieces]
    split
    · simp
    · split <;> simp

/-- What stands before the first mark, and what follows it if there is one. -/
def cut (isMark : Char → Bool) : List Char → List Char × Option (List Char)
  | [] => ([], none)
  | c :: cs => if isMark c then ([], some cs) else (c :: (cut isMark cs).1, (cut isMark cs).2)

/-! ## Lines -/

/-- Without the carriage return that stands before the line feed. -/
def dropReturn (line : List Char) : List Char :=
  match line.getLast? with
  | some '\r' => line.dropLast
  | _ => line

theorem length_dropWhile_le {p : Char → Bool} (cs : List Char) :
    (cs.dropWhile p).length ≤ cs.length :=
  (List.dropWhile_suffix p).length_le

/-- The lines of a text, without their ends. No line follows a last line feed. -/
def lines : List Char → List (List Char)
  | [] => []
  | c :: cs =>
    if '\n' ∈ c :: cs then
      dropReturn ((c :: cs).takeWhile (· != '\n')) :: lines ((c :: cs).dropWhile (· != '\n')).tail
    else [c :: cs]
termination_by cs => cs.length
decreasing_by
  have := length_dropWhile_le (p := (· != '\n')) (c :: cs)
  simp only [List.length_cons, List.length_tail] at this ⊢
  omega

end UtxoWallet.Text
