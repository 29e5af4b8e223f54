import UtxoWallet.Proofs.Json.Text

/-! # Lists, item by item -/

namespace UtxoWallet.Json

variable {α β : Type}

/-! ## Commas -/

/-- A comma before each item but the first. -/
theorem commaSeparated_cons (item : List Char) (items : List (List Char)) :
    Written.commaSeparated (item :: items) = item ++ items.flatMap (',' :: ·) := by
  induction items generalizing item with
  | nil => simp [Written.commaSeparated]
  | cons next items ih =>
    rw [Written.commaSeparated, ih, List.flatMap_cons, List.cons_append]
    exact List.cons_ne_nil next items

/-- An item ends where a comma or the closing bracket comes. -/
theorem ends_later (close : Char) (h : goesOn close = false) (items : List (List Char))
    (rest : List Char) : Ends (items.flatMap (',' :: ·) ++ close :: rest) := by
  cases items with
  | nil => exact ends_cons h rest
  | cons next items => exact ends_cons (by decide) _

/-! ## Lists -/

section

variable {item : Reader α} {text cs : List Char}

theorem itemsRest_of_close (h : text.dropWhile Reader.isBlank = ']' :: cs) :
    itemsRest item text = .ok ([], cs) := by
  rw [itemsRest]
  split
  · next hnil => simp [h] at hnil
  · next c after hcons =>
    obtain ⟨rfl, rfl⟩ := List.cons.inj (hcons.symm.trans h)
    rw [if_pos rfl]

theorem itemsRest_of_comma (h : text.dropWhile Reader.isBlank = ',' :: cs) :
    itemsRest item text =
      item.read cs >>= fun p => (itemsRest item p.2).map fun q => (p.1 :: q.1, q.2) := by
  rw [itemsRest]
  split
  · next hnil => simp [h] at hnil
  · next c after hcons =>
    obtain ⟨rfl, rfl⟩ := List.cons.inj (hcons.symm.trans h)
    rw [if_neg (by decide), if_pos rfl]
    split <;> next hread => rw [hread]; rfl

end

end UtxoWallet.Json
