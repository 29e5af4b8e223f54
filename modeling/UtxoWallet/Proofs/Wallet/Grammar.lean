import UtxoWallet.Proofs.Wallet.Record

/-! # What is checked before writing is what can be read -/

namespace UtxoWallet.Wallet

open Text Result

variable {w : Wallet}

theorem ofLines_singleton_eq_ok_iff {number : Nat} {l : List Char} :
    ofLines number [l] = .ok [w] ↔ ofLine? l = some w := by
  rw [ofLines]
  cases ofLine? l with
  | none => simp
  | some w' => simp [ofLines, Except.map]

/-- A record that passes is one line wherever it is put. -/
theorem lines_around (h : Store.check w = .ok ()) {before : String}
    (hbefore : Terminated before.toList) (after : String) :
    lines (before ++ (w.line ++ "\n") ++ after).toList =
      lines before.toList ++ w.line.toList :: lines after.toList := by
  have hend : "\n".toList = ['\n'] := rfl
  have hreturn := dropReturn_append_line h []
  rw [List.nil_append] at hreturn
  rw [String.toList_append, String.toList_append, String.toList_append, hend, List.append_assoc,
    List.append_assoc, List.singleton_append, lines_append hbefore,
    lines_line (newline_not_mem_line h), hreturn]

/-- The checks before a record is written let through what the reader takes for the same wallet, and
nothing else. -/
theorem check_iff_reads (w : Wallet) :
    (Store.check w = .ok () ↔
      isName w.name = true ∧ isKeyRef w.keyRef = true ∧ Address.check w.address = .ok ()) ∧
    (∀ number, Store.check w = .ok () ↔ ofLines number [w.line.toList] = .ok [w]) ∧
    (Store.check w = .ok () →
      (∀ c ∈ w.line.toList, isBlank c = true → c = ' ') ∧
      ∀ before after : String, Terminated before.toList →
        lines (before ++ (w.line ++ "\n") ++ after).toList =
          lines before.toList ++ w.line.toList :: lines after.toList) := by
  refine ⟨check_eq_ok_iff, ?_, ?_⟩
  · intro number
    rw [ofLines_singleton_eq_ok_iff]
    exact ⟨ofLine?_line, check_of_ofLine?⟩
  · intro hcheck
    refine ⟨fun c => isBlank_of_mem_line hcheck, ?_⟩
    intro before after hbefore
    exact lines_around hcheck hbefore after

/-- Without a key file the two words of a name are read as a name and a key file. -/
example :
    let w : Wallet := ⟨"a b", "", "QUJD"⟩
    Store.check w ≠ .ok () ∧ ofLine? w.line.toList = some ⟨"a", "b", "QUJD"⟩ := by
  decide +kernel

end UtxoWallet.Wallet
