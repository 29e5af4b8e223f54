import UtxoWallet.Proofs.Bytes.Utf8
import UtxoWallet.Proofs.Ledger.Address
import UtxoWallet.Proofs.Result
import UtxoWallet.Proofs.Text.Lines
import UtxoWallet.Wallet.Store

/-! # Records read back as they were written -/

namespace UtxoWallet

open Text Result

namespace Wallet

variable {w : Wallet} {ws : List Wallet}

/-! ## One record -/

theorem isBlank_of_isName {name : String} (h : isName name = true) :
    name.toList ≠ [] ∧ ∀ c ∈ name.toList, isBlank c = false := by
  simp only [isName, Bool.and_eq_true, Bool.not_eq_true', List.all_eq_true] at h
  refine ⟨by simpa [String.isEmpty_eq_false_iff] using h.1, ?_⟩
  intro c hc
  exact isBlank_of_isAlphanum (h.2 c hc)

theorem isBlank_of_isKeyRef {keyRef : String} (h : isKeyRef keyRef = true) :
    keyRef.toList ≠ [] ∧ ∀ c ∈ keyRef.toList, isBlank c = false := by
  simp only [isKeyRef, hasBlank, Bool.and_eq_true, Bool.not_eq_true', List.any_eq_false] at h
  exact ⟨by simpa [String.isEmpty_eq_false_iff] using h.1, by simpa using h.2⟩

theorem isBlank_of_check {address : String} (h : Address.check address = .ok ()) :
    address.toList ≠ [] ∧ ∀ c ∈ address.toList, isBlank c = false := by
  obtain ⟨hne, hall⟩ := Address.check_eq_ok_iff.mp h
  refine ⟨by simpa [String.isEmpty_eq_false_iff] using hne, ?_⟩
  intro c hc
  exact Address.isBlank_of_isBase64 (hall c hc)

theorem check_eq_ok_iff :
    Store.check w = .ok () ↔
      isName w.name = true ∧ isKeyRef w.keyRef = true ∧ Address.check w.address = .ok () := by
  unfold Store.check
  split
  · next h => simp_all
  · split
    · next h => simp_all
    · simp_all [mapError_eq_ok]

/-- The line of a wallet, wherever it stands. -/
theorem toList_line (w : Wallet) :
    w.line.toList = w.name.toList ++ ' ' :: (w.keyRef.toList ++ ' ' :: w.address.toList) := by
  simp [line]

theorem words_append_line (h : Store.check w = .ok ()) (front : List Char) :
    words (front ++ w.line.toList) =
      words (front ++ w.name.toList) ++ [w.keyRef.toList, w.address.toList] := by
  obtain ⟨-, hkeyRef, haddress⟩ := check_eq_ok_iff.mp h
  obtain ⟨hkne, hkeyRef⟩ := isBlank_of_isKeyRef hkeyRef
  obtain ⟨hane, haddress⟩ := isBlank_of_check haddress
  have hspace : isBlank ' ' = true := by decide
  rw [toList_line, ← List.append_assoc, words_append_blank _ hspace,
    words_append_blank _ hspace, words_word hkeyRef hkne, words_word haddress hane,
    List.singleton_append]

theorem ofLine?_eq_some_iff {l : List Char} :
    ofLine? l = some w ↔ words l = [w.name.toList, w.keyRef.toList, w.address.toList] ∧
      isName w.name = true ∧ ∀ c ∈ w.address.toList, Address.isBase64 c = true := by
  rw [ofLine?, ← List.all_eq_true]
  constructor
  · intro h
    unfold ofWords at h
    split at h
    · next hwords =>
      split at h
      · next hall =>
        rw [← Option.some.inj h, hwords]
        simpa using hall
      · cases h
    · cases h
  · rintro ⟨hwords, hname, haddress⟩
    rw [hwords, ofWords, String.ofList_toList, String.ofList_toList, String.ofList_toList,
      if_pos ⟨hname, haddress⟩]

theorem ofLine?_line (h : Store.check w = .ok ()) : ofLine? w.line.toList = some w := by
  have hwords := words_append_line h []
  obtain ⟨hname, -, haddress⟩ := check_eq_ok_iff.mp h
  obtain ⟨hne, hblank⟩ := isBlank_of_isName hname
  rw [List.nil_append, List.nil_append, words_word hblank hne, List.singleton_append] at hwords
  exact ofLine?_eq_some_iff.mpr ⟨hwords, hname, (Address.check_eq_ok_iff.mp haddress).2⟩

/-- Whatever is read could have been written. -/
theorem check_of_ofLine? {l : List Char} (h : ofLine? l = some w) : Store.check w = .ok () := by
  obtain ⟨hwords, hname, haddress⟩ := ofLine?_eq_some_iff.mp h
  have hall : ∀ u ∈ words l, u ≠ [] ∧ ∀ c ∈ u, isBlank c = false :=
    fun u => isBlank_of_mem_words
  rw [hwords, List.forall_mem_cons, List.forall_mem_cons, List.forall_mem_singleton] at hall
  obtain ⟨-, hkeyRef, hne, -⟩ := hall
  refine check_eq_ok_iff.mpr ⟨hname, ?_, Address.check_eq_ok_iff.mpr ⟨?_, haddress⟩⟩
  · rw [isKeyRef, hasBlank]
    simpa using hkeyRef
  · simpa using hne

theorem isBlank_of_mem_line (h : Store.check w = .ok ()) {c : Char} (hc : c ∈ w.line.toList)
    (hblank : isBlank c = true) : c = ' ' := by
  obtain ⟨hname, hkeyRef, haddress⟩ := check_eq_ok_iff.mp h
  rw [toList_line] at hc
  simp only [List.mem_append, List.mem_cons] at hc
  rcases hc with hc | hc | hc | hc | hc
  · rw [(isBlank_of_isName hname).2 c hc] at hblank
    cases hblank
  · exact hc
  · rw [(isBlank_of_isKeyRef hkeyRef).2 c hc] at hblank
    cases hblank
  · exact hc
  · rw [(isBlank_of_check haddress).2 c hc] at hblank
    cases hblank

theorem newline_not_mem_line (h : Store.check w = .ok ()) : '\n' ∉ w.line.toList := by
  intro hmem
  exact absurd (isBlank_of_mem_line h hmem (by decide)) (by decide)

theorem dropReturn_append_line (h : Store.check w = .ok ()) (front : List Char) :
    dropReturn (front ++ w.line.toList) = front ++ w.line.toList := by
  obtain ⟨-, -, haddress⟩ := check_eq_ok_iff.mp h
  obtain ⟨hne, hblank⟩ := isBlank_of_check haddress
  have hlast : (front ++ w.line.toList).getLast? = w.address.toList.getLast? := by
    obtain ⟨c, cs, hcons⟩ := List.exists_cons_of_ne_nil hne
    rw [toList_line, hcons]
    simp [List.getLast?_append, List.getLast?_cons]
  rw [dropReturn, hlast]
  split
  · next hreturn =>
    have hno := hblank '\r' (List.mem_of_getLast? hreturn)
    exact absurd hno (by decide)
  · rfl

/-! ## Several records -/

theorem ofLines_append (number : Nat) (ls ms : List (List Char)) :
    ofLines number (ls ++ ms) =
      ofLines number ls >>= fun ws => (ofLines (number + ls.length) ms).map (ws ++ ·) := by
  induction ls generalizing number with
  | nil => cases h : ofLines number ms <;> simp [ofLines, h, Except.map]
  | cons l ls ih =>
    rw [List.cons_append, ofLines, ofLines]
    cases hl : ofLine? l with
    | none => rfl
    | some w =>
      rw [ih, List.length_cons, Nat.add_right_comm, Nat.add_assoc number]
      cases ofLines (number + 1) ls with
      | error e => rfl
      | ok ws => cases ofLines (number + (ls.length + 1)) ms <;> rfl

theorem length_of_ofLines {number : Nat} {ls : List (List Char)}
    (h : ofLines number ls = .ok ws) : ws.length = ls.length := by
  induction ls generalizing number ws with
  | nil =>
    rw [ofLines, Except.ok.injEq] at h
    rw [← h]
    rfl
  | cons l ls ih =>
    rw [ofLines] at h
    split at h
    · cases h
    · obtain ⟨rest, hrest, rfl⟩ := Json.map_eq_ok.mp h
      rw [List.length_cons, List.length_cons, ih hrest]

theorem lines_append_record (hw : Store.check w = .ok ()) {l : List Char} (hl : '\n' ∉ l) :
    lines (l ++ (w.line ++ "\n").toList) = [l ++ w.line.toList] := by
  have hfree : '\n' ∉ l ++ w.line.toList := by
    rw [List.mem_append, not_or]
    exact ⟨hl, newline_not_mem_line hw⟩
  have hline := lines_line hfree []
  rw [dropReturn_append_line hw, lines] at hline
  rw [String.toList_append, ← List.append_assoc]
  exact hline

/-- A record behind a finished line is one more record. -/
theorem ofRecords_append {text : String} (hterminated : Terminated text.toList)
    (hw : Store.check w = .ok ()) :
    ofRecords (text ++ (w.line ++ "\n")) = (ofRecords text).map (· ++ [w]) := by
  have hlast : ∀ number, ofLines number [w.line.toList] = .ok [w] := by
    intro number
    rw [ofLines, ofLine?_line hw]
    rfl
  have hrecord := lines_append_record hw (List.not_mem_nil (a := '\n'))
  rw [List.nil_append, List.nil_append] at hrecord
  rw [ofRecords, String.toList_append, lines_append hterminated, hrecord, ofLines_append, ofRecords]
  cases ofLines 1 (lines text.toList) with
  | error e => rfl
  | ok ws => simp [hlast, Except.map]

theorem ofRecords_record (hw : Store.check w = .ok ()) : ofRecords (w.line ++ "\n") = .ok [w] := by
  have hrecords : ofRecords ("" ++ (w.line ++ "\n")) = _ := ofRecords_append (.inl rfl) hw
  have hnone : ofRecords "" = .ok [] := by simp [ofRecords, lines, ofLines]
  rw [String.empty_append, hnone] at hrecords
  exact hrecords

/-- The address in a line is plain. -/
theorem isBase64_of_ofLine? {l : List Char} (h : ofLine? l = some w) :
    ∀ c ∈ w.address.toList, Address.isBase64 c = true :=
  (ofLine?_eq_some_iff.mp h).2.2

theorem isBase64_of_ofLines {number : Nat} {ls : List (List Char)} (h : ofLines number ls = .ok ws)
    (hw : w ∈ ws) : ∀ c ∈ w.address.toList, Address.isBase64 c = true := by
  induction ls generalizing number ws with
  | nil =>
    rw [ofLines, Except.ok.injEq] at h
    rw [← h] at hw
    cases hw
  | cons l ls ih =>
    rw [ofLines] at h
    split at h
    · cases h
    · next u hu =>
      obtain ⟨rest, hrest, rfl⟩ := Json.map_eq_ok.mp h
      rcases List.mem_cons.mp hw with rfl | hw
      · exact isBase64_of_ofLine? hu
      · exact ih hrest hw

theorem length_words_of_ofLine? {l : List Char} (h : ofLine? l = some w) :
    (words l).length = 3 := by
  rw [(ofLine?_eq_some_iff.mp h).1]
  rfl

/-- A record behind an unfinished line spoils it. -/
theorem ofLine?_append_line {l : List Char} {w' : Wallet} (hl : ofLine? l = some w')
    (hw : Store.check w = .ok ()) : ofLine? (l ++ w.line.toList) = none := by
  have hlength := length_words_of_ofLine? hl
  have hle := length_words_le_append l w.name.toList
  rw [Option.eq_none_iff_forall_ne_some]
  intro spoilt hspoilt
  have hthree := length_words_of_ofLine? hspoilt
  rw [words_append_line hw, List.length_append, List.length_cons, List.length_singleton] at hthree
  omega

theorem ofRecords_append_of_not_terminated {text : String} {ws : List Wallet}
    (hunfinished : ¬Terminated text.toList) (hws : ofRecords text = .ok ws)
    (hw : Store.check w = .ok ()) :
    ∃ last, ofRecords (text ++ (w.line ++ "\n")) =
      .error (.malformedRecord ws.length (String.ofList (last ++ w.line.toList))) := by
  obtain ⟨front, last, htext, hfront, hlast, hne⟩ := exists_last_line hunfinished
  refine ⟨last, ?_⟩
  rw [ofRecords, htext, lines_append hfront, lines_of_not_mem hlast hne, ofLines_append,
    bind_eq_ok] at hws
  obtain ⟨before, hbefore, hrest⟩ := hws
  obtain ⟨after, hafter, rfl⟩ := Json.map_eq_ok.mp hrest
  rw [ofLines] at hafter
  split at hafter
  · cases hafter
  · next w' hw' =>
    rw [ofRecords, String.toList_append, htext, List.append_assoc, lines_append hfront,
      lines_append_record hw hlast, ofLines_append, hbefore, ok_bind, ofLines,
      ofLine?_append_line hw' hw]
    obtain rfl : [w'] = after := Except.ok.inj hafter
    rw [List.length_append, length_of_ofLines hbefore, List.length_singleton, Nat.add_comm 1]
    rfl

end Wallet

end UtxoWallet
