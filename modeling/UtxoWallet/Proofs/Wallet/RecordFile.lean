import UtxoWallet.Proofs.Wallet.Log

/-! # Which texts a record file may hold

A file is listed if each of its lines is a record, and the first line that is none is what is told
otherwise.
-/

namespace UtxoWallet.Wallet

open Text Result

variable {w : Wallet} {ws : List Wallet} {l : List Char} {ls : List (List Char)} {number : Nat}
  {e : Error}

/-! ## One line -/

/-- A line of three words: a name of letters and digits, a key file, and an address in base64. Blanks
stand between them and perhaps around them. -/
structure IsRecord (l : List Char) (w : Wallet) : Prop where
  spaced : ∃ front gap gap' back,
    l = front ++ w.name.toList ++ gap ++ w.keyRef.toList ++ gap' ++ w.address.toList ++ back ∧
      (∀ c ∈ front ++ gap ++ gap' ++ back, isBlank c = true) ∧ gap ≠ [] ∧ gap' ≠ []
  name : w.name ≠ "" ∧ ∀ c ∈ w.name.toList, c.isAlphanum = true
  keyRef : w.keyRef ≠ "" ∧ ∀ c ∈ w.keyRef.toList, isBlank c = false
  address : w.address ≠ "" ∧ ∀ c ∈ w.address.toList, Address.isBase64 c = true

theorem isName_iff {name : String} :
    isName name = true ↔ name ≠ "" ∧ ∀ c ∈ name.toList, c.isAlphanum = true := by
  simp [isName, String.isEmpty_eq_false_iff]

theorem isKeyRef_iff {keyRef : String} :
    isKeyRef keyRef = true ↔ keyRef ≠ "" ∧ ∀ c ∈ keyRef.toList, isBlank c = false := by
  simp [isKeyRef, hasBlank, String.isEmpty_eq_false_iff]

theorem check_iff_address {address : String} :
    Address.check address = .ok () ↔
      address ≠ "" ∧ ∀ c ∈ address.toList, Address.isBase64 c = true := by
  rw [Address.check_eq_ok_iff, String.isEmpty_eq_false_iff]

theorem IsRecord.check (h : IsRecord l w) : Store.check w = .ok () :=
  check_eq_ok_iff.mpr
    ⟨isName_iff.mpr h.name, isKeyRef_iff.mpr h.keyRef, check_iff_address.mpr h.address⟩

theorem head_blank {gap : List Char} (hne : gap ≠ []) (hgap : ∀ c ∈ gap, isBlank c = true)
    (word rest : List Char) : ∀ c ∈ (gap ++ word ++ rest).head?, isBlank c = true := by
  intro c hc
  rw [List.append_assoc, List.head?_append_of_ne_nil _ hne] at hc
  exact hgap c (List.mem_of_mem_head? hc)

theorem ne_nil_of_head_blank {gap word rest : List Char} (hne : word ≠ [])
    (hword : ∀ c ∈ word, isBlank c = false)
    (hhead : ∀ c ∈ (gap ++ word ++ rest).head?, isBlank c = true) : gap ≠ [] := by
  rintro rfl
  obtain ⟨c, cs, rfl⟩ := List.exists_cons_of_ne_nil hne
  have hblank := hhead c rfl
  rw [hword c List.mem_cons_self] at hblank
  cases hblank

theorem words_of_isRecord (h : IsRecord l w) :
    words l = [w.name.toList, w.keyRef.toList, w.address.toList] := by
  obtain ⟨hname, hkeyRef, haddress⟩ := check_eq_ok_iff.mp h.check
  obtain ⟨hnne, hname⟩ := isBlank_of_isName hname
  obtain ⟨hkne, hkeyRef⟩ := isBlank_of_isKeyRef hkeyRef
  obtain ⟨hane, haddress⟩ := isBlank_of_check haddress
  obtain ⟨front, gap, gap', back, hline, hblank, hgne, hgne'⟩ := h.spaced
  simp only [List.forall_mem_append] at hblank
  obtain ⟨⟨⟨hfront, hgap⟩, hgap'⟩, hback⟩ := hblank
  have hshape : l = front ++ w.name.toList ++
      (gap ++ w.keyRef.toList ++ (gap' ++ w.address.toList ++ back)) := by
    rw [hline]
    simp only [List.append_assoc]
  rw [hshape, words_spaced hfront hname hnne (head_blank hgne hgap _ _),
    words_spaced hgap hkeyRef hkne (head_blank hgne' hgap' _ _),
    words_spaced hgap' haddress hane fun c hc => hback c (List.mem_of_mem_head? hc),
    words_eq_nil_iff.mpr hback]

theorem isRecord_of_words (hwords : words l = [w.name.toList, w.keyRef.toList, w.address.toList])
    (hcheck : Store.check w = .ok ()) : IsRecord l w := by
  obtain ⟨hname, hkeyRef, haddress⟩ := check_eq_ok_iff.mp hcheck
  obtain ⟨hkne, hkblank⟩ := isBlank_of_isKeyRef hkeyRef
  obtain ⟨hane, hablank⟩ := isBlank_of_check haddress
  obtain ⟨front, rest, rfl, hfront, hhead, hrest⟩ := exists_of_words_eq_cons hwords
  obtain ⟨gap, rest', rfl, hgap, hhead', hrest'⟩ := exists_of_words_eq_cons hrest
  obtain ⟨gap', back, rfl, hgap', -, hback⟩ := exists_of_words_eq_cons hrest'
  refine ⟨⟨front, gap, gap', back, ?_, ?_, ne_nil_of_head_blank hkne hkblank hhead,
    ne_nil_of_head_blank hane hablank hhead'⟩, isName_iff.mp hname, isKeyRef_iff.mp hkeyRef,
    check_iff_address.mp haddress⟩
  · simp only [List.append_assoc]
  · simp only [List.forall_mem_append]
    exact ⟨⟨⟨hfront, hgap⟩, hgap'⟩, words_eq_nil_iff.mp hback⟩

theorem ofLine?_eq_some_iff_isRecord : ofLine? l = some w ↔ IsRecord l w := by
  constructor
  · intro h
    exact isRecord_of_words (ofLine?_eq_some_iff.mp h).1 (check_of_ofLine? h)
  · intro h
    obtain ⟨hname, -, -⟩ := check_eq_ok_iff.mp h.check
    exact ofLine?_eq_some_iff.mpr ⟨words_of_isRecord h, hname, h.address.2⟩

/-! ## Several lines -/

theorem ofLines_eq_ok_iff : ofLines number ls = .ok ws ↔ List.Forall₂ IsRecord ls ws := by
  induction ls generalizing number ws with
  | nil => simp [ofLines, eq_comm]
  | cons l ls ih =>
    rw [ofLines]
    cases hl : ofLine? l with
    | none =>
      simp only [reduceCtorEq, false_iff]
      rintro (_ | ⟨hrecord, -⟩)
      rw [ofLine?_eq_some_iff_isRecord.mpr hrecord] at hl
      cases hl
    | some w =>
      have hrecord := ofLine?_eq_some_iff_isRecord.mp hl
      constructor
      · intro h
        obtain ⟨rest, hrest, rfl⟩ := Json.map_eq_ok.mp h
        exact .cons hrecord (ih.mp hrest)
      · rintro (_ | ⟨hrecord', hrest⟩)
        obtain rfl := Option.some.inj (hl.symm.trans (ofLine?_eq_some_iff_isRecord.mpr hrecord'))
        exact Json.map_eq_ok.mpr ⟨_, ih.mpr hrest, rfl⟩

theorem exists_records_iff :
    (∃ ws, List.Forall₂ IsRecord ls ws) ↔ ∀ l ∈ ls, ∃ w, IsRecord l w := by
  induction ls with
  | nil => simp
  | cons l ls ih =>
    rw [List.forall_mem_cons, ← ih]
    constructor
    · rintro ⟨_, _ | ⟨hrecord, hrest⟩⟩
      exact ⟨⟨_, hrecord⟩, _, hrest⟩
    · rintro ⟨⟨w, hrecord⟩, ws, hrest⟩
      exact ⟨w :: ws, .cons hrecord hrest⟩

/-- The fault names the first line that is no record. -/
inductive Spoilt (number : Nat) : List (List Char) → Error → Prop
  | line {before after : List (List Char)} {bad : List Char}
    (hbefore : ∀ l ∈ before, ∃ w, IsRecord l w) (hbad : ∀ w, ¬IsRecord bad w) :
    Spoilt number (before ++ bad :: after)
      (.malformedRecord (number + before.length) (String.ofList bad))

theorem Spoilt.cons (h : Spoilt (number + 1) ls e) (hl : IsRecord l w) :
    Spoilt number (l :: ls) e := by
  obtain ⟨hbefore, hbad⟩ := h
  next before after bad =>
  have hline : Spoilt number ((l :: before) ++ bad :: after) _ :=
    .line (List.forall_mem_cons.mpr ⟨⟨w, hl⟩, hbefore⟩) hbad
  rw [List.length_cons, Nat.add_comm before.length, ← Nat.add_assoc] at hline
  exact hline

theorem ofLines_of_spoilt (h : Spoilt number ls e) : ofLines number ls = .error e := by
  obtain ⟨hbefore, hbad⟩ := h
  next before after bad =>
  have hnone : ofLine? bad = none := by
    rw [Option.eq_none_iff_forall_ne_some]
    intro w hw
    exact hbad w (ofLine?_eq_some_iff_isRecord.mp hw)
  obtain ⟨ws, hws⟩ := exists_records_iff.mpr hbefore
  rw [ofLines_append, ofLines_eq_ok_iff.mpr hws, ok_bind, ofLines, hnone]
  rfl

theorem spoilt_of_ofLines (h : ofLines number ls = .error e) : Spoilt number ls e := by
  induction ls generalizing number with
  | nil => cases h
  | cons l ls ih =>
    rw [ofLines] at h
    split at h
    · next hnone =>
      obtain rfl := Except.error.inj h
      have hbad : ∀ w, ¬IsRecord l w := by
        intro w hw
        rw [ofLine?_eq_some_iff_isRecord.mpr hw] at hnone
        cases hnone
      have hbefore : ∀ l ∈ ([] : List (List Char)), ∃ w, IsRecord l w :=
        fun _ hmem => absurd hmem List.not_mem_nil
      exact .line hbefore hbad
    · next w hw =>
      cases hrest : ofLines (number + 1) ls with
      | ok ws =>
        rw [hrest] at h
        cases h
      | error e' =>
        rw [hrest] at h
        obtain rfl := Except.error.inj h
        exact (ih hrest).cons (ofLine?_eq_some_iff_isRecord.mp hw)

/-! ## Whole files -/

namespace Store

variable {s : Store} {v : World} {text : String}

theorem check_of_forall₂ (h : List.Forall₂ IsRecord ls ws) : ∀ w ∈ ws, check w = .ok () := by
  induction h with
  | nil => exact fun _ hmem => absurd hmem (List.not_mem_nil)
  | cons hrecord _ ih => exact List.forall_mem_cons.mpr ⟨hrecord.check, ih⟩

theorem perform_list_of_read (hread : v.files.read v.start s.recordPath = .ok text.toUTF8) :
    s.list.perform v = (ofLines 1 (lines text.toList), v) := by
  rw [perform_list, listed_of_read hread, ofRecords]

/-- A record file is listed exactly if each line is a record, and then line by line. What is listed
can be written as it would have been added, and is listed again. Otherwise nothing is listed and the
fault tells of the first line that is no record. -/
theorem list_of_text (hread : v.files.read v.start s.recordPath = .ok text.toUTF8) :
    ((∃ ws, s.list.perform v = (.ok ws, v)) ↔
      ∀ l ∈ lines text.toList, ∃ w, IsRecord l w) ∧
    (∀ ws, s.list.perform v = (.ok ws, v) ↔ List.Forall₂ IsRecord (lines text.toList) ws) ∧
    (∀ e, s.list.perform v = (.error e, v) ↔ Spoilt 1 (lines text.toList) e) ∧
    ∀ ws, s.list.perform v = (.ok ws, v) →
      ∀ v' : World, v'.files.read v'.start s.recordPath = .ok (logText ws).toUTF8 →
        s.list.perform v' = (.ok ws, v') := by
  have hok : ∀ ws, s.list.perform v = (.ok ws, v) ↔
      List.Forall₂ IsRecord (lines text.toList) ws := by
    intro ws
    rw [perform_list_of_read hread, Prod.mk.injEq, and_iff_left rfl, ofLines_eq_ok_iff]
  refine ⟨?_, hok, ?_, ?_⟩
  · rw [← exists_records_iff]
    exact exists_congr hok
  · intro e
    rw [perform_list_of_read hread, Prod.mk.injEq, and_iff_left rfl]
    exact ⟨spoilt_of_ofLines, ofLines_of_spoilt⟩
  · intro ws hws v' hread'
    have hcheck := check_of_forall₂ ((hok ws).mp hws)
    rw [perform_list, listed_of_read hread', ofRecords_logText hcheck]

/-- Two records with blanks of many kinds, the second without a line end. -/
def looseText : String := "\u00a0alice\tk1\u2028\u0085QUJD \r\nbob  \rk 2/="

theorem list_of_looseText :
    List.Forall₂ IsRecord (lines looseText.toList)
        [⟨"alice", "k1", "QUJD"⟩, ⟨"bob", "k", "2/="⟩] ∧
      (⟨""⟩ : Store).list.perform (fileWorld "alice k1 QUJD\nbob k 2/=\n") =
        (.ok [⟨"alice", "k1", "QUJD"⟩, ⟨"bob", "k", "2/="⟩],
          fileWorld "alice k1 QUJD\nbob k 2/=\n") ∧
      Spoilt 1 (lines (looseText ++ "\n\na b\r").toList) (.malformedRecord 3 "") := by
  have hread : (fileWorld looseText).files.read [] (⟨""⟩ : Store).recordPath =
      .ok looseText.toUTF8 := by decide +kernel
  have hlist : ((⟨""⟩ : Store).list.perform (fileWorld looseText)).1 =
      .ok [⟨"alice", "k1", "QUJD"⟩, ⟨"bob", "k", "2/="⟩] := by decide +kernel
  have hread' : (fileWorld "alice k1 QUJD\nbob k 2/=\n").files.read []
      (⟨""⟩ : Store).recordPath = .ok (logText [⟨"alice", "k1", "QUJD"⟩, ⟨"bob", "k", "2/="⟩]).toUTF8 := by
    decide +kernel
  have hspoilt : (fileWorld (looseText ++ "\n\na b\r")).files.read [] (⟨""⟩ : Store).recordPath =
      .ok (looseText ++ "\n\na b\r").toUTF8 := by decide +kernel
  have hfault : ((⟨""⟩ : Store).list.perform (fileWorld (looseText ++ "\n\na b\r"))).1 =
      .error (.malformedRecord 3 "") := by decide +kernel
  obtain ⟨-, hok, -, hagain⟩ := list_of_text hread
  obtain ⟨-, -, herror, -⟩ := list_of_text hspoilt
  exact ⟨(hok _).mp (Prod.ext hlist rfl), hagain _ (Prod.ext hlist rfl) _ hread',
    (herror _).mp (Prod.ext hfault rfl)⟩

end Store

end UtxoWallet.Wallet
