import UtxoWallet.Proofs.Files.Directory

/-! # Changes of one file -/

namespace UtxoWallet.Files.Tree

open Result

variable {t t' : Tree} {start place q : Location} {path name name' : String}
  {content : ByteArray} {mode : Nat} {slash : Bool}

/-- All but what is at one place is as it was, and no directory goes. -/
structure ChangesOnly (place : Location) (t t' : Tree) : Prop where
  keepsDirectories : KeepsDirectories t t'
  get?_eq : ∀ q, q ≠ place → t'.get? q = t.get? q

theorem ChangesOnly.find_eq (h : ChangesOnly place t t') (hq : q ≠ place) :
    t'.find q = t.find q := by
  rw [find, find, h.get?_eq q hq]

/-- A file at another place reads as before. -/
theorem ChangesOnly.read_eq (h : ChangesOnly place t t')
    (haim : t.target start path = .ok (.entry q slash)) (hq : q ≠ place) :
    t'.read start path = t.read start path := by
  rw [read, read, haim, target_of_keepsDirectories h.keepsDirectories haim, ok_bind, ok_bind]
  simp only [h.find_eq hq]

/-! ## Each change -/

theorem changesOnly_create (h : t.create start path mode content = .ok t') :
    ∃ place, t.target start path = .ok (.entry place false) ∧ t.get? place = none ∧
      t'.find place = .ok (some (.file content mode)) ∧ ChangesOnly place t t' := by
  obtain ⟨place, haim, hfind, rfl⟩ := create_eq_ok.mp h
  obtain ⟨hshort, hnone⟩ := find_eq_ok.mp hfind
  have hne := place_ne_nil haim
  refine ⟨place, haim, hnone, find_eq_ok.mpr ⟨hshort, by rw [get?_put hne, if_pos rfl]⟩,
    keepsDirectories_put_file haim hfind (by simp), ?_⟩
  intro q hq
  rw [get?_put hne, if_neg hq]

theorem changesOnly_append {more : ByteArray} (h : t.append start path more = .ok t') :
    ∃ place, t.target start path = .ok (.entry place false) ∧ ChangesOnly place t t' := by
  have hkept := keepsDirectories_append h
  obtain ⟨place, _, _, haim, rfl, -⟩ := modify_eq_ok h
  refine ⟨place, haim, hkept, ?_⟩
  intro q hq
  rw [get?_put (place_ne_nil haim), if_neg hq]

theorem lookup_filter_ne (place q : Location) (entries : List (Location × Entry)) :
    (entries.filter (·.1 ≠ place)).lookup q = if q = place then none else entries.lookup q := by
  induction entries with
  | nil => simp
  | cons p rest ih =>
    rw [List.filter_cons, List.lookup_cons]
    by_cases hp : p.1 = place
    · rw [if_neg (by simpa using hp), ih, hp]
      by_cases hq : q = place
      · simp [hq]
      · simp [hq, beq_eq_false_iff_ne.mpr hq]
    · rw [if_pos (by simpa using hp), List.lookup_cons, ih]
      by_cases hq : q = place
      · simp [hq, beq_eq_false_iff_ne.mpr (Ne.symm hp)]
      · simp [hq]

theorem get?_erase (hne : place ≠ []) (q : Location) :
    (t.erase place).get? q = if q = place then none else t.get? q := by
  rw [get?, get?, erase, lookup_filter_ne]
  by_cases hq : q = place
  · simp [hq, hne]
  · simp [hq]

theorem changesOnly_remove (haim : t.target start path = .ok (.entry place false))
    (hfind : t.find place = .ok (some (.file content mode))) :
    t.remove start path = .ok (t.erase place) ∧ (t.erase place).get? place = none ∧
      ChangesOnly place t (t.erase place) := by
  have hne := place_ne_nil haim
  refine ⟨remove_eq_ok.mpr ⟨place, content, mode, haim, hfind, rfl⟩, ?_, ?_, ?_⟩
  · rw [get?_erase hne, if_pos rfl]
  · intro q hq
    rw [isDirectory_iff] at *
    rw [get?_erase hne, if_neg, hq]
    rintro rfl
    rw [(find_eq_ok.mp hfind).2] at hq
    cases hq
  · intro q hq
    rw [get?_erase hne, if_neg hq]

/-! ## Several files in one directory -/

/-- Different names in a directory are different places. -/
theorem name_eq_of_target_join (hname : Path.IsPlain name ∧ ¬(name = "." ∨ name = ".."))
    (hname' : Path.IsPlain name' ∧ ¬(name' = "." ∨ name' = ".."))
    (haim : t.target start (Path.join path name) = .ok (.entry place slash))
    (haim' : t.target start (Path.join path name') = .ok (.entry place slash)) : name = name' := by
  obtain ⟨-, parent, hleads, heq⟩ := (target_join_eq_ok hname.1 hname.2).mp haim
  obtain ⟨-, parent', hleads', heq'⟩ := (target_join_eq_ok hname'.1 hname'.2).mp haim'
  obtain rfl := hleads.unique hleads'
  have hplace := (Target.entry.inj heq).1.symm.trans (Target.entry.inj heq').1
  simpa using hplace

end UtxoWallet.Files.Tree
