import UtxoWallet.Proofs.Bytes.Utf8
import UtxoWallet.Proofs.Ledger.Address

/-! # Where a text may be cut

A text has a short form exactly if both cuts that make it fall between characters. A text of plain
characters always has one: its two ends.
-/

namespace UtxoWallet.Address

variable {cs front back : List Char} {c : Char} {text short : String} {n : Nat} {keep : UInt64}

/-! ## Cuts -/

theorem utf8ByteSize_ofList_cons (c : Char) (cs : List Char) :
    (String.ofList (c :: cs)).utf8ByteSize = c.utf8Size + (String.ofList cs).utf8ByteSize := by
  rw [String.ofList_cons, String.utf8ByteSize_append, String.utf8ByteSize_singleton]

/-- A cut behind the first `n` bytes leaves these characters on either side. -/
def Cuts (n : Nat) (cs front back : List Char) : Prop :=
  cs = front ++ back ∧ (String.ofList front).utf8ByteSize = n

theorem cuts_zero_iff : Cuts 0 cs front back ↔ front = [] ∧ cs = back := by
  rw [Cuts, String.utf8ByteSize_eq_zero_iff, String.ofList_eq_empty_iff]
  constructor
  · rintro ⟨rfl, rfl⟩
    exact ⟨rfl, rfl⟩
  · rintro ⟨rfl, rfl⟩
    exact ⟨rfl, rfl⟩

theorem not_cuts_nil (hn : n ≠ 0) : ¬Cuts n [] front back := by
  rintro ⟨hnil, hsize⟩
  rw [(List.append_eq_nil_iff.mp hnil.symm).1] at hsize
  exact hn hsize.symm

/-- A cut that is not at the start has the first character before it. -/
theorem cuts_cons_iff (hn : n ≠ 0) :
    Cuts n (c :: cs) front back ↔
      c.utf8Size ≤ n ∧ ∃ front', front = c :: front' ∧ Cuts (n - c.utf8Size) cs front' back := by
  constructor
  · rintro ⟨hcs, hsize⟩
    cases front with
    | nil => exact absurd hsize.symm hn
    | cons c' front' =>
      obtain ⟨rfl, rfl⟩ := List.cons_eq_cons.mp hcs
      rw [utf8ByteSize_ofList_cons] at hsize
      exact ⟨by omega, front', rfl, rfl, by omega⟩
  · rintro ⟨hle, front', rfl, rfl, hsize⟩
    exact ⟨rfl, by rw [utf8ByteSize_ofList_cons, hsize]; omega⟩

theorem takeBytes_eq_some_iff : takeBytes n cs = some front ↔ ∃ back, Cuts n cs front back := by
  fun_induction takeBytes n cs generalizing front with
  | case1 cs => simp [cuts_zero_iff, eq_comm]
  | case2 n => simp [not_cuts_nil]
  -- The first character fits, so a cut lies behind it and the rest is cut by the bytes left over.
  | case3 n c cs hle ih =>
    rw [Option.map_eq_map, Option.map_eq_some_iff]
    simp only [cuts_cons_iff (Nat.succ_ne_zero n), ih]
    constructor
    · rintro ⟨front', ⟨back, hcuts⟩, rfl⟩
      exact ⟨back, hle, front', rfl, hcuts⟩
    · rintro ⟨back, -, front', rfl, hcuts⟩
      exact ⟨front', ⟨back, hcuts⟩, rfl⟩
  | case4 n c cs hle => simp [cuts_cons_iff, hle]

theorem dropBytes_eq_some_iff : dropBytes n cs = some back ↔ ∃ front, Cuts n cs front back := by
  fun_induction dropBytes n cs with
  | case1 cs => simp [cuts_zero_iff]
  | case2 n => simp [not_cuts_nil]
  | case3 n c cs hle ih =>
    simp only [cuts_cons_iff (Nat.succ_ne_zero n), ih]
    constructor
    · rintro ⟨front', hcuts⟩
      exact ⟨c :: front', hle, front', rfl, hcuts⟩
    · rintro ⟨_, -, front', rfl, hcuts⟩
      exact ⟨front', hcuts⟩
  | case4 n c cs hle => simp [cuts_cons_iff, hle]

theorem isValid_iff_cuts :
    (⟨n⟩ : String.Pos.Raw).IsValid text ↔ ∃ front back, Cuts n text.toList front back := by
  rw [String.Pos.Raw.isValid_iff_exists_append]
  constructor
  · rintro ⟨front, back, rfl, hn⟩
    refine ⟨front.toList, back.toList, String.toList_append, ?_⟩
    rw [String.ofList_toList]
    exact (congrArg String.Pos.Raw.byteIdx hn).symm
  · rintro ⟨front, back, htext, rfl⟩
    refine ⟨String.ofList front, String.ofList back, ?_, rfl⟩
    rw [← String.ofList_append, ← htext, String.ofList_toList]

theorem isSome_takeBytes_iff :
    (takeBytes n text.toList).isSome = true ↔ (⟨n⟩ : String.Pos.Raw).IsValid text := by
  rw [Option.isSome_iff_exists, isValid_iff_cuts]
  exact exists_congr fun _ => takeBytes_eq_some_iff

theorem isSome_dropBytes_iff :
    (dropBytes n text.toList).isSome = true ↔ (⟨n⟩ : String.Pos.Raw).IsValid text := by
  rw [Option.isSome_iff_exists, isValid_iff_cuts, exists_comm]
  exact exists_congr fun _ => dropBytes_eq_some_iff

/-- A text has a short form exactly if the cuts that it takes fall between characters. -/
theorem isSome_abbreviate_iff :
    (abbreviate text keep).isSome = true ↔
      ((2 * keep).toNat < text.utf8ByteSize →
        (⟨keep.toNat⟩ : String.Pos.Raw).IsValid text ∧
          (⟨text.utf8ByteSize - keep.toNat⟩ : String.Pos.Raw).IsValid text) := by
  rw [abbreviate, ← isSome_takeBytes_iff, ← isSome_dropBytes_iff]
  split
  · next hle => exact iff_of_true rfl fun hlong => absurd hle (Nat.not_le.mpr hlong)
  · next hlong =>
    rw [forall_prop_of_true (Nat.not_le.mp hlong)]
    cases takeBytes keep.toNat text.toList with
    | none => simp
    | some first => cases dropBytes (text.utf8ByteSize - keep.toNat) text.toList <;> simp

example : abbreviate "äöü" 1 = none := by decide +kernel

/-! ## Plain texts -/

theorem cuts_of_plain (h : ∀ c ∈ cs, c.toNat < 128) (hn : n ≤ cs.length) :
    Cuts n cs (cs.take n) (cs.drop n) := by
  refine ⟨(List.take_append_drop n cs).symm, ?_⟩
  rw [Text.utf8ByteSize_of_plain, String.toList_ofList, List.length_take_of_le hn]
  intro c hc
  rw [String.toList_ofList] at hc
  exact h c (List.mem_of_mem_take hc)

theorem takeBytes_of_plain (h : ∀ c ∈ cs, c.toNat < 128) (hn : n ≤ cs.length) :
    takeBytes n cs = some (cs.take n) :=
  takeBytes_eq_some_iff.mpr ⟨_, cuts_of_plain h hn⟩

theorem dropBytes_of_plain (h : ∀ c ∈ cs, c.toNat < 128) (hn : n ≤ cs.length) :
    dropBytes n cs = some (cs.drop n) :=
  dropBytes_eq_some_iff.mpr ⟨_, cuts_of_plain h hn⟩

/-- A text of plain characters is cut between characters. -/
theorem abbreviate_of_plain (h : ∀ c ∈ text.toList, c.toNat < 128)
    (hkeep : 2 * keep.toNat < UInt64.size) :
    abbreviate text keep = some (if text.toList.length ≤ 2 * keep.toNat then text else
      String.ofList (text.toList.take keep.toNat ++ "...".toList ++
        text.toList.drop (text.toList.length - keep.toNat))) := by
  have hdouble : (2 * keep).toNat = 2 * keep.toNat := by
    rw [UInt64.toNat_mul]
    exact Nat.mod_eq_of_lt hkeep
  rw [abbreviate, hdouble, Text.utf8ByteSize_of_plain h]
  split
  · rfl
  · next hlong =>
    rw [takeBytes_of_plain h (by omega), dropBytes_of_plain h (Nat.sub_le _ _)]
    rfl

/-- A text as it is or, where it is longer than both ends together, the ends with dots between. -/
def IsAbbreviation (keep : Nat) (text short : String) : Prop :=
  if text.length ≤ 2 * keep then short = text
  else ∃ first middle last, text = first ++ middle ++ last ∧ first.length = keep ∧
    last.length = keep ∧ short = first ++ "..." ++ last

/-- A text has one short form at most. -/
theorem IsAbbreviation.unique {short' : String} (h : IsAbbreviation n text short)
    (h' : IsAbbreviation n text short') : short = short' := by
  unfold IsAbbreviation at h h'
  split at h
  · rw [if_pos ‹_›] at h'
    rw [h, h']
  · rw [if_neg ‹_›] at h'
    obtain ⟨first, middle, last, htext, hfirst, hlast, rfl⟩ := h
    obtain ⟨first', middle', last', htext', hfirst', hlast', rfl⟩ := h'
    have hsame := congrArg String.toList (htext.symm.trans htext')
    simp only [String.toList_append, List.append_assoc] at hsame
    simp only [← String.length_toList] at hfirst hfirst' hlast hlast'
    obtain ⟨hfirsts, hrest⟩ := List.append_inj hsame (hfirst.trans hfirst'.symm)
    obtain ⟨-, hlasts⟩ := List.append_inj' hrest (hlast.trans hlast'.symm)
    rw [String.toList_inj.mp hfirsts, String.toList_inj.mp hlasts]

theorem isAbbreviation_ends (hlong : ¬text.toList.length ≤ 2 * n) :
    IsAbbreviation n text (String.ofList
      (text.toList.take n ++ "...".toList ++ text.toList.drop (text.toList.length - n))) := by
  rw [IsAbbreviation, ← String.length_toList, if_neg hlong]
  -- The middle is what lies behind the first end, up to where the last one begins.
  refine ⟨String.ofList (text.toList.take n),
    String.ofList ((text.toList.drop n).take (text.toList.length - n - n)),
    String.ofList (text.toList.drop (text.toList.length - n)), ?_, ?_, ?_, ?_⟩
  · have hdrop : text.toList.drop (text.toList.length - n) =
        (text.toList.drop n).drop (text.toList.length - n - n) := by
      rw [List.drop_drop]
      congr 1
      omega
    rw [hdrop, ← String.ofList_append, ← String.ofList_append, List.append_assoc,
      List.take_append_drop, List.take_append_drop, String.ofList_toList]
  · rw [String.length_ofList, List.length_take]
    omega
  · rw [String.length_ofList, List.length_drop]
    omega
  · rw [String.ofList_append, String.ofList_append]
    rfl

/-- Every plain text has a short form. -/
theorem exists_abbreviation_of_plain (h : ∀ c ∈ text.toList, c.toNat < 128)
    (hkeep : 2 * keep.toNat < UInt64.size) :
    ∃ short, abbreviate text keep = some short ∧ IsAbbreviation keep.toNat text short := by
  refine ⟨_, abbreviate_of_plain h hkeep, ?_⟩
  split
  · next hle => rw [IsAbbreviation, ← String.length_toList, if_pos hle]
  · next hlong => exact isAbbreviation_ends hlong

end UtxoWallet.Address
