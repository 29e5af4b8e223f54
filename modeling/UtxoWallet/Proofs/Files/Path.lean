import UtxoWallet.Files.Path

/-! # Paths of files in a directory -/

namespace UtxoWallet

theorem Text.pieces_append_mark {isMark : Char → Bool} {m : Char} (h : isMark m = true)
    (cs ds : List Char) :
    Text.pieces isMark (cs ++ m :: ds) = Text.pieces isMark cs ++ Text.pieces isMark ds := by
  induction cs with
  | nil => simp [Text.pieces, h]
  | cons c cs ih =>
    rw [List.cons_append, Text.pieces, Text.pieces, ih]
    split
    · rfl
    · obtain ⟨p, ps, hps⟩ := List.exists_cons_of_ne_nil (Text.pieces_ne_nil isMark cs)
      rw [hps]
      rfl

theorem Text.pieces_of_unmarked {isMark : Char → Bool} {cs : List Char}
    (h : ∀ c ∈ cs, isMark c = false) : Text.pieces isMark cs = [cs] := by
  induction cs with
  | nil => rfl
  | cons c cs ih =>
    rw [List.forall_mem_cons] at h
    rw [Text.pieces, if_neg (by simp [h.1]), ih h.2]

namespace Files.Path

/-! ## Segments -/

theorem segments_append_slash (front back : String) :
    segments (front ++ "/" ++ back) = segments front ++ segments back := by
  have htext : (front ++ "/" ++ back).toList = front.toList ++ '/' :: back.toList := by
    simp [String.toList_append]
  rw [segments, htext, Text.pieces_append_mark (by rfl), List.filter_append, List.map_append]
  rfl

/-- A name is not empty and has no slash. -/
def IsPlain (name : String) : Prop := name ≠ "" ∧ '/' ∉ name.toList

theorem segments_of_plain {name : String} (h : IsPlain name) : segments name = [name] := by
  have hfree : ∀ c ∈ name.toList, (c == '/') = false := by
    intro c hc
    rw [beq_eq_false_iff_ne]
    rintro rfl
    exact h.2 hc
  have hne : name.toList ≠ [] := by simpa using h.1
  simp [segments, Text.pieces_of_unmarked hfree, hne]

/-! ## Joining -/

variable {directory name : String}

theorem isAbsolute_of_plain (h : IsPlain name) : isAbsolute name = false := by
  rw [isAbsolute, beq_eq_false_iff_ne]
  intro hhead
  exact h.2 (List.mem_of_head? hhead)

theorem join_empty (name : String) : join "" name = name := by
  simp [join]

theorem join_eq_append (h : IsPlain name) (hne : directory ≠ "") :
    join directory name = directory ++ name ∧ directory.toList.getLast? = some '/' ∨
      join directory name = directory ++ "/" ++ name := by
  have hempty : directory.isEmpty = false := String.isEmpty_eq_false_iff.mpr hne
  rw [join, isAbsolute_of_plain h, hempty, if_neg (by simp)]
  split
  · next hlast => exact .inl ⟨rfl, beq_iff_eq.mp hlast⟩
  · exact .inr rfl

theorem segments_join (h : IsPlain name) (directory : String) :
    segments (join directory name) = segments directory ++ [name] := by
  by_cases hne : directory = ""
  · rw [hne, join_empty, segments_of_plain h]
    rfl
  · rcases join_eq_append h hne with ⟨hjoin, hlast⟩ | hjoin
    · obtain ⟨front, hfront⟩ := List.getLast?_eq_some_iff.mp hlast
      have hdirectory : directory = String.ofList front ++ "/" := by
        rw [← String.toList_inj, hfront]
        simp
      have hsegments := segments_append_slash (String.ofList front) ""
      rw [String.append_empty, ← hdirectory] at hsegments
      rw [hjoin, hsegments, hdirectory, segments_append_slash, segments_of_plain h]
      simp [segments, Text.pieces]
    · rw [hjoin, segments_append_slash, segments_of_plain h]

/-- A path that is taken with a name behind it is taken without. -/
theorem fault?_of_join (h : IsPlain name) (hjoin : fault? (join directory name) = none) :
    fault? directory = none := by
  by_cases hne : directory = ""
  · rw [hne]
    decide
  · have hprefix : ∃ rest, join directory name = directory ++ rest := by
      rcases join_eq_append h hne with ⟨heq, -⟩ | heq
      · exact ⟨name, heq⟩
      · exact ⟨"/" ++ name, by rw [heq, String.append_assoc]⟩
    obtain ⟨rest, hrest⟩ := hprefix
    rw [hrest] at hjoin
    unfold fault? at *
    rw [String.toList_append, String.utf8ByteSize_append] at hjoin
    split at hjoin
    · cases hjoin
    · next hnull =>
      split at hjoin
      · cases hjoin
      · next hlong =>
        rw [if_neg fun hmem => hnull (List.mem_append_left _ hmem), if_neg (by omega)]

theorem isAbsolute_append {front : String} (hne : front ≠ "") (back : String) :
    isAbsolute (front ++ back) = isAbsolute front := by
  obtain ⟨c, cs, hcons⟩ := List.exists_cons_of_ne_nil (mt String.toList_eq_nil_iff.mp hne)
  rw [isAbsolute, isAbsolute, String.toList_append, hcons]
  rfl

theorem isAbsolute_join (h : IsPlain name) (directory : String) :
    isAbsolute (join directory name) = isAbsolute directory := by
  by_cases hne : directory = ""
  · rw [hne, join_empty, isAbsolute_of_plain h]
    rfl
  · rcases join_eq_append h hne with ⟨hjoin, -⟩ | hjoin
    · rw [hjoin, isAbsolute_append hne]
    · rw [hjoin, String.append_assoc, isAbsolute_append hne]

theorem endsWithSlash_append {name : String} (h : IsPlain name) (front : String) :
    endsWithSlash (front ++ name) = false := by
  obtain ⟨c, cs, hcons⟩ := List.exists_cons_of_ne_nil (mt String.toList_eq_nil_iff.mp h.1)
  have hlast : (front.toList ++ name.toList).getLast? = name.toList.getLast? := by
    rw [hcons]
    simp [List.getLast?_append, List.getLast?_cons]
  rw [endsWithSlash, String.toList_append, hlast, beq_eq_false_iff_ne]
  intro hslash
  exact h.2 (List.mem_of_getLast? hslash)

theorem endsWithSlash_join (h : IsPlain name) (directory : String) :
    endsWithSlash (join directory name) = false := by
  by_cases hne : directory = ""
  · rw [hne, join_empty]
    simpa using endsWithSlash_append h ""
  · rcases join_eq_append h hne with ⟨hjoin, -⟩ | hjoin
    · rw [hjoin, endsWithSlash_append h]
    · rw [hjoin, endsWithSlash_append h]

end Files.Path

end UtxoWallet
