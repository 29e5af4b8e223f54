import UtxoWallet.Bytes.Pem
import UtxoWallet.Proofs.Bytes.Base64

/-! # Armour comes off as it was put on -/

namespace UtxoWallet.Pem

/-! ## Pieces of a text -/

theorem after?_append (start rest : List Char) : after? start (start ++ rest) = some rest := by
  rw [after?, if_pos (List.isPrefixOf_iff_prefix.mpr (List.prefix_append start rest)),
    List.drop_left]

theorem before?_append (front stop : List Char) : before? stop (front ++ stop) = some front := by
  rw [before?, if_pos (List.isSuffixOf_iff_suffix.mpr (List.suffix_append front stop)),
    List.length_append, Nat.add_sub_cancel, List.take_left]

theorem beforeLineEnd?_append {cs : List Char} (h : '\r' ∉ cs) :
    beforeLineEnd? (cs ++ ['\n']) = some cs := by
  unfold beforeLineEnd?
  split
  · next rev hrev =>
    rw [List.reverse_append, List.reverse_singleton, List.singleton_append, List.cons.injEq] at hrev
    exact absurd (List.mem_reverse.mp (by simp [hrev.2])) h
  · next rev _ hrev =>
    rw [List.reverse_append, List.reverse_singleton, List.singleton_append, List.cons.injEq] at hrev
    rw [← hrev.2, List.reverse_reverse]
  · next hrev => simp at hrev
  · next hother _ => simp at hother

theorem beforeLineEnd?_eq_none {cs : List Char} (hfeed : '\n' ∉ cs) (hreturn : '\r' ∉ cs) :
    beforeLineEnd? cs = none := by
  unfold beforeLineEnd?
  split
  · next hrev => exact absurd (List.mem_reverse.mp (by simp [hrev])) hfeed
  · next hrev => exact absurd (List.mem_reverse.mp (by simp [hrev])) hfeed
  · next hrev => exact absurd (List.mem_reverse.mp (by simp [hrev])) hreturn
  · rfl

/-! ## Lines of symbols -/

theorem flatten_splitLines (cs : List Char) : (splitLines cs).flatten = cs := by
  fun_induction splitLines cs with
  | case1 cs => simp
  | case2 cs _ ih => rw [List.flatten_cons, ih, List.take_append_drop]

/-- Only no symbols at all make an empty line. -/
theorem eq_nil_of_getLast?_splitLines {cs : List Char}
    (h : (splitLines cs).getLast? = some []) : cs = [] := by
  fun_induction splitLines cs with
  | case1 cs => simpa using h
  | case2 cs hlong ih =>
    have hne : splitLines (cs.drop lineWidth) ≠ [] := by
      rw [splitLines]
      split <;> simp
    rw [List.getLast?_cons, List.getLast?_eq_some_getLast hne, Option.getD_some,
      ← List.getLast?_eq_some_getLast hne] at h
    have hnil := List.drop_eq_nil_iff.mp (ih h)
    omega

theorem joinLines_splitLines (cs : List Char) : joinLines (splitLines cs) = some cs := by
  rw [joinLines, flatten_splitLines, if_neg]
  rintro ⟨hlast, hpad⟩
  rw [eq_nil_of_getLast?_splitLines hlast] at hpad
  cases hpad

/-- Lines with their ends, and the end of the last one apart. -/
theorem exists_readLines_eq {cs : List Char} (hfeed : '\n' ∉ cs) (hreturn : '\r' ∉ cs) :
    ∃ inner, ((splitLines cs).map (· ++ ['\n'])).flatten = inner ++ ['\n'] ∧ '\r' ∉ inner ∧
      readLines inner = some (splitLines cs) := by
  fun_induction splitLines cs with
  | case1 cs hshort =>
    refine ⟨cs, by simp, hreturn, ?_⟩
    rw [readLines, if_pos hshort, beforeLineEnd?_eq_none hfeed hreturn, Option.getD_none]
  | case2 cs hlong ih =>
    obtain ⟨inner, hinner, hfree, hread⟩ := ih (fun h => hfeed (List.mem_of_mem_drop h))
      (fun h => hreturn (List.mem_of_mem_drop h))
    have hwidth : (cs.take lineWidth).length = lineWidth := by
      rw [List.length_take]
      omega
    have hne : inner ≠ [] := by
      rintro rfl
      have hempty : splitLines (cs.drop lineWidth) = [[]] := by
        rw [readLines, if_pos (by simp)] at hread
        exact (Option.some.inj hread).symm
      have hflat := flatten_splitLines (cs.drop lineWidth)
      rw [hempty, List.flatten_singleton, eq_comm, List.drop_eq_nil_iff] at hflat
      omega
    refine ⟨cs.take lineWidth ++ '\n' :: inner, ?_, ?_, ?_⟩
    · rw [List.map_cons, List.flatten_cons, hinner]
      simp
    · rw [List.mem_append, List.mem_cons, not_or, not_or]
      exact ⟨fun h => hreturn (List.mem_of_mem_take h), by decide, hfree⟩
    · have hmore : ¬(cs.take lineWidth ++ '\n' :: inner).length ≤ lineWidth := by
        rw [List.length_append, hwidth, List.length_cons]
        omega
      rw [readLines, if_neg hmore]
      split
      · next hend => simp [List.drop_left' hwidth, afterLineEnd?] at hend
      · next hend =>
        rw [List.drop_left' hwidth, afterLineEnd?, Option.some.injEq] at hend
        exact absurd hend hne
      · next rest _ hend =>
        rw [List.drop_left' hwidth, afterLineEnd?, Option.some.injEq] at hend
        rw [← hend, hread, List.take_left' hwidth]
        rfl

/-! ## Whole texts -/

theorem isLineEnd_not_mem_encodePadded (bytes : List UInt8) :
    '\n' ∉ Base64.encodePadded bytes ∧ '\r' ∉ Base64.encodePadded bytes := by
  have hsymbol : ∀ n < 64, Base64.symbol n ≠ '\n' ∧ Base64.symbol n ≠ '\r' := by decide
  constructor
  · intro h
    rcases Base64.mem_encodePadded h with ⟨n, hn, heq⟩ | heq
    · exact (hsymbol n hn).1 heq
    · exact absurd heq (by decide)
  · intro h
    rcases Base64.mem_encodePadded h with ⟨n, hn, heq⟩ | heq
    · exact (hsymbol n hn).2 heq
    · exact absurd heq (by decide)

/-- What is armoured, less its last line end, holds the bytes. -/
theorem decode_of_encode {label text : List Char} {bytes : List UInt8}
    (h : encode label bytes = text ++ ['\n']) : decode label text = some bytes := by
  obtain ⟨hfeed, hreturn⟩ := isLineEnd_not_mem_encodePadded bytes
  obtain ⟨inner, hinner, hfree, hread⟩ := exists_readLines_eq hfeed hreturn
  have htext : text = (opening ++ label ++ dashes) ++
      ('\n' :: ((inner ++ ['\n']) ++ (closing ++ label ++ dashes))) := by
    rw [encode, hinner] at h
    refine List.append_cancel_right (h.symm.trans ?_)
    simp
  have hopening : opening.isPrefixOf text = true := by
    rw [List.isPrefixOf_iff_prefix, htext, List.append_assoc, List.append_assoc]
    exact List.prefix_append _ _
  rw [decode, if_pos hopening, Option.bind_eq_bind, Option.bind_some, htext]
  simp only [after?_append, afterLineEnd?, before?_append, beforeLineEnd?_append hfree, hread,
    joinLines_splitLines, Base64.decodePadded_encodePadded, Option.bind_eq_bind, Option.bind_some]

end UtxoWallet.Pem
