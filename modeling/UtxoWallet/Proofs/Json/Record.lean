import UtxoWallet.Json.Record
import UtxoWallet.Proofs.Json.Shape

/-! # Records, member by member -/

namespace UtxoWallet.Json

variable {δ α : Type} {members : List (Member δ)} {d d' : δ}

/-! ## One member -/

theorem read_nextMember_eq_ok {text rest : List Char} :
    (Reader.nextMember members d).read text = .ok (d', rest) ↔
      ∃ cs, text.dropWhile Reader.isBlank = '"' :: cs ∧
        (Reader.member members d).read cs = .ok (d', rest) := by
  simp only [Reader.nextMember, Reader.read_bind, Reader.read_blanks, Result.ok_bind,
    Result.bind_eq_ok]
  constructor
  · rintro ⟨⟨_, cs⟩, hquote, hmember⟩
    exact ⟨cs, Reader.read_expect_eq_ok.mp hquote, hmember⟩
  · rintro ⟨cs, hquote, hmember⟩
    exact ⟨((), cs), Reader.read_expect_eq_ok.mpr hquote, hmember⟩

/-! ## All members -/

section

variable {text cs : List Char}

theorem membersRest_of_close (h : text.dropWhile Reader.isBlank = '\x7d' :: cs) :
    membersRest members d text = .ok (d, cs) := by
  rw [membersRest]
  split
  · next hnil => simp [h] at hnil
  · next c after hcons =>
    obtain ⟨rfl, rfl⟩ := List.cons.inj (hcons.symm.trans h)
    rw [if_pos rfl]

theorem membersRest_of_comma (h : text.dropWhile Reader.isBlank = ',' :: cs) :
    membersRest members d text =
      (Reader.nextMember members d).read cs >>= fun p => membersRest members p.1 p.2 := by
  rw [membersRest]
  split
  · next hnil => simp [h] at hnil
  · next c after hcons =>
    obtain ⟨rfl, rfl⟩ := List.cons.inj (hcons.symm.trans h)
    rw [if_neg (by decide), if_pos rfl]
    split <;> next hread => rw [hread]; rfl

end

/-! ## Whole records -/

section

variable {f : Format δ α}

theorem read_object_of_close {text cs : List Char}
    (h : text.dropWhile Reader.isBlank = '\x7d' :: cs) :
    (Reader.object f).read text = (Reader.finished f f.draft).read cs := by
  simp [Reader.object, h, Reader.read_accept]

theorem read_object_of_first {text cs : List Char} {c : Char}
    (h : text.dropWhile Reader.isBlank = c :: cs) (hc : c ≠ '\x7d') :
    (Reader.object f).read text = (Reader.nextMember f.members f.draft).read (c :: cs) >>= fun p =>
      membersRest f.members p.1 p.2 >>= fun q => (Reader.finished f q.1).read q.2 := by
  have hnone : ∀ d ∈ (c :: cs).head?, d ∉ ['\x7d'] := by
    rintro d hd
    cases hd
    simpa using hc
  simp only [Reader.object, Reader.read_bind, Reader.read_blanks, Result.ok_bind, h,
    Reader.read_accept_none hnone]
  rfl

theorem read_values_of_close {ms : List (Member δ)} {isFirst : Bool} {text cs : List Char}
    (h : text.dropWhile Reader.isBlank = ']' :: cs) :
    (Reader.values f d isFirst ms).read text = (Reader.finished f d).read cs := by
  cases ms with
  | nil => simp [Reader.values, h]
  | cons m ms => simp [Reader.values, h, Reader.read_accept]

theorem read_values_of_first {m : Member δ} {ms : List (Member δ)} {text cs : List Char} {c : Char}
    (h : text.dropWhile Reader.isBlank = c :: cs) (hc : c ≠ ']') :
    (Reader.values f d true (m :: ms)).read text =
      (m.value d).read (c :: cs) >>= fun p => (Reader.values f p.1 false ms).read p.2 := by
  have hnone : ∀ d ∈ (c :: cs).head?, d ∉ [']'] := by
    rintro d hd
    cases hd
    simpa using hc
  simp [Reader.values, h, Reader.read_accept_none hnone]

theorem read_values_of_comma {m : Member δ} {ms : List (Member δ)} {text cs : List Char}
    (h : text.dropWhile Reader.isBlank = ',' :: cs) :
    (Reader.values f d false (m :: ms)).read text =
      (m.value d).read cs >>= fun p => (Reader.values f p.1 false ms).read p.2 := by
  have hnone : ∀ d ∈ (',' :: cs).head?, d ∉ [']'] := by simp
  simp [Reader.values, h, Reader.read_accept_none hnone]

theorem read_values_nil_ne_ok {isFirst : Bool} {text cs : List Char} {c : Char}
    {p : α × List Char} (h : text.dropWhile Reader.isBlank = c :: cs) (hc : c ≠ ']') :
    (Reader.values f d isFirst []).read text ≠ .ok p := by
  simp [Reader.values, h, Reader.expect, hc]

theorem read_finished_eq_ok {a : α} {text rest : List Char} :
    (Reader.finished f d).read text = .ok (a, rest) ↔ rest = text ∧ f.finish d = some a := by
  rw [Reader.finished]
  cases h : f.finish d with
  | none => simp
  | some b => simp [and_comm, eq_comm]

end

end UtxoWallet.Json
