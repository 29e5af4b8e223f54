import Mathlib.Data.List.Induction
import Mathlib.Data.List.Nodup
import UtxoWallet.Proofs.Files.Tree
import UtxoWallet.Proofs.Wallet.Reading
import UtxoWallet.Proofs.Wallet.Record

/-! # The record file is a log -/

namespace UtxoWallet.Wallet

open Attempt Result Files Text

namespace Store

variable {s : Store} {v v' : World} {w w' : Wallet} {ws : List Wallet} {e : Error}

theorem recordFile_plain : Path.IsPlain recordFile ∧ ¬(recordFile = "." ∨ recordFile = "..") := by
  unfold Path.IsPlain
  decide

/-! ## One call -/

theorem find_isSome_iff {name : String} :
    (ws.find? (·.name == name)).isSome = true ↔ ∃ u ∈ ws, u.name = name := by
  simp [List.find?_isSome]

theorem perform_create_eq_ok :
    (s.create w).perform v = (.ok w', v') ↔
      w' = w ∧ check w = .ok () ∧
        (∃ ws, s.listed v = .ok ws ∧ ¬∃ u ∈ ws, u.name = w.name) ∧
        ∃ made files, v.files.makeDirectories v.start s.directory = .ok made ∧
          made.append v.start s.recordPath w.record = .ok files ∧ v' = { v with files } := by
  unfold create
  simp only [perform_bind_eq_ok, perform_unless_eq_ok, perform_ofExcept, perform_find,
    perform_pure, Prod.mk.injEq, mapError_eq_ok, Json.map_eq_ok]
  constructor
  · rintro ⟨_, _, ⟨hcheck, rfl⟩, _, _, ⟨⟨ws, hlist, rfl⟩, rfl⟩, hnone, _, _, hmake, _, _, happend,
      hw, rfl⟩
    obtain ⟨made, hmade, rfl⟩ := perform_makeDirectories_eq_ok.mp hmake
    obtain ⟨files, hfiles, rfl⟩ := perform_append_eq_ok.mp happend
    rw [find_isSome_iff] at hnone
    exact ⟨(Except.ok.inj hw).symm, hcheck, ⟨ws, hlist, hnone⟩, made, files, hmade, hfiles, rfl⟩
  · rintro ⟨rfl, hcheck, ⟨ws, hlist, hnone⟩, made, files, hmade, hfiles, rfl⟩
    rw [← find_isSome_iff] at hnone
    exact ⟨(), v, ⟨hcheck, rfl⟩, _, v, ⟨⟨ws, hlist, rfl⟩, rfl⟩, hnone,
      (), _, perform_makeDirectories_eq_ok.mpr ⟨made, hmade, rfl⟩,
      (), _, perform_append_eq_ok.mpr ⟨files, hfiles, rfl⟩, rfl, rfl⟩

theorem perform_create_of_check (h : check w = .error e) :
    (s.create w).perform v = (.error e, v) := by
  unfold create
  exact perform_bind_error (by rw [perform_ofExcept, h]; rfl) _

theorem perform_create_of_duplicate (h : check w = .ok ()) (hlist : s.listed v = .ok ws)
    (hdup : ∃ u ∈ ws, u.name = w.name) :
    (s.create w).perform v = (.error (.duplicateWallet w.name), v) := by
  unfold create
  rw [perform_bind_ok (by rw [perform_ofExcept, h]; rfl),
    perform_bind_ok (perform_find_of_listed hlist w.name), if_pos (find_isSome_iff.mpr hdup)]
  exact perform_bind_error (perform_throw _ _) _

/-! ## The file after a call -/

/-- Whoever adds a record behind a text finds it there. -/
theorem read_recordPath_of_create {content : ByteArray}
    (hread : v.files.read v.start s.recordPath = .ok content)
    (h : (s.create w).perform v = (.ok w', v')) :
    v'.files.read v'.start s.recordPath = .ok (content ++ w.record) := by
  obtain ⟨-, -, -, made, files, hmade, hfiles, rfl⟩ := perform_create_eq_ok.mp h
  exact Tree.read_append hfiles
    (Tree.read_of_extends (Tree.extends_makeDirectories hmade) hread)

theorem listed_of_read {text : String}
    (h : v.files.read v.start s.recordPath = .ok text.toUTF8) :
    s.listed v = ofRecords text := by
  rw [listed, h, ofRecordFile]
  simp only [fromUTF8?_toUTF8]

theorem listed_of_record (hw : check w = .ok ())
    (h : v.files.read v.start s.recordPath = .ok w.record) : s.listed v = .ok [w] := by
  rw [listed_of_read h, ofRecords_record hw]

/-- What is listed is the text of the file. -/
theorem exists_text_of_listed {content : ByteArray}
    (hread : v.files.read v.start s.recordPath = .ok content) (h : s.listed v = .ok ws) :
    ∃ text : String, content = text.toUTF8 ∧ ofRecords text = .ok ws := by
  rw [listed, hread, ofRecordFile] at h
  split at h
  · cases h
  · next text htext => exact ⟨text, (toUTF8_of_fromUTF8? htext).symm, h⟩

theorem isBase64_of_listed (h : s.listed v = .ok ws) (hw : w ∈ ws) :
    ∀ c ∈ w.address.toList, Address.isBase64 c = true := by
  rw [listed] at h
  unfold ofRecordFile at h
  split at h
  · cases h
    cases hw
  · cases h
  · split at h
    · cases h
    · exact isBase64_of_ofLines h hw

/-- Addresses in records are plain. -/
theorem plain_of_listed (h : s.listed v = .ok ws) :
    ∀ w ∈ ws, ∀ c ∈ w.address.toList, c.toNat < 128 :=
  fun _ hw c hc => Address.lt_of_isBase64 (isBase64_of_listed h hw c hc)

theorem listed_of_create {text : String}
    (hread : v.files.read v.start s.recordPath = .ok text.toUTF8)
    (h : (s.create w).perform v = (.ok w', v')) :
    s.listed v' = ofRecords (text ++ (w.line ++ "\n")) := by
  obtain ⟨rfl, -⟩ := perform_create_eq_ok.mp h
  exact listed_of_read (read_recordPath_of_create hread h)

theorem find?_append_singleton (hnew : ¬∃ u ∈ ws, u.name = w.name) (name : String) :
    (ws ++ [w]).find? (·.name == name) =
      if name = w.name then some w else ws.find? (·.name == name) := by
  rw [List.find?_append]
  split
  · next heq =>
    have hnone : ws.find? (·.name == w.name) = none := by
      rw [← Option.not_isSome_iff_eq_none, find_isSome_iff]
      exact hnew
    simp [heq, hnone]
  · next hne => simp [Ne.symm hne]

theorem listed_of_create_terminated {text : String}
    (hread : v.files.read v.start s.recordPath = .ok text.toUTF8) (htext : ofRecords text = .ok ws)
    (hterminated : Terminated text.toList) (h : (s.create w).perform v = (.ok w', v')) :
    s.listed v' = .ok (ws ++ [w]) := by
  obtain ⟨-, hcheck, -⟩ := perform_create_eq_ok.mp h
  rw [listed_of_create hread h, ofRecords_append hterminated hcheck, htext]
  rfl

theorem listed_of_create_unfinished {text : String}
    (hread : v.files.read v.start s.recordPath = .ok text.toUTF8) (htext : ofRecords text = .ok ws)
    (hunfinished : ¬Terminated text.toList) (h : (s.create w).perform v = (.ok w', v')) :
    ∃ line, s.listed v' = .error (.malformedRecord ws.length line) := by
  obtain ⟨-, hcheck, -⟩ := perform_create_eq_ok.mp h
  obtain ⟨last, hlast⟩ := ofRecords_append_of_not_terminated hunfinished htext hcheck
  exact ⟨_, (listed_of_create hread h).trans hlast⟩

/-- A record that is added to a readable file leaves it readable exactly when nothing stands behind
the last line end. -/
theorem list_after_create {content : ByteArray}
    (hread : v.files.read v.start s.recordPath = .ok content)
    (hlist : s.list.perform v = (.ok ws, v)) (hcreate : (s.create w).perform v = (.ok w', v')) :
    w' = w ∧ ∃ text : String, content = text.toUTF8 ∧
      (s.list.perform v' = (.ok (ws ++ [w]), v') ↔ Terminated text.toList) ∧
      (Terminated text.toList →
        (s.find w.name).perform v' = (.ok (some w), v') ∧
        ∀ name, name ≠ w.name → ((s.find name).perform v').1 = ((s.find name).perform v).1) ∧
      (¬Terminated text.toList →
        ∃ line, s.list.perform v' = (.error (.malformedRecord ws.length line), v')) := by
  rw [perform_list, Prod.mk.injEq, and_iff_left rfl] at hlist
  obtain ⟨rfl, -, ⟨ws', hws', hnew⟩, -⟩ := perform_create_eq_ok.mp hcreate
  obtain rfl : ws = ws' := Except.ok.inj (hlist.symm.trans hws')
  obtain ⟨text, rfl, htext⟩ := exists_text_of_listed hread hlist
  refine ⟨rfl, text, rfl, ⟨?_, ?_⟩, ?_, ?_⟩
  · intro hlisted
    by_contra hunfinished
    obtain ⟨line, hline⟩ := listed_of_create_unfinished hread htext hunfinished hcreate
    rw [perform_list, hline] at hlisted
    cases hlisted
  · intro hterminated
    rw [perform_list, listed_of_create_terminated hread htext hterminated hcreate]
  · intro hterminated
    have hlisted := listed_of_create_terminated hread htext hterminated hcreate
    refine ⟨?_, ?_⟩
    · rw [perform_find_of_listed hlisted, find?_append_singleton hnew, if_pos rfl]
    · intro name hne
      rw [perform_find_of_listed hlisted, find?_append_singleton hnew, if_neg hne,
        perform_find_of_listed hlist]
  · intro hunfinished
    obtain ⟨line, hline⟩ := listed_of_create_unfinished hread htext hunfinished hcreate
    exact ⟨line, by rw [perform_list, hline]⟩

/-- A world with this text in the record file at its root. -/
def fileWorld (text : String) : World :=
  .atRoot ⟨[([recordFile], .file text.toUTF8 usualMode)]⟩ []

theorem list_after_create_finished :
    ((⟨""⟩ : Store).list.perform
      (((⟨""⟩ : Store).create ⟨"bob", "k2", "QUJD"⟩).perform (fileWorld "alice k QUJD\n")).2).1 =
      .ok [⟨"alice", "k", "QUJD"⟩, ⟨"bob", "k2", "QUJD"⟩] := by
  have hread : (fileWorld "alice k QUJD\n").files.read [] (⟨""⟩ : Store).recordPath =
      .ok "alice k QUJD\n".toUTF8 := by decide +kernel
  have hlist : ((⟨""⟩ : Store).list.perform (fileWorld "alice k QUJD\n")).1 =
      .ok [⟨"alice", "k", "QUJD"⟩] := by decide +kernel
  have hcreate : (((⟨""⟩ : Store).create ⟨"bob", "k2", "QUJD"⟩).perform
      (fileWorld "alice k QUJD\n")).1 = .ok ⟨"bob", "k2", "QUJD"⟩ := by decide +kernel
  obtain ⟨-, text, htext, hiff, -⟩ :=
    list_after_create hread (Prod.ext hlist rfl) (Prod.ext hcreate rfl)
  have hterminated : Terminated text.toList := by
    rw [← String.toByteArray_inj.mp htext]
    decide +kernel
  rw [hiff.mpr hterminated]
  rfl

/-- An unfinished last line and the record behind it are no record. -/
theorem list_after_create_unfinished :
    ((⟨""⟩ : Store).list.perform (fileWorld "alice k QUJD")).1 = .ok [⟨"alice", "k", "QUJD"⟩] ∧
    (((⟨""⟩ : Store).create ⟨"bob", "k2", "QUJD"⟩).perform (fileWorld "alice k QUJD")).1 =
      .ok ⟨"bob", "k2", "QUJD"⟩ ∧
    ((⟨""⟩ : Store).list.perform
      (((⟨""⟩ : Store).create ⟨"bob", "k2", "QUJD"⟩).perform (fileWorld "alice k QUJD")).2).1 =
      .error (.malformedRecord 1 "alice k QUJDbob k2 QUJD") := by
  decide +kernel

end Store

end UtxoWallet.Wallet
