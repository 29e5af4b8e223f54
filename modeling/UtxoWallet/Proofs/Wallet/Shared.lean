import UtxoWallet.Proofs.Files.Change
import UtxoWallet.Proofs.Wallet.InStep

/-! # One directory for many calls

Whoever has written a key file holds its name. While that is so, nobody else can write it.
-/

namespace UtxoWallet.Wallet

open Attempt Result Files Curve Text

variable {v v' : World} {w : Wallet} {ws : List Wallet}

/-! ## Records -/

namespace Store

variable {s : Store} {files : Tree}

/-- No record file is found, also when its directory is made first, as often as one likes. That is
more to ask only where a path leads elsewhere once it is made, such as `x/../home`. -/
def Absent (s : Store) (v : World) : Prop :=
  ∀ n, ((·.withDirectories v.start s.directory)^[n] v.files).read v.start s.recordPath =
    .error .notFound

/-- The record file holds these wallets and nothing behind its last line end, or there is none. -/
inductive Records (s : Store) (v : World) : List Wallet → Prop
  | absent (h : s.Absent v) : Records s v []
  | written {text : String} {ws : List Wallet}
      (hread : v.files.read v.start s.recordPath = .ok text.toUTF8)
      (htext : ofRecords text = .ok ws) (hend : Terminated text.toList) : Records s v ws

theorem Absent.read (h : s.Absent v) : v.files.read v.start s.recordPath = .error .notFound := h 0

/-- Where the directory is there, a look is enough. -/
theorem absent_of_read (hthere : s.directory = "" ∨ v.files.hasDirectory v.start s.directory = true)
    (hread : v.files.read v.start s.recordPath = .error .notFound) : s.Absent v := by
  intro n
  rw [Function.iterate_fixed (Tree.withDirectories_of_hasDirectory hthere), hread]

theorem Vacant.absent (h : s.Vacant v) : s.Absent v := by
  obtain ⟨made, hmade, hread⟩ := h.creatable
  intro n
  cases n with
  | zero => exact h.missing
  | succ n =>
    rw [Function.iterate_succ_apply, Tree.withDirectories_of_ok hmade, Function.iterate_fixed, hread]
    exact Tree.withDirectories_of_hasDirectory (Tree.hasDirectory_makeDirectories hmade)

theorem Records.listed (h : s.Records v ws) : s.listed v = .ok ws := by
  cases h with
  | absent h =>
    rw [Store.listed, h.read]
    rfl
  | written hread htext => rw [listed_of_read hread, htext]

theorem Records.withDirectories (h : s.Records v ws) :
    s.Records { v with files := v.files.withDirectories v.start s.directory } ws := by
  have hadds := Tree.addsDirectories_withDirectories v.files v.start s.directory
  cases h with
  | absent h => exact .absent fun n => h (n + 1)
  | written hread htext hend => exact .written (Tree.read_of_extends hadds.extends hread) htext hend

/-- Where the file would be, once the directory is there. -/
theorem Records.exists_target (h : s.Records v ws)
    (hthere : s.directory = "" ∨ v.files.hasDirectory v.start s.directory = true) :
    ∃ q, v.files.target v.start s.recordPath = .ok (.entry q false) := by
  cases h with
  | absent h =>
    have hne := Tree.target_join_ne_notFound recordFile_plain.1 recordFile_plain.2 hthere
    rcases Tree.read_eq_notFound h.read with hnone | ⟨q, slash, haim, -⟩
    · exact absurd hnone hne
    · obtain ⟨-, place, -, heq⟩ :=
        (Tree.target_join_eq_ok recordFile_plain.1 recordFile_plain.2).mp haim
      rw [heq] at haim
      exact ⟨_, haim⟩
  | written hread =>
    obtain ⟨q, _, haim, -⟩ := Tree.read_eq_ok.mp hread
    exact ⟨q, haim⟩

theorem Records.of_read_eq (h : s.Records v ws)
    (hthere : s.directory = "" ∨ files.hasDirectory v.start s.directory = true)
    (hread : files.read v.start s.recordPath = v.files.read v.start s.recordPath) :
    s.Records { v with files } ws := by
  cases h with
  | absent h => exact .absent (absent_of_read hthere (hread.trans h.read))
  | written htext hrecords hend => exact .written (hread.trans htext) hrecords hend

theorem Records.append (h : s.Records v ws) (hcheck : check w = .ok ())
    (happend : v.files.append v.start s.recordPath w.record = .ok files) :
    s.Records { v with files } (ws ++ [w]) := by
  -- A missing file is added to as an empty one would be.
  have hbehind : ∃ text : String, files.read v.start s.recordPath =
      .ok (text ++ (w.line ++ "\n")).toUTF8 ∧ ofRecords text = .ok ws ∧ Terminated text.toList := by
    cases h with
    | absent h =>
      refine ⟨"", ?_, by simp [ofRecords, lines, ofLines], .inl rfl⟩
      rw [String.empty_append]
      exact Tree.read_append_of_missing happend h.read
    | @written text _ hread htext hend => exact ⟨text, Tree.read_append happend hread, htext, hend⟩
  obtain ⟨text, hread, htext, hend⟩ := hbehind
  refine .written hread ?_ (.inr (by simp [String.toList_append, ← List.append_assoc]))
  rw [ofRecords_append hend hcheck, htext]
  rfl

end Store

/-! ## Key files -/

/-- Calls that make wallets, each with a name and the secret that is drawn for it. -/
structure Calls (ι : Type) where
  name : ι → String
  secret : ι → SecretKey

def Calls.wallet {ι : Type} (c : Calls ι) (i : ι) : Wallet := ofSecret (c.name i) (c.secret i)

variable {ι : Type} {c : Calls ι} {i j : ι} {k : Keystore} {v₀ : World} {before : List Wallet}
  {holders : ι → Prop} {added : List ι} {files : Tree} {place q : Location}

/-- At this place is the key file of a call, and nothing was there at the start. -/
structure Calls.Holds (c : Calls ι) (i : ι) (k : Keystore) (v₀ v : World) (q : Location) : Prop where
  aim : v.files.target v.start (k.store.keyPath (c.wallet i)) = .ok (.entry q false)
  key : ∃ stored mode, v.files.find q = .ok (some (.file stored mode)) ∧
    k.readKey (c.wallet i) stored = .ok (c.secret i)
  new : v₀.files.get? q = none

theorem Calls.Holds.perform_loadKey (h : c.Holds i k v₀ v q) :
    (k.loadKey (c.wallet i)).perform v = (.ok (c.secret i), v) := by
  obtain ⟨stored, mode, hfind, hkey⟩ := h.key
  rw [Keystore.perform_loadKey, Tree.read_eq_ok.mpr ⟨q, mode, h.aim, hfind⟩, mapError_ok, ok_bind,
    hkey]

theorem Calls.Holds.of_same (h : c.Holds i k v₀ v q) (hkept : Tree.KeepsDirectories v.files files)
    (hsame : files.get? q = v.files.get? q) : c.Holds i k v₀ { v with files } q := by
  obtain ⟨stored, mode, hfind, hkey⟩ := h.key
  refine ⟨Tree.target_of_keepsDirectories hkept h.aim, ⟨stored, mode, ?_, hkey⟩, h.new⟩
  rw [Tree.find_eq_ok] at *
  exact ⟨hfind.1, hsame.trans hfind.2⟩

theorem Calls.Holds.get?_eq (h : c.Holds i k v₀ v q) :
    ∃ stored mode, v.files.get? q = some (.file stored mode) := by
  obtain ⟨stored, mode, hfind, -⟩ := h.key
  exact ⟨stored, mode, (Tree.find_eq_ok.mp hfind).2⟩

theorem keyPlace_ne_recordPlace (hname : isName (c.name i) = true)
    (hkey : v.files.target v.start (k.store.keyPath (c.wallet i)) = .ok (.entry place false))
    (hrecord : v.files.target v.start k.store.recordPath = .ok (.entry q false)) : place ≠ q := by
  rintro rfl
  exact keyRef_ne_recordFile _
    (Tree.name_eq_of_target_join (isPlain_keyRef hname) Store.recordFile_plain hkey hrecord)

theorem name_eq_of_keyPlace (hi : isName (c.name i) = true) (hj : isName (c.name j) = true)
    (hplace : v.files.target v.start (k.store.keyPath (c.wallet i)) = .ok (.entry q false))
    (hplace' : v.files.target v.start (k.store.keyPath (c.wallet j)) = .ok (.entry q false)) :
    c.name i = c.name j :=
  (String.append_right_inj _).mp
    (Tree.name_eq_of_target_join (isPlain_keyRef hi) (isPlain_keyRef hj) hplace hplace')

/-! ## The directory -/

/-- Of the files in a world, those that were not there at the start are the record file and the key
files of the calls that hold one. The records are those of the start and those that were added. -/
structure Shared (c : Calls ι) (k : Keystore) (v₀ : World) (before : List Wallet)
    (holders : ι → Prop) (added : List ι) (v : World) : Prop where
  start : v.start = v₀.start
  records : k.store.Records v (before ++ added.map c.wallet)
  named : ∀ i, holders i → isName (c.name i) = true
  there : ∀ i, holders i →
    k.store.directory = "" ∨ v.files.hasDirectory v.start k.store.directory = true
  holds : ∀ i, holders i → ∃ q, c.Holds i k v₀ v q
  alone : ∀ i j, holders i → holders j → c.name i = c.name j → i = j
  kept : ∀ q e, v₀.files.get? q = some e → v.files.get? q = some e ∨
    v.files.target v.start k.store.recordPath = .ok (.entry q false)
  only : ∀ q e, v.files.get? q = some e → v₀.files.get? q = some e ∨ e = .directory ∨
    v.files.target v.start k.store.recordPath = .ok (.entry q false) ∨
    ∃ i, holders i ∧ c.Holds i k v₀ v q

namespace Shared

theorem congr {holders' : ι → Prop} (h : Shared c k v₀ before holders added v)
    (hiff : ∀ i, holders i ↔ holders' i) : Shared c k v₀ before holders' added v := by
  rwa [← funext fun i => propext (hiff i)]

theorem of_records (h : k.store.Records v₀ before) (c : Calls ι) :
    Shared c k v₀ before (fun _ => False) [] v₀ := by
  refine ⟨rfl, ?_, nofun, nofun, nofun, nofun, fun _ _ hq => .inl hq, fun _ _ hq => .inl hq⟩
  rwa [List.map_nil, List.append_nil]

theorem withDirectories (h : Shared c k v₀ before holders added v) :
    Shared c k v₀ before holders added
      { v with files := v.files.withDirectories v.start k.store.directory } := by
  have hadds := Tree.addsDirectories_withDirectories v.files v.start k.store.directory
  have hkept := hadds.extends.keepsDirectories
  have hholds {i : ι} {q : Location} (hi : c.Holds i k v₀ v q) :
      c.Holds i k v₀ { v with files := v.files.withDirectories v.start k.store.directory } q := by
    obtain ⟨stored, mode, hget⟩ := hi.get?_eq
    exact hi.of_same hkept ((hadds.extends _ _ hget).trans hget.symm)
  refine ⟨h.start, h.records.withDirectories, h.named, ?_, ?_, h.alone, ?_, ?_⟩
  · intro i hi
    exact (h.there i hi).imp_right (Tree.hasDirectory_of_keepsDirectories hkept)
  · intro i hi
    obtain ⟨q, hq⟩ := h.holds i hi
    exact ⟨q, hholds hq⟩
  · intro q e he
    exact (h.kept q e he).imp (hadds.extends q e) (Tree.target_of_keepsDirectories hkept)
  · intro q e he
    rcases hadds q with hsame | ⟨-, hdirectory, -⟩
    · rcases h.only q e (hsame ▸ he) with hold | hdirectory | hrecord | ⟨i, hi, hq⟩
      · exact .inl hold
      · exact .inr (.inl hdirectory)
      · exact .inr (.inr (.inl (Tree.target_of_keepsDirectories hkept hrecord)))
      · exact .inr (.inr (.inr ⟨i, hi, hholds hq⟩))
    · exact .inr (.inl (Option.some.inj (he.symm.trans hdirectory)))

/-! What a change of one file does to the others. -/

theorem kept_of_change (h : Shared c k v₀ before holders added v)
    (hchange : Tree.ChangesOnly place v.files files)
    (hplace : v₀.files.get? place = none ∨
      v.files.target v.start k.store.recordPath = .ok (.entry place false))
    (q : Location) (e : Entry) (he : v₀.files.get? q = some e) :
    files.get? q = some e ∨ files.target v.start k.store.recordPath = .ok (.entry q false) := by
  have hkept := hchange.keepsDirectories
  by_cases hq : q = place
  · subst hq
    rcases hplace with hnone | hrecord
    · rw [hnone] at he
      cases he
    · exact .inr (Tree.target_of_keepsDirectories hkept hrecord)
  · rw [hchange.get?_eq q hq]
    exact (h.kept q e he).imp_right (Tree.target_of_keepsDirectories hkept)

theorem only_of_change (h : Shared c k v₀ before holders added v) {holders' : ι → Prop}
    (hchange : Tree.ChangesOnly place v.files files)
    (hplace : ∀ e, files.get? place = some e →
      files.target v.start k.store.recordPath = .ok (.entry place false) ∨
        ∃ i, holders' i ∧ c.Holds i k v₀ { v with files } place)
    (hholders : ∀ i q, q ≠ place → holders i → c.Holds i k v₀ v q → holders' i)
    (q : Location) (e : Entry) (he : files.get? q = some e) :
    v₀.files.get? q = some e ∨ e = .directory ∨
      files.target v.start k.store.recordPath = .ok (.entry q false) ∨
      ∃ i, holders' i ∧ c.Holds i k v₀ { v with files } q := by
  have hkept := hchange.keepsDirectories
  by_cases hq : q = place
  · subst hq
    exact .inr (.inr (hplace e he))
  · rw [hchange.get?_eq q hq] at he
    rcases h.only q e he with hold | hdirectory | hrecord | ⟨i, hi, hi'⟩
    · exact .inl hold
    · exact .inr (.inl hdirectory)
    · exact .inr (.inr (.inl (Tree.target_of_keepsDirectories hkept hrecord)))
    · exact .inr (.inr (.inr ⟨i, hholders i q hq hi hi', hi'.of_same hkept (hchange.get?_eq q hq)⟩))

theorem get?_start_eq_none (h : Shared c k v₀ before holders added v)
    (hname : isName (c.name i) = true)
    (haim : v.files.target v.start (k.store.keyPath (c.wallet i)) = .ok (.entry q false))
    (hnone : v.files.get? q = none) : v₀.files.get? q = none := by
  rw [Option.eq_none_iff_forall_ne_some]
  intro e he
  rcases h.kept q e he with hget | hrecord
  · rw [hnone] at hget
    cases hget
  · exact keyPlace_ne_recordPlace hname haim hrecord rfl

/-- Whoever writes a new key file is the only one that holds its name. -/
theorem create (h : Shared c k v₀ before holders added v) (hname : isName (c.name i) = true)
    (hthere : k.store.directory = "" ∨ v.files.hasDirectory v.start k.store.directory = true)
    {stored : ByteArray} (hkey : k.readKey (c.wallet i) stored = .ok (c.secret i))
    (hfiles : v.files.create v.start (k.store.keyPath (c.wallet i)) keyFileMode stored = .ok files) :
    Shared c k v₀ before (fun j => j = i ∨ holders j) added { v with files } := by
  obtain ⟨place, haim, hnone, hfind, hchange⟩ := Tree.changesOnly_create hfiles
  have hkept := hchange.keepsDirectories
  have hthere' := hthere.imp_right (Tree.hasDirectory_of_keepsDirectories hkept)
  obtain ⟨r, hrecord⟩ := h.records.exists_target hthere
  have hread := hchange.read_eq hrecord (keyPlace_ne_recordPlace hname haim hrecord).symm
  have hnew := h.get?_start_eq_none hname haim hnone
  have hown : c.Holds i k v₀ { v with files } place :=
    ⟨Tree.target_of_keepsDirectories hkept haim, ⟨stored, _, hfind, hkey⟩, hnew⟩
  have hother {j : ι} {q : Location} (hj : c.Holds j k v₀ v q) : q ≠ place := by
    rintro rfl
    obtain ⟨_, _, hget⟩ := hj.get?_eq
    rw [hnone] at hget
    cases hget
  -- A holder of the same name would have its file where none was found.
  have hfree {j : ι} (hj : holders j) (hsame : c.name j = c.name i) : False := by
    obtain ⟨q, hq⟩ := h.holds j hj
    have haim' := hq.aim
    rw [Store.keyPath, Calls.wallet, keyRef_ofSecret, hsame] at haim'
    exact hother hq (Tree.Target.entry.inj (Except.ok.inj (haim'.symm.trans haim))).1
  refine ⟨h.start, h.records.of_read_eq hthere' hread, ?_, fun _ _ => hthere', ?_, ?_,
    h.kept_of_change hchange (.inl hnew),
    h.only_of_change hchange (fun _ _ => .inr ⟨i, .inl rfl, hown⟩) fun _ _ _ hj _ => .inr hj⟩
  · rintro j (rfl | hj)
    · exact hname
    · exact h.named j hj
  · rintro j (rfl | hj)
    · exact ⟨place, hown⟩
    · obtain ⟨q, hq⟩ := h.holds j hj
      exact ⟨q, hq.of_same hkept (hchange.get?_eq q (hother hq))⟩
  · rintro j j' (rfl | hj) (rfl | hj') hsame
    · rfl
    · exact (hfree hj' hsame.symm).elim
    · exact (hfree hj hsame).elim
    · exact h.alone j j' hj hj' hsame

theorem append (h : Shared c k v₀ before holders added v) (hi : holders i)
    (hfiles : v.files.append v.start k.store.recordPath (c.wallet i).record = .ok files) :
    Shared c k v₀ before holders (added ++ [i]) { v with files } := by
  obtain ⟨place, haim, hchange⟩ := Tree.changesOnly_append hfiles
  have hkept := hchange.keepsDirectories
  have hrecords := h.records.append (check_ofSecret (h.named i hi) (c.secret i)) hfiles
  refine ⟨h.start, ?_, h.named, ?_, ?_, h.alone, h.kept_of_change hchange (.inr haim),
    h.only_of_change hchange (fun _ _ => .inl (Tree.target_of_keepsDirectories hkept haim))
      fun _ _ _ hj _ => hj⟩
  · rwa [List.map_append, ← List.append_assoc]
  · intro j hj
    exact (h.there j hj).imp_right (Tree.hasDirectory_of_keepsDirectories hkept)
  · intro j hj
    obtain ⟨q, hq⟩ := h.holds j hj
    have hne := keyPlace_ne_recordPlace (h.named j hj) hq.aim haim
    exact ⟨q, hq.of_same hkept (hchange.get?_eq q hne)⟩

theorem exists_remove (h : Shared c k v₀ before holders added v) (hi : holders i) :
    ∃ place files, c.Holds i k v₀ v place ∧
      v.file (.remove (k.store.keyPath (c.wallet i))) = (.ok (), { v with files }) ∧
      files.get? place = none ∧ Tree.ChangesOnly place v.files files := by
  obtain ⟨place, hown⟩ := h.holds i hi
  obtain ⟨stored, mode, hfind, -⟩ := hown.key
  obtain ⟨hremoved, hgone, hchange⟩ := Tree.changesOnly_remove hown.aim hfind
  refine ⟨place, _, hown, ?_, hgone, hchange⟩
  rw [World.file, hremoved]
  rfl

/-- A holder that removes its key file holds nothing any more. -/
theorem remove (h : Shared c k v₀ before holders added v) (hi : holders i) :
    Shared c k v₀ before (fun j => holders j ∧ j ≠ i) added
      (v.file (.remove (k.store.keyPath (c.wallet i)))).2 := by
  obtain ⟨place, files, hown, hremoved, hgone, hchange⟩ := h.exists_remove hi
  have hkept := hchange.keepsDirectories
  have hthere := h.there i hi
  have hthere' := hthere.imp_right (Tree.hasDirectory_of_keepsDirectories hkept)
  obtain ⟨r, hrecord⟩ := h.records.exists_target hthere
  have hread := hchange.read_eq hrecord (keyPlace_ne_recordPlace (h.named i hi) hown.aim hrecord).symm
  have hleft (j : ι) (q : Location) (hq : q ≠ place) (hj : holders j) (hj' : c.Holds j k v₀ v q) :
      holders j ∧ j ≠ i := by
    refine ⟨hj, ?_⟩
    rintro rfl
    exact hq (Tree.Target.entry.inj (Except.ok.inj (hj'.aim.symm.trans hown.aim))).1
  rw [hremoved]
  refine ⟨h.start, h.records.of_read_eq hthere' hread, fun j hj => h.named j hj.1,
    fun _ _ => hthere', ?_, fun j j' hj hj' => h.alone j j' hj.1 hj'.1,
    h.kept_of_change hchange (.inl hown.new),
    h.only_of_change hchange (fun e he => absurd (he.symm.trans hgone) nofun) hleft⟩
  rintro j ⟨hj, hne⟩
  obtain ⟨q, hq⟩ := h.holds j hj
  refine ⟨q, hq.of_same hkept (hchange.get?_eq q ?_)⟩
  rintro rfl
  exact hne (h.alone j i hj hi (name_eq_of_keyPlace (h.named j hj) (h.named i hi) hq.aim hown.aim))

end Shared

end UtxoWallet.Wallet
