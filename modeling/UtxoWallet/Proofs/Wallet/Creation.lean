import UtxoWallet.Proofs.Files.Directory
import UtxoWallet.Proofs.Wallet.Store
import UtxoWallet.Wallet.Keystore

/-! # What making a wallet changes -/

namespace UtxoWallet.Wallet

open Attempt Result Files Curve

variable {v v' : World} {w w' : Wallet} {e : Error} {name keyPath : String} {secret : SecretKey}

/-- The wallet that a name and a secret make. -/
def ofSecret (name : String) (secret : SecretKey) : Wallet :=
  ⟨name, keyFileStart ++ name, Key.address secret.point⟩

@[simp] theorem keyRef_ofSecret : (ofSecret name secret).keyRef = keyFileStart ++ name := rfl

/-! ## Names of key files -/

theorem isPlain_keyRef (h : isName name = true) :
    Path.IsPlain (keyFileStart ++ name) ∧
      ¬(keyFileStart ++ name = "." ∨ keyFileStart ++ name = "..") := by
  have hstart : '/' ∉ keyFileStart.toList := by decide +kernel
  have hletters : '/' ∉ name.toList := by
    simp only [isName, Bool.and_eq_true, List.all_eq_true] at h
    intro hslash
    exact absurd (h.2 _ hslash) (by decide)
  have hhead : (keyFileStart ++ name).toList.head? = some 'i' := by
    rw [String.toList_append]
    rfl
  refine ⟨⟨?_, ?_⟩, ?_⟩
  · intro hempty
    rw [hempty] at hhead
    cases hhead
  · rw [String.toList_append, List.mem_append]
    exact not_or.mpr ⟨hstart, hletters⟩
  · rintro (hdot | hdots)
    · rw [hdot] at hhead
      cases hhead
    · rw [hdots] at hhead
      cases hhead

theorem keyRef_ne_recordFile (name : String) : keyFileStart ++ name ≠ recordFile := by
  intro h
  have hhead := congrArg (fun s => s.toList.head?) h
  rw [String.toList_append] at hhead
  cases hhead

/-! ## Protectors -/

/-- A protector that turns one form of a key into the other and does nothing else. -/
def Protector.IsQuiet (p : Protector) : Prop := ∀ pem v, ((p.protect pem).perform v).2 = v

theorem Protector.isQuiet_plain : Protector.plain.IsQuiet := fun _ _ => rfl

theorem Protector.IsQuiet.eq_of_perform {p : Protector} (h : p.IsQuiet) {pem : String}
    {result : Except Error ByteArray} (hprotect : (p.protect pem).perform v = (result, v')) :
    v' = v := by
  rw [← h pem v, hprotect]

/-! ## Records that cannot be added -/

/-- A new wallet may have this name. -/
def Store.IsFree (s : Store) (v : World) (name : String) : Prop :=
  isName name = true ∧ ∃ ws, s.listed v = .ok ws ∧ ¬∃ u ∈ ws, u.name = name

theorem Store.isFree_of_find {s : Store} {found : Option Wallet} (hname : isName name = true)
    (hfind : (s.listed v).map (·.find? (·.name == name)) = .ok found) (hnone : ¬found.isSome) :
    s.IsFree v name := by
  obtain ⟨ws, hws, rfl⟩ := Json.map_eq_ok.mp hfind
  rw [find_isSome_iff] at hnone
  exact ⟨hname, ws, hws, hnone⟩

/-- Nothing came of a wallet with this name. All that is new is directories on the way to the wallets,
and these only if their directory was missing and the name was free. -/
structure Untouched (s : Store) (name : String) (v v' : World) : Prop where
  left : v' = v ∨
    s.IsFree v name ∧ v' = { v with files := v.files.withDirectories v.start s.directory }
  adds : Tree.AddsDirectories v.start (s.directory :: Path.ancestors s.directory) v.files v'.files
  kept : ∀ path content, v.files.read v.start path = .ok content →
    v'.files.read v.start path = .ok content
  there : s.directory = "" ∨ v.files.hasDirectory v.start s.directory = true → v' = v

theorem Untouched.refl (s : Store) (name : String) (v : World) : Untouched s name v v :=
  ⟨.inl rfl, .refl _, fun _ _ h => h, fun _ => rfl⟩

theorem Untouched.start_eq {s : Store} (h : Untouched s name v v') : v'.start = v.start := by
  rcases h.left with rfl | ⟨-, rfl⟩
  · rfl
  · rfl

theorem untouched_withDirectories {s : Store} (h : s.IsFree v name) :
    Untouched s name v { v with files := v.files.withDirectories v.start s.directory } := by
  have hadds := Tree.addsDirectories_withDirectories v.files v.start s.directory
  refine ⟨.inr ⟨h, rfl⟩, hadds,
    fun path content hread => Tree.read_of_extends hadds.extends hread, ?_⟩
  intro hthere
  rw [Tree.withDirectories_of_hasDirectory hthere]

theorem Store.untouched_of_create_eq_error {s : Store}
    (h : (s.create w).perform v = (.error e, v')) : Untouched s w.name v v' := by
  unfold create at h
  simp only [perform_bind_eq_error, perform_unless_eq_error, perform_ofExcept, perform_find,
    perform_pure, Prod.mk.injEq, mapError_eq_ok] at h
  rcases h with ⟨-, rfl⟩ | ⟨_, _, ⟨hcheck, rfl⟩, ⟨-, rfl⟩ | ⟨_, _, ⟨hfind, rfl⟩, ⟨-, -, rfl⟩ |
    ⟨hnone, hrest⟩⟩⟩
  · exact .refl s w.name _
  · exact .refl s w.name _
  · exact .refl s w.name _
  · have hfree := isFree_of_find (check_eq_ok_iff.mp hcheck).1 hfind hnone
    rcases hrest with hmake | ⟨_, _, hmake, happend | ⟨_, _, -, hend, -⟩⟩
    · obtain ⟨-, -, -, rfl⟩ := perform_makeDirectories_eq_error.mp hmake
      exact untouched_withDirectories hfree
    · obtain ⟨made, hmade, rfl⟩ := perform_makeDirectories_eq_ok.mp hmake
      obtain ⟨-, -, -, rfl⟩ := perform_append_eq_error.mp happend
      rw [← Tree.withDirectories_of_ok hmade]
      exact untouched_withDirectories hfree
    · cases hend

namespace Keystore

variable {k : Keystore}

/-! ## Records that are added or discarded -/

theorem perform_recordOrDiscard_eq_ok :
    (k.recordOrDiscard keyPath w).perform v = (.ok w', v') ↔
      (k.store.create w).perform v = (.ok w', v') := by
  rw [recordOrDiscard]
  rcases h : (k.store.create w).perform v with ⟨result, u⟩
  cases result with
  | error e =>
    rw [perform_tryCatch_error h]
    constructor
    · intro hend
      cases (Prod.mk.inj hend).1
    · intro hend
      cases (Prod.mk.inj hend).1
  | ok x => rw [perform_tryCatch_ok h]

theorem perform_recordOrDiscard_of_error {u : World}
    (h : (k.store.create w).perform v = (.error e, u)) :
    (k.recordOrDiscard keyPath w).perform v = (.error e, (u.file (.remove keyPath)).2) :=
  perform_tryCatch_error h _

theorem perform_recordOrDiscard_eq_error :
    (k.recordOrDiscard keyPath w).perform v = (.error e, v') ↔
      ∃ u, (k.store.create w).perform v = (.error e, u) ∧ v' = (u.file (.remove keyPath)).2 := by
  rcases h : (k.store.create w).perform v with ⟨result, u⟩
  cases result with
  | error e' => simp [perform_recordOrDiscard_of_error h, eq_comm]
  | ok x => simp [perform_recordOrDiscard_eq_ok.mpr h]

/-! ## Wallets that cannot be made -/

theorem world_of_recordOrDiscard_eq_error {made keyed : Tree} {mode : Nat} {stored : ByteArray}
    (hthere : k.store.directory = "" ∨ made.hasDirectory v.start k.store.directory = true)
    (hkeyed : made.create v.start keyPath mode stored = .ok keyed)
    (h : (k.recordOrDiscard keyPath w).perform { v with files := keyed } = (.error e, v')) :
    v' = { v with files := made } := by
  obtain ⟨u, hcreate, rfl⟩ := perform_recordOrDiscard_eq_error.mp h
  have hkept := (Tree.extends_create hkeyed).keepsDirectories
  -- The directory stands by now, so the record that failed left the key file and nothing else.
  have hu := (Store.untouched_of_create_eq_error hcreate).there
    (hthere.imp_right (Tree.hasDirectory_of_keepsDirectories hkept))
  rw [hu, World.file, Tree.remove_create hkeyed]
  rfl

theorem untouched_of_createWallet_eq_error (hquiet : k.protector.IsQuiet)
    (h : (k.createWallet name secret).perform v = (.error e, v')) :
    Untouched k.store name v v' := by
  unfold createWallet at h
  simp only [perform_bind_eq_error, perform_unless_eq_error, Store.perform_find,
    Prod.mk.injEq] at h
  rcases h with ⟨-, -, rfl⟩ | ⟨hname, ⟨-, rfl⟩ | ⟨_, _, ⟨hfind, rfl⟩, ⟨-, -, rfl⟩ |
    ⟨hnone, hprotect | ⟨stored, u, hprotect, hrest⟩⟩⟩⟩
  · exact .refl k.store name _
  · exact .refl k.store name _
  · exact .refl k.store name _
  · rw [hquiet.eq_of_perform hprotect]
    exact .refl k.store name _
  · obtain rfl := hquiet.eq_of_perform hprotect
    have hfree := Store.isFree_of_find (by simpa using hname) hfind hnone
    rcases hrest with hmake | ⟨_, _, hmake, hfile | ⟨_, _, hfile, hrecord⟩⟩
    · obtain ⟨-, -, -, rfl⟩ := perform_makeDirectories_eq_error.mp hmake
      exact untouched_withDirectories hfree
    · obtain ⟨made, hmade, rfl⟩ := perform_makeDirectories_eq_ok.mp hmake
      obtain ⟨-, -, -, rfl⟩ := perform_createFile_eq_error.mp hfile
      rw [← Tree.withDirectories_of_ok hmade]
      exact untouched_withDirectories hfree
    · obtain ⟨made, hmade, rfl⟩ := perform_makeDirectories_eq_ok.mp hmake
      obtain ⟨keyed, hkeyed, rfl⟩ := perform_createFile_eq_ok.mp hfile
      rw [world_of_recordOrDiscard_eq_error (Tree.hasDirectory_makeDirectories hmade) hkeyed hrecord,
        ← Tree.withDirectories_of_ok hmade]
      exact untouched_withDirectories hfree

/-! ## Wallets that are made -/

/-- The steps by which a wallet is made. -/
theorem steps_of_createWallet_eq_ok (hquiet : k.protector.IsQuiet)
    (h : (k.createWallet name secret).perform v = (.ok w, v')) :
    w = ofSecret name secret ∧ k.store.IsFree v name ∧
      ∃ stored made keyed files,
        (k.protector.protect (Key.pem secret)).perform v = (.ok stored, v) ∧
        v.files.makeDirectories v.start k.store.directory = .ok made ∧
        made.create v.start (k.store.keyPath w) keyFileMode stored = .ok keyed ∧
        keyed.append v.start k.store.recordPath w.record = .ok files ∧
        v' = { v with files } := by
  unfold createWallet at h
  simp only [perform_bind_eq_ok, perform_unless_eq_ok, Store.perform_find, Prod.mk.injEq] at h
  obtain ⟨hname, _, _, ⟨hfind, rfl⟩, hnone, stored, u, hprotect, _, _, hmake, _, _, hfile,
    hrecord⟩ := h
  have hfree := Store.isFree_of_find (by simpa using hname) hfind hnone
  obtain rfl := hquiet.eq_of_perform hprotect
  obtain ⟨made, hmade, rfl⟩ := perform_makeDirectories_eq_ok.mp hmake
  obtain ⟨keyed, hkeyed, rfl⟩ := perform_createFile_eq_ok.mp hfile
  obtain ⟨rfl, -, -, again, files, hagain, hfiles, rfl⟩ :=
    Store.perform_create_eq_ok.mp (perform_recordOrDiscard_eq_ok.mp hrecord)
  -- The directories are made twice, and the second time there is nothing to make.
  have hthere := (Tree.hasDirectory_makeDirectories hmade).imp_right
    (Tree.hasDirectory_of_keepsDirectories (Tree.extends_create hkeyed).keepsDirectories)
  rw [Tree.makeDirectories_of_hasDirectory hthere, Except.ok.injEq] at hagain
  rw [← hagain] at hfiles
  exact ⟨rfl, hfree, stored, made, keyed, files, hprotect, hmade, hkeyed, hfiles, rfl⟩

/-- How a wallet comes into a directory: directories that are missing are made, then a key file where
nothing was, and a record is added at the end of what the record file holds. -/
structure IsMade (k : Keystore) (secret : SecretKey) (v : World) (w : Wallet) (v' : World)
    (made : Tree) (place : Location) (stored old : ByteArray) (mode : Nat) : Prop where
  wallet : w = ofSecret w.name secret
  free : k.store.IsFree v w.name
  protect : (k.protector.protect (Key.pem secret)).perform v = (.ok stored, v)
  directories : v.files.makeDirectories v.start k.store.directory = .ok made
  adds : Tree.AddsDirectories v.start (k.store.directory :: Path.ancestors k.store.directory)
    v.files made
  leads : made.LeadsTo v.start k.store.directory place
  keyAim : made.target v.start (k.store.keyPath w) = .ok (.entry (place ++ [w.keyRef]) false)
  recordAim : made.target v.start k.store.recordPath = .ok (.entry (place ++ [recordFile]) false)
  vacant : made.find (place ++ [w.keyRef]) = .ok none
  found : made.find (place ++ [recordFile]) = .ok (some (.file old mode)) ∨
    made.find (place ++ [recordFile]) = .ok none ∧ old = .empty ∧ mode = usualMode
  world : v' = { v with
    files := (made.put (place ++ [w.keyRef]) (.file stored keyFileMode)).put
      (place ++ [recordFile]) (.file (old ++ w.record) mode) }

theorem exists_isMade_of_createWallet_eq_ok (hquiet : k.protector.IsQuiet)
    (h : (k.createWallet name secret).perform v = (.ok w, v')) :
    ∃ made place stored old mode, IsMade k secret v w v' made place stored old mode := by
  obtain ⟨rfl, hfree, stored, made, keyed, files, hprotect, hmade, hkeyed, hfiles, rfl⟩ :=
    steps_of_createWallet_eq_ok hquiet h
  have hplain := isPlain_keyRef hfree.1
  obtain ⟨keyPlace, hkeyAim, hvacant, rfl⟩ := Tree.create_eq_ok.mp hkeyed
  obtain ⟨-, place, hleads, heq⟩ := (Tree.target_join_eq_ok hplain.1 hplain.2).mp hkeyAim
  obtain rfl := (Tree.Target.entry.inj heq).1
  have hkept := (Tree.extends_create hkeyed).keepsDirectories
  obtain ⟨recordPlace, old, mode, hrecordAim, rfl, hfound⟩ := Tree.modify_eq_ok hfiles
  obtain ⟨hfault, _, hleads', heq'⟩ :=
    (Tree.target_join_eq_ok Store.recordFile_plain.1 Store.recordFile_plain.2).mp hrecordAim
  obtain rfl := (Tree.Target.entry.inj heq').1
  obtain rfl := (hleads.of_keepsDirectories hkept).unique hleads'
  have hne : place ++ [recordFile] ≠ place ++ [keyFileStart ++ name] := by
    simpa using (keyRef_ne_recordFile name).symm
  have hadds := Tree.addsDirectories_withDirectories v.files v.start k.store.directory
  rw [Tree.withDirectories_of_ok hmade] at hadds
  refine ⟨made, place, stored, old, mode, rfl, hfree, hprotect, hmade, hadds, hleads, hkeyAim, ?_,
    hvacant, ?_, rfl⟩
  · exact (Tree.target_join_eq_ok Store.recordFile_plain.1 Store.recordFile_plain.2).mpr
      ⟨hfault, place, hleads, rfl⟩
  · rwa [Tree.find_put_of_ne (by simp) hne] at hfound

namespace IsMade

variable {made : Tree} {place q : Location} {stored old : ByteArray} {mode : Nat}

theorem get?_eq_none (h : IsMade k secret v w v' made place stored old mode) :
    v.files.get? (place ++ [w.keyRef]) = none := by
  rw [Option.eq_none_iff_forall_ne_some]
  intro e he
  have hmade := h.adds.extends _ e he
  rw [(Tree.find_eq_ok.mp h.vacant).2] at hmade
  cases hmade

theorem keyRef_ne (h : IsMade k secret v w v' made place stored old mode) :
    place ++ [w.keyRef] ≠ place ++ [recordFile] := by
  rw [h.wallet]
  simpa using keyRef_ne_recordFile w.name

/-! What is at each place afterwards. -/

theorem find_key (h : IsMade k secret v w v' made place stored old mode) :
    v'.files.find (place ++ [w.keyRef]) = .ok (some (.file stored keyFileMode)) := by
  rw [h.world, Tree.find_put_of_ne (by simp) h.keyRef_ne, Tree.find_eq_ok,
    Tree.get?_put (by simp), if_pos rfl]
  exact ⟨(Tree.find_eq_ok.mp h.vacant).1, rfl⟩

theorem find_record (h : IsMade k secret v w v' made place stored old mode) :
    v'.files.find (place ++ [recordFile]) = .ok (some (.file (old ++ w.record) mode)) := by
  have hshort : ∀ name ∈ place ++ [recordFile], name.utf8ByteSize ≤ Path.nameLimit := by
    rcases h.found with hfile | ⟨hnone, -⟩
    · exact (Tree.find_eq_ok.mp hfile).1
    · exact (Tree.find_eq_ok.mp hnone).1
  rw [h.world, Tree.find_eq_ok, Tree.get?_put (by simp), if_pos rfl]
  exact ⟨hshort, rfl⟩

theorem get?_other (h : IsMade k secret v w v' made place stored old mode)
    (hkey : q ≠ place ++ [w.keyRef]) (hrecord : q ≠ place ++ [recordFile]) :
    v'.files.get? q = made.get? q := by
  rw [h.world, Tree.get?_put (by simp), if_neg hrecord, Tree.get?_put (by simp), if_neg hkey]

theorem keepsDirectories (h : IsMade k secret v w v' made place stored old mode) :
    Tree.KeepsDirectories made v'.files := by
  intro q hq
  rw [Tree.isDirectory_iff] at *
  rw [h.get?_other ?_ ?_, hq]
  · rintro rfl
    rw [(Tree.find_eq_ok.mp h.vacant).2] at hq
    cases hq
  · rintro rfl
    rcases h.found with hfile | ⟨hnone, -⟩
    · rw [(Tree.find_eq_ok.mp hfile).2] at hq
      cases hq
    · rw [(Tree.find_eq_ok.mp hnone).2] at hq
      cases hq

end IsMade

/-! ## What creation leaves behind -/

/-- Removing the key file is all that is done about a record that cannot be added. -/
theorem discarded_of_create_eq_error {content : ByteArray} {u : World}
    (hread : v.files.read v.start keyPath = .ok content)
    (h : (k.store.create w).perform v = (.error e, u)) :
    ∃ place mode, v.files.target v.start keyPath = .ok (.entry place false) ∧
      v.files.get? place = some (.file content mode) ∧
      (k.recordOrDiscard keyPath w).perform v =
        (.error e, { u with files := u.files.erase place }) := by
  have hleft := Store.untouched_of_create_eq_error h
  obtain ⟨place, mode, haim, hfind⟩ := Tree.read_eq_ok.mp hread
  obtain ⟨hshort, hget⟩ := Tree.find_eq_ok.mp hfind
  have haim' := Tree.target_of_keepsDirectories hleft.adds.extends.keepsDirectories haim
  have hfind' := Tree.find_eq_ok.mpr ⟨hshort, hleft.adds.extends _ _ hget⟩
  have hremoved : u.files.remove u.start keyPath = .ok (u.files.erase place) := by
    rw [hleft.start_eq]
    exact Tree.remove_eq_ok.mpr ⟨place, content, mode, haim', hfind', rfl⟩
  refine ⟨place, mode, haim, hget, ?_⟩
  rw [perform_recordOrDiscard_of_error h, World.file, hremoved]
  rfl

/-- A wallet that cannot be made leaves nothing but directories. One that is made leaves its key file
and its record too. A key file that cannot be recorded goes. -/
theorem left_by_creation (hquiet : k.protector.IsQuiet) (v : World) :
    (∀ name secret e v', (k.createWallet name secret).perform v = (.error e, v') →
      Untouched k.store name v v') ∧
    (∀ name secret w v', (k.createWallet name secret).perform v = (.ok w, v') →
      w = ofSecret name secret ∧ ∃ made place stored old mode,
        IsMade k secret v w v' made place stored old mode ∧
        v.files.get? (place ++ [w.keyRef]) = none) ∧
    ∀ keyPath content w e u, v.files.read v.start keyPath = .ok content →
      (k.store.create w).perform v = (.error e, u) →
      Untouched k.store w.name v u ∧ ∃ place mode,
        v.files.target v.start keyPath = .ok (.entry place false) ∧
        v.files.get? place = some (.file content mode) ∧
        (k.recordOrDiscard keyPath w).perform v =
          (.error e, { u with files := u.files.erase place }) := by
  refine ⟨?_, ?_, ?_⟩
  · intro name secret e v' h
    exact untouched_of_createWallet_eq_error hquiet h
  · intro name secret w v' h
    obtain ⟨made, place, stored, old, mode, hmade⟩ := exists_isMade_of_createWallet_eq_ok hquiet h
    exact ⟨(steps_of_createWallet_eq_ok hquiet h).1, made, place, stored, old, mode, hmade,
      hmade.get?_eq_none⟩
  · intro keyPath content w e u hread h
    exact ⟨Store.untouched_of_create_eq_error h, discarded_of_create_eq_error hread h⟩

/-- A name that is too long for a key file is found out when the directory is already there. -/
theorem perform_createWallet_of_long {made : Tree} {place : Location} {stored : ByteArray}
    (hfree : k.store.IsFree v name)
    (hprotect : (k.protector.protect (Key.pem secret)).perform v = (.ok stored, v))
    (hmade : v.files.makeDirectories v.start k.store.directory = .ok made)
    (hleads : made.LeadsTo v.start k.store.directory place)
    (hfault : Path.fault? (k.store.keyPath (ofSecret name secret)) = none)
    (hlong : Path.nameLimit < (keyFileStart ++ name).utf8ByteSize) :
    (k.createWallet name secret).perform v =
      (.error (.io .nameTooLong), { v with files := made }) := by
  obtain ⟨hname, ws, hws, hnew⟩ := hfree
  have hplain := isPlain_keyRef hname
  have haim := (Tree.target_join_eq_ok hplain.1 hplain.2).mpr ⟨hfault, place, hleads, rfl⟩
  have hfind : made.find (place ++ [keyFileStart ++ name]) = .error .nameTooLong := by
    rw [Tree.find, if_pos]
    exact List.any_eq_true.mpr ⟨keyFileStart ++ name, by simp, decide_eq_true hlong⟩
  have hcreate : made.create v.start (k.store.keyPath (ofSecret name secret)) keyFileMode stored =
      .error .nameTooLong := by
    unfold Tree.create
    rw [Store.keyPath, ofSecret, haim, ok_bind]
    simp only [hfind]
    rfl
  have hmake := (perform_makeDirectories_eq_ok (u := ())).mpr ⟨made, hmade, rfl⟩
  have hfile := (perform_createFile_eq_error (w := { v with files := made })).mpr
    ⟨.nameTooLong, hcreate, rfl, rfl⟩
  unfold createWallet
  rw [hname, Bool.not_true, if_neg (by simp), perform_bind_ok (Store.perform_find_of_listed hws name),
    if_neg (by rwa [Store.find_isSome_iff]), perform_bind_ok hprotect, perform_bind_ok hmake]
  exact perform_bind_error hfile _

/-- The name of its key file has one letter too many. -/
def longName : String := String.ofList (List.replicate 247 'a')

/-- The directory stays although the key file cannot be written. -/
theorem directory_left_by_creation :
    let left := ((⟨⟨"home"⟩, .plain⟩ : Keystore).createWallet longName
      ⟨1, by decide, by decide⟩).perform (.atRoot {} [])
    left.1 = .error (.io .nameTooLong) ∧ left.2.files = ⟨[(["home"], .directory)]⟩ ∧
      left.2.files ≠ (World.atRoot {} []).files := by
  have hletters : longName.toList = List.replicate 247 'a' := String.toList_ofList
  have hname : isName longName = true := by
    rw [isName, hletters, List.all_replicate]
    decide +kernel
  have hjoin : Path.join "home" (keyFileStart ++ longName) =
      "home" ++ "/" ++ (keyFileStart ++ longName) :=
    (Path.join_eq_append (isPlain_keyRef hname).1 (by decide)).resolve_left
      (by rintro ⟨-, hslash⟩; cases hslash)
  have hfault : Path.fault? (Path.join "home" (keyFileStart ++ longName)) = none := by
    rw [hjoin, Path.fault?, if_neg, if_neg (by decide +kernel)]
    simp only [String.toList_append, hletters, List.mem_append, List.mem_replicate]
    decide
  have hmade : ({} : Tree).makeDirectories [] "home" = .ok ⟨[(["home"], .directory)]⟩ := by
    decide +kernel
  have hleads : (⟨[(["home"], .directory)]⟩ : Tree).LeadsTo [] "home" ["home"] := by
    unfold Tree.LeadsTo
    decide +kernel
  intro left
  have hleft : left = (.error (.io .nameTooLong), _) :=
    perform_createWallet_of_long ⟨hname, [], rfl, by simp⟩ rfl hmade hleads hfault
      (by decide +kernel)
  rw [hleft]
  exact ⟨rfl, rfl, by decide⟩

theorem left_by_creation_home :
    let k : Keystore := ⟨⟨"home"⟩, .plain⟩
    let secret : SecretKey := ⟨1, by decide, by decide⟩
    ∃ w v' made place stored old mode,
      (k.createWallet "alice" secret).perform (.atRoot {} []) = (.ok w, v') ∧
      IsMade k secret (.atRoot {} []) w v' made place stored old mode := by
  intro k secret
  have hsome : ((k.createWallet "alice" secret).perform (.atRoot {} [])).1.toOption.isSome = true := by
    decide +kernel
  rcases h : (k.createWallet "alice" secret).perform (.atRoot {} []) with ⟨result, v'⟩
  rw [h] at hsome
  cases result with
  | error e => cases hsome
  | ok w =>
    obtain ⟨-, hcreated, -⟩ := left_by_creation (k := k) Protector.isQuiet_plain (.atRoot {} [])
    obtain ⟨-, made, place, stored, old, mode, hmade, -⟩ := hcreated "alice" secret w v' h
    exact ⟨w, v', made, place, stored, old, mode, rfl, hmade⟩

end Keystore

end UtxoWallet.Wallet
