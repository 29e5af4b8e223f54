import UtxoWallet.Proofs.Key.File
import UtxoWallet.Proofs.Wallet.Creation
import UtxoWallet.Proofs.Wallet.Log

/-! # Records and key files stay in step -/

namespace UtxoWallet.Wallet

open Attempt Result Files Curve

/-! ## One wallet -/

theorem isKeyRef_of_isName {name : String} (h : isName name = true) :
    isKeyRef (keyFileStart ++ name) = true := by
  have hstart : keyFileStart.toList.any Text.isBlank = false := by decide +kernel
  have hletters := (isBlank_of_isName h).2
  have hne := (isPlain_keyRef h).1.1
  rw [isKeyRef, String.isEmpty_eq_false_iff.mpr hne, Text.hasBlank, String.toList_append,
    List.any_append, hstart, List.any_eq_false.mpr (by simpa using hletters)]
  rfl

theorem check_ofSecret {name : String} (h : isName name = true) (secret : SecretKey) :
    Store.check (ofSecret name secret) = .ok () :=
  check_eq_ok_iff.mpr ⟨h, isKeyRef_of_isName h, Key.check_address _⟩

/-- What a protector has made of a text, it turns back. -/
def Protector.Recovers (p : Protector) : Prop :=
  ∀ pem v stored v', (p.protect pem).perform v = (.ok stored, v') → p.unprotect stored = .ok pem

theorem Protector.recovers_plain : Protector.plain.Recovers := by
  rintro pem v stored v' ⟨⟩
  change textOf pem.toUTF8 = .ok pem
  rw [textOf, Text.fromUTF8?_toUTF8]
  rfl

variable {k : Keystore} {v v' : World} {w : Wallet} {secret : SecretKey} {name : String}
  {made : List (Wallet × SecretKey)} {place q : Location} {t : Tree}

theorem readKey_of_protect (hrecovers : k.protector.Recovers) {stored : ByteArray}
    (h : (k.protector.protect (Key.pem secret)).perform v = (.ok stored, v')) (name : String) :
    k.readKey (ofSecret name secret) stored = .ok secret := by
  have hpem : k.protector.unprotect stored = .ok (Key.pem secret) := hrecovers _ _ _ _ h
  unfold Keystore.readKey
  rw [hpem, ok_bind, Key.ofPem_pem, mapError_ok, ok_bind]
  exact if_neg (not_not.mpr rfl)

/-! ## A directory of wallets -/

/-- The directory at this place holds the records of these wallets, if there are any, and a key file
with the secret of each, and nothing else. -/
structure Holds (k : Keystore) (start place : Location) (made : List (Wallet × SecretKey))
    (t : Tree) : Prop where
  leads : t.LeadsTo start k.store.directory place
  record : t.read start k.store.recordPath = Store.content (made.map (·.1))
  named : ∀ p ∈ made, p.1 = ofSecret p.1.name p.2 ∧ isName p.1.name = true
  keys : ∀ p ∈ made, ∃ stored, t.read start (k.store.keyPath p.1) = .ok stored ∧
    k.readKey p.1 stored = .ok p.2
  only : ∀ q, q ≠ [] → (t.get? (place ++ q)).isSome = true →
    made ≠ [] ∧ q = [recordFile] ∨ ∃ p ∈ made, q = [p.1.keyRef]

/-- What the record file holds is what it is read as. -/
theorem Holds.content_or (h : Holds k v.start place made t) {stored old : ByteArray} {mode : Nat}
    (hmade : k.IsMade secret v w v' t place stored old mode) :
    Store.content (made.map (·.1)) = .ok old ∨
      Store.content (made.map (·.1)) = .error .notFound ∧ old = .empty := by
  rw [← h.record]
  rcases hmade.found with hfile | ⟨hnone, hold, -⟩
  · exact .inl (Tree.read_eq_ok.mpr ⟨_, mode, hmade.recordAim, hfile⟩)
  · refine .inr ⟨?_, hold⟩
    rw [Tree.read, hmade.recordAim, ok_bind]
    simp only [hnone]
    rfl

theorem Holds.keyRef_eq {start : Location} (h : Holds k start place made t)
    {p : Wallet × SecretKey} (hp : p ∈ made) : p.1.keyRef = keyFileStart ++ p.1.name := by
  rw [(h.named p hp).1]
  rfl

/-- Another key file is read as before. -/
theorem Holds.read_of_isMade (h : Holds k v.start place made t) {stored old : ByteArray} {mode : Nat}
    (hmade : k.IsMade secret v w v' t place stored old mode) {p : Wallet × SecretKey} (hp : p ∈ made)
    {content : ByteArray} (hread : t.read v.start (k.store.keyPath p.1) = .ok content) :
    v'.files.read v.start (k.store.keyPath p.1) = .ok content := by
  have hplain := isPlain_keyRef (h.named p hp).2
  rw [Store.keyPath, h.keyRef_eq hp, Tree.read_join_eq_ok hplain.1 hplain.2] at hread ⊢
  obtain ⟨hfault, place', mode', hleads, hfind⟩ := hread
  obtain rfl := hleads.unique h.leads
  obtain ⟨hshort, hget⟩ := Tree.find_eq_ok.mp hfind
  refine ⟨hfault, place', mode', hleads.of_keepsDirectories hmade.keepsDirectories,
    Tree.find_eq_ok.mpr ⟨hshort, ?_⟩⟩
  rw [hmade.get?_other ?_ ?_, hget]
  · intro heq
    rw [heq, (Tree.find_eq_ok.mp hmade.vacant).2] at hget
    cases hget
  · simpa using keyRef_ne_recordFile p.1.name

/-- A wallet more, with its key file and its record. -/
theorem Holds.concat (h : Holds k v.start place made t) {stored old : ByteArray} {mode : Nat}
    (hmade : k.IsMade secret v w v' t place stored old mode)
    (hkey : k.readKey w stored = .ok secret) :
    Holds k v.start place (made ++ [(w, secret)]) v'.files := by
  have hkept := hmade.keepsDirectories
  refine ⟨h.leads.of_keepsDirectories hkept, ?_, ?_, ?_, ?_⟩
  · rw [List.map_append, List.map_singleton, Store.content_concat (h.content_or hmade)]
    exact Tree.read_eq_ok.mpr
      ⟨_, mode, Tree.target_of_keepsDirectories hkept hmade.recordAim, hmade.find_record⟩
  · rw [List.forall_mem_append, List.forall_mem_singleton]
    exact ⟨h.named, hmade.wallet, hmade.free.1⟩
  · rw [List.forall_mem_append, List.forall_mem_singleton]
    refine ⟨?_, stored, ?_, hkey⟩
    · intro p hp
      obtain ⟨content, hread, hreadKey⟩ := h.keys p hp
      exact ⟨content, h.read_of_isMade hmade hp hread, hreadKey⟩
    · exact Tree.read_eq_ok.mpr
        ⟨_, _, Tree.target_of_keepsDirectories hkept hmade.keyAim, hmade.find_key⟩
  · intro q hq hsome
    by_cases hqkey : q = [w.keyRef]
    · exact .inr ⟨(w, secret), by simp, hqkey⟩
    · by_cases hqrecord : q = [recordFile]
      · exact .inl ⟨by simp, hqrecord⟩
      · rw [hmade.get?_other (by simpa using hqkey) (by simpa using hqrecord)] at hsome
        rcases h.only q hq hsome with ⟨-, hrecord⟩ | ⟨p, hp, hkeyRef⟩
        · exact absurd hrecord hqrecord
        · exact .inr ⟨p, List.mem_append_left _ hp, hkeyRef⟩

/-- Once the directories are made, the directory holds these wallets. If there are any, it is made
already. -/
structure InStep (k : Keystore) (place : Location) (v : World) (made : List (Wallet × SecretKey)) :
    Prop where
  read : v.files.read v.start k.store.recordPath = Store.content (made.map (·.1))
  ready : ∃ t, v.files.makeDirectories v.start k.store.directory = .ok t ∧
    Holds k v.start place made t ∧ (made ≠ [] → t = v.files)
  names : ((made.map (·.1)).map (·.name)).Nodup

namespace InStep

theorem log (h : InStep k place v made) : Store.Log k.store v (made.map (·.1)) := by
  obtain ⟨t, hmake, hholds, -⟩ := h.ready
  refine ⟨h.read, ⟨t, hmake, hholds.record⟩, ?_, h.names⟩
  intro w hw
  obtain ⟨p, hp, rfl⟩ := List.mem_map.mp hw
  obtain ⟨hwallet, hname⟩ := hholds.named p hp
  rw [hwallet]
  exact check_ofSecret hname p.2

/-- Where there is a wallet, the directory is as it should be. -/
theorem holds (h : InStep k place v made) (hne : made ≠ []) :
    Holds k v.start place made v.files := by
  obtain ⟨t, -, hholds, heq⟩ := h.ready
  rwa [heq hne] at hholds

theorem perform_loadKey (h : InStep k place v made) {p : Wallet × SecretKey} (hp : p ∈ made) :
    (k.loadKey p.1).perform v = (.ok p.2, v) := by
  obtain ⟨stored, hread, hkey⟩ := (h.holds (List.ne_nil_of_mem hp)).keys p hp
  rw [Keystore.perform_loadKey, hread, mapError_ok, ok_bind, hkey]

theorem keyRef_eq (h : InStep k place v made) {p : Wallet × SecretKey} (hp : p ∈ made) :
    p.1.keyRef = keyFileStart ++ p.1.name :=
  (h.holds (List.ne_nil_of_mem hp)).keyRef_eq hp

/-- The files in the directory are the record file and the key files of the wallets. -/
theorem isSome_get?_iff (h : InStep k place v made) (hq : q ≠ []) :
    (v.files.get? (place ++ q)).isSome = true ↔
      made ≠ [] ∧ q = [recordFile] ∨ ∃ p ∈ made, q = [p.1.keyRef] := by
  constructor
  · intro hsome
    obtain ⟨t, hmake, hholds, -⟩ := h.ready
    obtain ⟨e, he⟩ := Option.isSome_iff_exists.mp hsome
    exact hholds.only q hq (Option.isSome_iff_exists.mpr
      ⟨e, Tree.extends_makeDirectories hmake _ e he⟩)
  · rintro (⟨hne, rfl⟩ | ⟨p, hp, rfl⟩)
    · obtain ⟨p, rest, rfl⟩ := List.exists_cons_of_ne_nil hne
      obtain ⟨mode, hmode⟩ := Tree.get?_of_read_join Store.recordFile_plain.1
        Store.recordFile_plain.2 (h.holds hne).leads h.read
      rw [hmode]
      rfl
    · have hholds := h.holds (List.ne_nil_of_mem hp)
      have hplain := isPlain_keyRef (hholds.named p hp).2
      obtain ⟨stored, hread, -⟩ := hholds.keys p hp
      rw [Store.keyPath, hholds.keyRef_eq hp] at hread
      obtain ⟨mode, hmode⟩ := Tree.get?_of_read_join hplain.1 hplain.2 hholds.leads hread
      rw [hholds.keyRef_eq hp, hmode]
      rfl

theorem with_asked (h : InStep k place v made) (asked : List Asked) :
    InStep k place { v with asked } made := ⟨h.read, h.ready, h.names⟩

/-! ## One attempt to make a wallet -/

theorem of_left (h : InStep k place v made)
    (hleft : v' = v ∨ v' = { v with files := v.files.withDirectories v.start k.store.directory }) :
    InStep k place v' made := by
  rcases hleft with rfl | rfl
  · exact h
  · obtain ⟨t, hmake, hholds, -⟩ := h.ready
    rw [Tree.withDirectories_of_ok hmake]
    exact ⟨hholds.record, ⟨t, Tree.makeDirectories_of_hasDirectory
      (Tree.hasDirectory_makeDirectories hmake), hholds, fun _ => rfl⟩, h.names⟩

theorem get?_of_left (h : InStep k place v made)
    (hleft : v' = v ∨ v' = { v with files := v.files.withDirectories v.start k.store.directory })
    (hq : q ≠ []) : v'.files.get? (place ++ q) = v.files.get? (place ++ q) := by
  -- Without wallets the directory may be new, but then it is as empty as it was.
  by_cases hne : made = []
  · have hnone : ∀ u, InStep k place u made → u.files.get? (place ++ q) = none := by
      intro u hu
      rw [← Option.not_isSome_iff_eq_none, hu.isSome_get?_iff hq, hne]
      simp
    rw [hnone v' (h.of_left hleft), hnone v h]
  · obtain ⟨t, hmake, -, heq⟩ := h.ready
    rcases hleft with rfl | rfl
    · rfl
    · rw [Tree.withDirectories_of_ok hmake, heq hne]

theorem concat (hrecovers : k.protector.Recovers) (h : InStep k place v made) {t : Tree}
    {place' : Location} {stored old : ByteArray} {mode : Nat}
    (hmade : k.IsMade secret v w v' t place' stored old mode) :
    InStep k place v' (made ++ [(w, secret)]) := by
  obtain ⟨t', hmake, hholds, -⟩ := h.ready
  obtain rfl : t' = t := Except.ok.inj (hmake.symm.trans hmade.directories)
  obtain rfl : place' = place := hmade.leads.unique hholds.leads
  have hkey : k.readKey w stored = .ok secret := by
    rw [hmade.wallet]
    exact readKey_of_protect hrecovers hmade.protect w.name
  have hafter := hholds.concat hmade hkey
  -- From now on the directories are there, so making them again changes nothing.
  have hthere := (Tree.hasDirectory_makeDirectories hmake).imp_right
    (Tree.hasDirectory_of_keepsDirectories hmade.keepsDirectories)
  have hstart : v'.start = v.start := by rw [hmade.world]
  obtain ⟨-, ws, hws, hnew⟩ := hmade.free
  obtain rfl : made.map (·.1) = ws := Except.ok.inj (h.log.listed.symm.trans hws)
  refine ⟨?_, ⟨v'.files, ?_, ?_, fun _ => rfl⟩, ?_⟩
  · rw [hstart]
    exact hafter.record
  · rw [hstart]
    exact Tree.makeDirectories_of_hasDirectory hthere
  · rw [hstart]
    exact hafter
  · rw [List.map_append, List.map_append, List.nodup_append]
    refine ⟨h.names, by simp, ?_⟩
    intro a ha b hb heq
    obtain ⟨u, hu, rfl⟩ := List.mem_map.mp ha
    rw [List.map_singleton, List.map_singleton, List.mem_singleton] at hb
    exact hnew ⟨u, hu, heq.trans hb⟩

end InStep

/-! ## From an empty directory -/

/-- The directory is empty or missing, nothing is in the way of making it, and this is its place. -/
structure Store.Fresh (s : Store) (v : World) (place : Location) : Prop extends Vacant s v where
  empty : ∀ t, v.files.makeDirectories v.start s.directory = .ok t →
    t.LeadsTo v.start s.directory place ∧ ∀ q, q ≠ [] → t.get? (place ++ q) = none

theorem Store.Fresh.inStep (h : k.store.Fresh v place) : InStep k place v [] := by
  obtain ⟨t, hmake, hmissing⟩ := h.creatable
  obtain ⟨hleads, hempty⟩ := h.empty t hmake
  refine ⟨h.missing, ⟨t, hmake, ⟨hleads, hmissing, by simp, by simp, ?_⟩, by simp⟩, by simp⟩
  intro q hq hsome
  rw [hempty q hq] at hsome
  cases hsome

end UtxoWallet.Wallet
