import UtxoWallet.Proofs.Wallet.Store

/-! # A store that began empty holds what was added to it -/

namespace UtxoWallet.Wallet

open Attempt Result Files Text

variable {ws : List Wallet}

/-! ## The text of the file -/

/-- The records of these wallets, one line each. -/
def logText : List Wallet → String
  | [] => ""
  | w :: ws => w.line ++ "\n" ++ logText ws

theorem logText_concat (ws : List Wallet) (w : Wallet) :
    logText (ws ++ [w]) = logText ws ++ (w.line ++ "\n") := by
  induction ws with
  | nil => simp [logText]
  | cons u ws ih => simp only [List.cons_append, logText, ih, String.append_assoc]

theorem terminated_logText (ws : List Wallet) : Terminated (logText ws).toList := by
  rcases List.eq_nil_or_concat ws with rfl | ⟨front, w, rfl⟩
  · exact .inl rfl
  · rw [List.concat_eq_append, logText_concat]
    exact .inr (by simp [← List.append_assoc])

theorem ofRecords_logText (h : ∀ w ∈ ws, Store.check w = .ok ()) :
    ofRecords (logText ws) = .ok ws := by
  induction ws using List.reverseRecOn with
  | nil => simp [ofRecords, logText, lines, ofLines]
  | append_singleton ws w ih =>
    rw [List.forall_mem_append, List.forall_mem_singleton] at h
    rw [logText_concat, ofRecords_append (terminated_logText ws) h.2, ih h.1]
    rfl

namespace Store

variable {s : Store} {v v' : World} {w : Wallet}

/-! ## One call -/

/-- What the record file holds after these wallets were added to none. -/
def content : List Wallet → Except Fault ByteArray
  | [] => .error .notFound
  | w :: ws => .ok (logText (w :: ws)).toUTF8

theorem content_concat {old : ByteArray}
    (h : content ws = .ok old ∨ content ws = .error .notFound ∧ old = .empty) (w : Wallet) :
    content (ws ++ [w]) = .ok (old ++ w.record) := by
  cases ws with
  | nil =>
    rcases h with h | ⟨-, rfl⟩
    · cases h
    · simp [content, logText, record]
  | cons u ws =>
    rcases h with h | ⟨h, -⟩
    · rw [← Except.ok.inj h, List.cons_append, content, ← List.cons_append, logText_concat,
        toUTF8_append]
      rfl
    · cases h

/-- The store holds these wallets as if it had begun empty and added them. -/
structure Log (s : Store) (v : World) (ws : List Wallet) : Prop where
  read : v.files.read v.start s.recordPath = content ws
  ready : ∃ made, v.files.makeDirectories v.start s.directory = .ok made ∧
    made.read v.start s.recordPath = content ws
  checked : ∀ w ∈ ws, check w = .ok ()
  names : (ws.map (·.name)).Nodup

theorem Log.listed (h : Log s v ws) : s.listed v = .ok ws := by
  cases ws with
  | nil =>
    rw [Store.listed, h.read]
    rfl
  | cons w ws => rw [listed_of_read h.read, ofRecords_logText h.checked]

theorem check_ne_duplicate {e : Error} (h : check w = .error e) (name : String) :
    e ≠ .duplicateWallet name := by
  rintro rfl
  unfold check at h
  split at h
  · cases h
  · split at h
    · cases h
    · cases hcheck : Address.check w.address <;> simp [hcheck] at h

/-- Where the directory is ready, a record can be written and is read back. -/
theorem exists_append {made : Tree}
    (hmade : v.files.makeDirectories v.start s.directory = .ok made)
    (hread : made.read v.start s.recordPath = content ws) (w : Wallet) :
    ∃ files, made.append v.start s.recordPath w.record = .ok files ∧
      files.read v.start s.recordPath = content (ws ++ [w]) := by
  cases ws with
  | nil =>
    obtain ⟨files, hfiles⟩ := Tree.exists_append_of_missing recordFile_plain.1 recordFile_plain.2
      (Tree.hasDirectory_makeDirectories hmade) hread w.record
    refine ⟨files, hfiles, ?_⟩
    rw [recordPath, Tree.read_append_of_missing hfiles hread, content_concat (.inr ⟨rfl, rfl⟩),
      ByteArray.empty_append]
  | cons u ws =>
    obtain ⟨files, hfiles⟩ := Tree.exists_append_of_read hread w.record
    refine ⟨files, hfiles, ?_⟩
    rw [Tree.read_append hfiles hread, content_concat (.inl rfl)]

theorem Log.create_ok (h : Log s v ws) (hcheck : check w = .ok ())
    (hnew : ¬∃ u ∈ ws, u.name = w.name) :
    ∃ v', (s.create w).perform v = (.ok w, v') ∧ Log s v' (ws ++ [w]) := by
  obtain ⟨made, hmade, hread⟩ := h.ready
  obtain ⟨files, hfiles, hafter⟩ := exists_append hmade hread w
  refine ⟨{ v with files }, perform_create_eq_ok.mpr
    ⟨rfl, hcheck, ⟨ws, h.listed, hnew⟩, made, files, hmade, hfiles, rfl⟩, ?_⟩
  have hthere := (Tree.hasDirectory_makeDirectories hmade).imp_right
    (Tree.hasDirectory_of_keepsDirectories (Tree.keepsDirectories_append hfiles))
  refine ⟨hafter, ⟨files, Tree.makeDirectories_of_hasDirectory hthere, hafter⟩, ?_, ?_⟩
  · rw [List.forall_mem_append, List.forall_mem_singleton]
    exact ⟨h.checked, hcheck⟩
  · rw [List.map_append, List.nodup_append]
    refine ⟨h.names, by simp, ?_⟩
    simpa using hnew

/-- A call adds its wallet, or it is refused and changes nothing. -/
theorem Log.create (h : Log s v ws) (w : Wallet) :
    (check w = .ok () ∧ (¬∃ u ∈ ws, u.name = w.name) ∧
      ∃ v', (s.create w).perform v = (.ok w, v') ∧ Log s v' (ws ++ [w])) ∨
    (check w = .ok () ∧ (∃ u ∈ ws, u.name = w.name) ∧
      (s.create w).perform v = (.error (.duplicateWallet w.name), v)) ∨
    ∃ e, check w = .error e ∧ (s.create w).perform v = (.error e, v) := by
  cases hcheck : check w with
  | error e => exact .inr (.inr ⟨e, rfl, perform_create_of_check hcheck⟩)
  | ok =>
    by_cases hdup : ∃ u ∈ ws, u.name = w.name
    · exact .inr (.inl ⟨rfl, hdup, perform_create_of_duplicate hcheck h.listed hdup⟩)
    · exact .inl ⟨rfl, hdup, h.create_ok hcheck hdup⟩

theorem Log.create_eq_ok_iff (h : Log s v ws) (w : Wallet) :
    ((s.create w).perform v).1 = .ok w ↔ check w = .ok () ∧ ¬∃ u ∈ ws, u.name = w.name := by
  rcases h.create w with ⟨hcheck, hnew, v', hcall, -⟩ | ⟨-, hdup, hcall⟩ | ⟨e, hcheck, hcall⟩
  · simp [hcall, hcheck, hnew]
  · simp [hcall, hdup]
  · simp [hcall, hcheck]

theorem Log.create_eq_duplicate_iff (h : Log s v ws) (w : Wallet) :
    (∃ name, ((s.create w).perform v).1 = .error (.duplicateWallet name)) ↔
      check w = .ok () ∧ ∃ u ∈ ws, u.name = w.name := by
  rcases h.create w with ⟨-, hnew, v', hcall, -⟩ | ⟨hcheck, hdup, hcall⟩ | ⟨e, hcheck, hcall⟩
  · simp [hcall, hnew]
  · simp [hcall, hcheck, hdup]
  · simp [hcall, hcheck, check_ne_duplicate hcheck]

theorem Log.eq_of_create_eq_error (h : Log s v ws) {e : Error}
    (hcall : (s.create w).perform v = (.error e, v')) : v' = v := by
  rcases h.create w with ⟨-, -, _, hok, -⟩ | ⟨-, -, herror⟩ | ⟨_, -, herror⟩
  · rw [hok] at hcall
    cases hcall
  · rw [herror] at hcall
    exact (Prod.mk.inj hcall).2.symm
  · rw [herror] at hcall
    exact (Prod.mk.inj hcall).2.symm

/-! ## Many calls -/

/-- What each of these calls answers, one after the other, and the world after the last. -/
def createAll (s : Store) : List Wallet → World → List (Except Error Wallet) × World
  | [], v => ([], v)
  | w :: calls, v =>
    let (answer, v) := (s.create w).perform v
    let (answers, v) := createAll s calls v
    (answer :: answers, v)

/-- The wallets of the calls that succeeded. -/
def added (answers : List (Except Error Wallet)) : List Wallet := answers.filterMap Except.toOption

/-- Whatever calls are made, the store stays a log. -/
theorem Log.createAll (h : Log s v ws) (calls : List Wallet) :
    Log s (s.createAll calls v).2 (ws ++ added (s.createAll calls v).1) := by
  induction calls generalizing v ws with
  | nil => simpa [Store.createAll, added] using h
  | cons w calls ih =>
    rw [Store.createAll]
    rcases h.create w with ⟨-, -, v', hcall, hlog⟩ | ⟨-, -, hcall⟩ | ⟨e, -, hcall⟩
    · have hafter := ih hlog
      rw [List.append_assoc] at hafter
      rw [hcall]
      exact hafter
    · rw [hcall]
      exact ih h
    · rw [hcall]
      exact ih h

theorem Log.find (h : Log s v ws) (name : String) :
    (s.find name).perform v = (.ok (ws.find? (·.name == name)), v) :=
  perform_find_of_listed h.listed name

/-- A wallet that is found is found after any more calls. -/
theorem Log.find_createAll (h : Log s v ws) {name : String} {u : Wallet}
    (hfind : (s.find name).perform v = (.ok (some u), v)) (more : List Wallet) :
    ((s.find name).perform (s.createAll more v).2).1 = .ok (some u) := by
  rw [h.find, Prod.mk.injEq, Except.ok.injEq] at hfind
  rw [(h.createAll more).find, List.find?_append, hfind.1]
  rfl

/-! ## From an empty directory -/

/-- There is no record file, and nothing is in the way of making the directory. -/
structure Vacant (s : Store) (v : World) : Prop where
  missing : v.files.read v.start s.recordPath = .error .notFound
  creatable : ∃ made, v.files.makeDirectories v.start s.directory = .ok made ∧
    made.read v.start s.recordPath = .error .notFound

theorem Vacant.log (h : Vacant s v) : Log s v [] := ⟨h.missing, h.creatable, by simp, by simp⟩

/-- After any calls the store lists the wallets of those that succeeded, in order and with different
names, and its file holds their records and nothing else. Names once taken are refused, and calls
that fail change nothing. -/
theorem createAll_of_vacant (h : Vacant s v) (calls : List Wallet) :
    let v' := (s.createAll calls v).2
    let ws := added (s.createAll calls v).1
    s.list.perform v' = (.ok ws, v') ∧
    (ws.map (·.name)).Nodup ∧
    v'.files.read v'.start s.recordPath = content ws ∧
    (∀ w, ((s.create w).perform v').1 = .ok w ↔
      check w = .ok () ∧ ¬∃ u ∈ ws, u.name = w.name) ∧
    (∀ w, (∃ name, ((s.create w).perform v').1 = .error (.duplicateWallet name)) ↔
      check w = .ok () ∧ ∃ u ∈ ws, u.name = w.name) ∧
    (∀ w e v'', (s.create w).perform v' = (.error e, v'') → v'' = v') ∧
    ∀ name u more, (s.find name).perform v' = (.ok (some u), v') →
      ((s.find name).perform (s.createAll more v').2).1 = .ok (some u) := by
  intro v' ws
  have hlog : Log s v' ws := h.log.createAll calls
  refine ⟨by rw [perform_list, hlog.listed], hlog.names, hlog.read, hlog.create_eq_ok_iff,
    hlog.create_eq_duplicate_iff, ?_, ?_⟩
  · intro w e v'' hcall
    exact hlog.eq_of_create_eq_error hcall
  · intro name u more hfind
    exact hlog.find_createAll hfind more

/-- Among them a bad name, a name that is taken and a bad key file name. -/
def sampleCalls : List Wallet :=
  [⟨"alice", "k1", "QUJD"⟩, ⟨"al ice", "k2", "QUJD"⟩, ⟨"bob", "k3", "QUJD"⟩,
   ⟨"alice", "k4", "QUJD"⟩, ⟨"carol", "k\u20285", "QUJD"⟩]

theorem createAll_of_vacant_nested :
    Vacant ⟨"home/wallet"⟩ (.atRoot {} []) ∧
    ((⟨"home/wallet"⟩ : Store).list.perform
      ((⟨"home/wallet"⟩ : Store).createAll sampleCalls (.atRoot {} [])).2).1 =
      .ok [⟨"alice", "k1", "QUJD"⟩, ⟨"bob", "k3", "QUJD"⟩] := by
  have hvacant : Vacant ⟨"home/wallet"⟩ (.atRoot {} []) := by
    refine ⟨by decide +kernel,
      ⟨[(["home"], .directory), (["home", "wallet"], .directory)]⟩, ?_, ?_⟩
    · decide +kernel
    · decide +kernel
  have hadded : added ((⟨"home/wallet"⟩ : Store).createAll sampleCalls (.atRoot {} [])).1 =
      [⟨"alice", "k1", "QUJD"⟩, ⟨"bob", "k3", "QUJD"⟩] := by decide +kernel
  obtain ⟨hlist, -⟩ := createAll_of_vacant hvacant sampleCalls
  refine ⟨hvacant, ?_⟩
  rw [hlist, hadded]

end Store

end UtxoWallet.Wallet
