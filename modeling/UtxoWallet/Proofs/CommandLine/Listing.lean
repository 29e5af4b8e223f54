import UtxoWallet.Proofs.CommandLine.Request
import UtxoWallet.Proofs.Ledger.Abbreviation
import UtxoWallet.Proofs.Wallet.Store

/-! # A list of wallets always ends

It is told whole, or it is told why there is none. Addresses in records are plain, so no cut in one
goes wrong.
-/

namespace UtxoWallet.CommandLine

open Attempt Result Wallet Curve Files

variable {s : Settings} {v : World} {short : Bool} {w : Wallet} {ws : List Wallet}

/-! ## Lines that may be missing -/

/-- The line for a wallet, if no cut in its address goes wrong. -/
def shown? (short : Bool) (w : Wallet) : Option String :=
  (if short then Address.abbreviate w.address shortKeep else some w.address).map
    (w.name ++ ": " ++ ·)

/-- Does what a list command does, but a cut that goes wrong leaves no lines at all. -/
def listing? (s : Settings) (short : Bool) : Attempt (Option (List String)) := do
  let keystore ← openKeystore s
  let wallets ← keystore.list
  return wallets.mapM (shown? short)

/-- The name of a wallet and its address, in short or whole. -/
def IsShown (short : Bool) (w : Wallet) (line : String) : Prop :=
  ∃ address, line = w.name ++ ": " ++ address ∧
    if short then Address.IsAbbreviation 15 w.address address else address = w.address

theorem shown_of_abbreviate {brief : String} (h : Address.abbreviate w.address shortKeep = some brief) :
    shown true w = w.name ++ ": " ++ brief := by
  rw [shown, if_pos rfl, h]
  rfl

theorem exists_brief (h : ∀ c ∈ w.address.toList, c.toNat < 128) :
    ∃ brief, Address.abbreviate w.address shortKeep = some brief ∧
      Address.IsAbbreviation 15 w.address brief :=
  Address.exists_abbreviation_of_plain h (by decide)

/-- No line falls back on the whole address for want of a short one. -/
theorem shown?_of_plain (short : Bool) (h : ∀ c ∈ w.address.toList, c.toNat < 128) :
    shown? short w = some (shown short w) := by
  cases short with
  | false => rfl
  | true =>
    obtain ⟨brief, hbrief, -⟩ := exists_brief h
    rw [shown?, if_pos rfl, hbrief, shown_of_abbreviate hbrief, Option.map_some]

theorem isShown_of_plain (short : Bool) (h : ∀ c ∈ w.address.toList, c.toNat < 128) :
    IsShown short w (shown short w) := by
  cases short with
  | false => exact ⟨w.address, rfl, rfl⟩
  | true =>
    obtain ⟨brief, hbrief, habbreviation⟩ := exists_brief h
    exact ⟨brief, shown_of_abbreviate hbrief, habbreviation⟩

theorem mapM_shown?_of_plain (short : Bool) (h : ∀ w ∈ ws, ∀ c ∈ w.address.toList, c.toNat < 128) :
    ws.mapM (shown? short) = some (ws.map (shown short)) := by
  induction ws with
  | nil => rfl
  | cons w ws ih =>
    rw [List.forall_mem_cons] at h
    simp [List.mapM_cons, shown?_of_plain short h.1, ih h.2]

/-! ## What is listed -/

/-- The wallets that a list command comes to. -/
def Settings.found (s : Settings) (v : World) : Except Wallet.Error (List Wallet) := do
  let _ ← s.opening v
  (Store.mk s.directory).listed (s.opened v)

theorem perform_list_bind {α : Type} (s : Settings) (v : World) (f : List Wallet → α) :
    (do let keystore ← openKeystore s
        let wallets ← keystore.list
        return f wallets : Attempt α).perform v = ((s.found v).map f, s.opened v) := by
  have hopen : (openKeystore s).perform v = (s.opening v >>= fun c => .ok c.keystore, s.opened v) :=
    perform_bind_of_still (perform_openConfig s v) fun _ => rfl
  rw [perform_bind_of_still hopen (g := fun k => (k.store.listed (s.opened v)).map f)]
  · unfold Settings.found
    rcases s.opening_cases v with ⟨-, hopening⟩ | ⟨-, e, hopening⟩
    · rw [hopening]
      rfl
    · rw [hopening]
      rfl
  · intro k
    have hlist : k.list.perform (s.opened v) = (k.store.listed (s.opened v), s.opened v) := rfl
    rw [perform_bind_of_still hlist (g := fun ws => .ok (f ws)) fun _ => rfl]
    cases k.store.listed (s.opened v) <;> rfl

theorem found_eq_ok_iff :
    s.found v = .ok ws ↔ s.Opens v ∧ (Store.mk s.directory).listed (s.opened v) = .ok ws := by
  unfold Settings.found
  rcases s.opening_cases v with ⟨hopens, hopening⟩ | ⟨hclosed, e, hopening⟩
  · rw [hopening, ok_bind, and_iff_right hopens]
  · rw [hopening, error_bind]
    exact iff_of_false nofun fun h => hclosed h.1

/-- Where there is a record file, a list command changes nothing and comes to its content. -/
theorem found_of_read {bytes : ByteArray}
    (hread : v.files.read v.start (Store.mk s.directory).recordPath = .ok bytes) :
    s.opened v = v ∧ s.found v = s.config >>= fun _ => ofRecordFile (.ok bytes) := by
  have hthere := Tree.hasDirectory_of_read_join Store.recordFile_plain.1 Store.recordFile_plain.2 hread
  have hopened : s.opened v = v := Settings.opened_of_hasDirectory hthere
  refine ⟨hopened, ?_⟩
  rw [Settings.found, Settings.opening, Tree.makeDirectories_of_hasDirectory hthere, mapError_ok,
    ok_bind, hopened, Store.listed, hread]

/-! ## The end of a list -/

/-- Addresses in records are cut between characters. -/
theorem isSome_abbreviate_of_listed {store : Store} (h : store.listed v = .ok ws) :
    ∀ w ∈ ws, (Address.abbreviate w.address shortKeep).isSome = true := by
  intro w hw
  rw [Address.abbreviate_of_plain (Store.plain_of_listed h w hw) (by decide)]
  rfl

/-- A list of wallets ends with a line for each wallet, or with an error. It never breaks off at a
cut, as each address in a record is plain. -/
theorem listing_always_ends {environment : Environment} {arguments : List String}
    {directory node : Option String} (h : read arguments = .ok ⟨directory, node, .list short⟩)
    (fresh : SecretKey) (v : World) :
    let s := settings ⟨directory, node, .list short⟩ environment
    let store : Store := ⟨s.directory⟩
    let asked := (listing? s short).perform v
    let ended := (run environment fresh arguments).run v
    (ended.2 = asked.2 ∧
      ((∃ ws, store.listed ended.2 = .ok ws ∧ asked.1 = .ok (some (ws.map (shown short))) ∧
          ended.1 = ⟨0, Printing.linesText (ws.map (shown short)), ""⟩) ∨
        ∃ error, asked.1 = .error error ∧
          ended.1 = ⟨1, "", "error: " ++ error.message ++ "\n"⟩)) ∧
    (∀ bytes, v.files.read v.start store.recordPath = .ok bytes →
      asked = ((s.config >>= fun _ => ofRecordFile (.ok bytes)).map (·.mapM (shown? short)), v)) ∧
    (∀ u ws, store.list.perform u = (.ok ws, u) → ∀ w ∈ ws,
      (∀ c ∈ w.address.toList, c.toNat < 128) ∧
      (30 < w.address.utf8ByteSize →
        (⟨15⟩ : String.Pos.Raw).IsValid w.address ∧
          (⟨w.address.utf8ByteSize - 15⟩ : String.Pos.Raw).IsValid w.address) ∧
      shown? short w = some (shown short w) ∧ IsShown short w (shown short w)) ∧
    ∀ text keep, (∀ c ∈ text.toList, c.toNat < 128) → 2 * keep.toNat < UInt64.size →
      ∃ brief, Address.abbreviate text keep = some brief ∧
        Address.IsAbbreviation keep.toNat text brief := by
  intro s store asked ended
  have hasked : asked = ((s.found v).map (·.mapM (shown? short)), s.opened v) :=
    perform_list_bind s v _
  have hrequest : (request s fresh (.list short)).perform v =
      ((s.found v).map (·.map (shown short)), s.opened v) := perform_list_bind s v _
  have hended : ended = (reported ((request s fresh (.list short)).perform v).1,
      ((request s fresh (.list short)).perform v).2) := run_of_read h fresh v
  rw [hrequest] at hended
  refine ⟨?_, ?_, ?_, fun text keep => Address.exists_abbreviation_of_plain⟩
  · rw [hasked, hended]
    refine ⟨rfl, ?_⟩
    cases hfound : s.found v with
    | error error => exact .inr ⟨error, rfl, rfl⟩
    | ok ws =>
      have hlisted := (found_eq_ok_iff.mp hfound).2
      have hlines := mapM_shown?_of_plain short (Store.plain_of_listed hlisted)
      exact .inl ⟨ws, hlisted, congrArg Except.ok hlines, rfl⟩
  · intro bytes hread
    obtain ⟨hopened, hfound⟩ := found_of_read hread
    rw [hasked, hfound, hopened]
  · intro u ws hlist w hw
    have hlisted : store.listed u = .ok ws := (Prod.mk.inj hlist).1
    have hplain := Store.plain_of_listed hlisted w hw
    have hcuts := Address.isSome_abbreviate_iff.mp (isSome_abbreviate_of_listed hlisted w hw)
    exact ⟨hplain, hcuts, shown?_of_plain short hplain, isShown_of_plain short hplain⟩

/-- Two records with blanks of many kinds, the first with a long address. -/
def longAddressText : String :=
  "alice\tk1\u2028MFkwEwYHKoZIzj0CAQYIKoZIzj0DAQcDQgAE\r\n bob k2 QUJD"

theorem listing_always_ends_short :
    let fresh : SecretKey := ⟨1, by decide, by decide⟩
    let v := Store.fileWorld longAddressText
    read ["--dir", ".", "list", "--short"] = .ok ⟨some ".", none, .list true⟩ ∧
    ((run {} fresh ["--dir", ".", "list", "--short"]).run v).1 =
      ⟨0, "alice: MFkwEwYHKoZIzj0...oZIzj0DAQcDQgAE\nbob: QUJD\n", ""⟩ := by
  intro fresh v
  have hread : read ["--dir", ".", "list", "--short"] = .ok ⟨some ".", none, .list true⟩ := by
    decide +kernel
  have hfile : v.files.read [] (Store.mk ".").recordPath = .ok longAddressText.toUTF8 := by
    decide +kernel
  have hlines : (ofRecordFile (.ok longAddressText.toUTF8)).map (·.mapM (shown? true)) =
      .ok (some ["alice: MFkwEwYHKoZIzj0...oZIzj0DAQcDQgAE", "bob: QUJD"]) := by decide +kernel
  obtain ⟨⟨-, hends⟩, hbytes, -, -⟩ := @listing_always_ends true {} _ _ _ hread fresh v
  have hasked := (hbytes _ hfile).trans (congrArg (·, v) hlines)
  refine ⟨hread, ?_⟩
  rcases hends with ⟨ws, -, hlines', hended⟩ | ⟨error, herror, -⟩
  · rw [hasked] at hlines'
    rw [hended, ← Option.some.inj (Except.ok.inj hlines')]
    decide
  · rw [hasked] at herror
    cases herror

end UtxoWallet.CommandLine
