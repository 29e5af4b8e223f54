import UtxoWallet.Proofs.Interleaving
import UtxoWallet.Proofs.Wallet.InStep

/-! # A wallet is made step by step -/

namespace UtxoWallet.Wallet

open Attempt Result Files Curve

/-! ## The next effect -/

namespace Store

variable {α : Type} (s : Store) (name : String) (v : World)

theorem advance_find_bind (f : Option Wallet → Attempt α) :
    (ExceptT.run (s.find name >>= f)).advance v =
      (ExceptT.run (ofExcept id (s.listed v) >>= fun ws => f (ws.find? (·.name == name))), v) := by
  show (ExceptT.run ((ExceptT.mk (pure (s.listed v)) >>= fun ws =>
    pure (ws.find? (·.name == name))) >>= f), v) = _
  cases s.listed v <;> rfl

theorem advance_tryCatch_find_bind (f : Option Wallet → Attempt α) (handle : Error → Attempt α) :
    (ExceptT.run (tryCatch (s.find name >>= f) handle)).advance v =
      (ExceptT.run (tryCatch (ofExcept id (s.listed v) >>= fun ws =>
        f (ws.find? (·.name == name))) handle), v) := by
  show (ExceptT.run (tryCatch ((ExceptT.mk (pure (s.listed v)) >>= fun ws =>
    pure (ws.find? (·.name == name))) >>= f) handle), v) = _
  cases s.listed v <;> rfl

end Store

/-! ## Phases -/

/-- How far a call has come that makes a wallet, with the bytes of the key file until it is written. -/
inductive Phase where
  | begun
  /-- The name is new. Next the directory is made. -/
  | checked (stored : ByteArray)
  /-- The directory is there. Next the key file is written. -/
  | ready (stored : ByteArray)
  /-- The key file is written. Next the records are read again. -/
  | written
  /-- The name is still new. Next the directory is made again. -/
  | confirmed
  /-- Next the record is added. -/
  | recording
  /-- There will be no record. Next the key file is removed. -/
  | discarding (e : Error)
  | ended (result : Except Error Wallet)

def Keystore.discard (k : Keystore) (w : Wallet) (e : Error) : Attempt Wallet := do
  let _ ← (Program.file (.remove (k.store.keyPath w)) : Program _)
  throw e

/-- What is left to do of a call. -/
def Phase.program (k : Keystore) (name : String) (secret : SecretKey) :
    Phase → Program (Except Error Wallet)
  | begun => (k.createWallet name secret).run
  | checked stored => ExceptT.run do
    Attempt.file (.makeDirectories k.store.directory)
    Attempt.file (.create (k.store.keyPath (ofSecret name secret)) keyFileMode stored)
    k.recordOrDiscard (k.store.keyPath (ofSecret name secret)) (ofSecret name secret)
  | ready stored => ExceptT.run do
    Attempt.file (.create (k.store.keyPath (ofSecret name secret)) keyFileMode stored)
    k.recordOrDiscard (k.store.keyPath (ofSecret name secret)) (ofSecret name secret)
  | written =>
    (k.recordOrDiscard (k.store.keyPath (ofSecret name secret)) (ofSecret name secret)).run
  | confirmed => ExceptT.run <| tryCatch (do
      Attempt.file (.makeDirectories k.store.directory)
      Attempt.file (.append k.store.recordPath (ofSecret name secret).record)
      return ofSecret name secret)
    (k.discard (ofSecret name secret))
  | recording => ExceptT.run <| tryCatch (do
      Attempt.file (.append k.store.recordPath (ofSecret name secret).record)
      return ofSecret name secret)
    (k.discard (ofSecret name secret))
  | discarding e => (k.discard (ofSecret name secret) e).run
  | ended result => pure result

def Phase.result? : Phase → Option (Except Error Wallet)
  | ended result => some result
  | _ => none

theorem Phase.result?_eq_some {p : Phase} {result : Except Error Wallet} :
    p.result? = some result ↔ p = .ended result := by
  cases p <;> simp [result?]

theorem Phase.result?_program {name : String} {p : Phase}
    (h : isName name = true ∨ ∃ result, p = .ended result) (k : Keystore) (secret : SecretKey) :
    (p.program k name secret).result? = p.result? := by
  cases p with
  | begun =>
    obtain hname : isName name = true := h.resolve_right nofun
    rw [program, Keystore.createWallet, hname, Bool.not_true, if_neg (by simp)]
    rfl
  | written =>
    obtain hname : isName name = true := h.resolve_right nofun
    rw [program, Keystore.recordOrDiscard, Store.create, check_ofSecret hname, ofExcept_ok_bind]
    rfl
  | _ => rfl

/-! ## Moves -/

/-- A protector that does nothing but turn a text into bytes, or refuse to. -/
def Protector.IsPure (p : Protector) : Prop :=
  ∀ pem, ∃ result : Except Error ByteArray, p.protect pem = ofExcept id result

theorem Protector.isPure_plain : Protector.plain.IsPure := fun pem => ⟨.ok pem.toUTF8, rfl⟩

/-- What one effect of a call does to it and to the world. -/
inductive Move (k : Keystore) (name : String) (secret : SecretKey) (v : World) :
    Phase → Phase → World → Prop
  | refused (e : Error) : Move k name secret v .begun (.ended (.error e)) v
  | checked {ws : List Wallet} {stored : ByteArray} (hws : k.store.listed v = .ok ws)
      (hnew : ¬∃ u ∈ ws, u.name = name)
      (hkey : k.readKey (ofSecret name secret) stored = .ok secret) :
      Move k name secret v .begun (.checked stored) v
  | unmade (stored : ByteArray) (e : Error) :
      Move k name secret v (.checked stored) (.ended (.error e))
        { v with files := v.files.withDirectories v.start k.store.directory }
  | made {stored : ByteArray} {files : Tree}
      (h : v.files.makeDirectories v.start k.store.directory = .ok files) :
      Move k name secret v (.checked stored) (.ready stored) { v with files }
  | taken (stored : ByteArray) (e : Error) :
      Move k name secret v (.ready stored) (.ended (.error e)) v
  | written {stored : ByteArray} {files : Tree}
      (h : v.files.create v.start (k.store.keyPath (ofSecret name secret)) keyFileMode stored =
        .ok files) :
      Move k name secret v (.ready stored) .written { v with files }
  | duplicate (e : Error) : Move k name secret v .written (.discarding e) v
  | confirmed : Move k name secret v .written .confirmed v
  | lost (e : Error) : Move k name secret v .confirmed (.discarding e)
      { v with files := v.files.withDirectories v.start k.store.directory }
  | again {files : Tree} (h : v.files.makeDirectories v.start k.store.directory = .ok files) :
      Move k name secret v .confirmed .recording { v with files }
  | unrecorded (e : Error) : Move k name secret v .recording (.discarding e) v
  | recorded {files : Tree}
      (h : v.files.append v.start k.store.recordPath (ofSecret name secret).record = .ok files) :
      Move k name secret v .recording (.ended (.ok (ofSecret name secret))) { v with files }
  | discarded (e : Error) : Move k name secret v (.discarding e) (.ended (.error e))
      (v.file (.remove (k.store.keyPath (ofSecret name secret)))).2
  | rest (result : Except Error Wallet) :
      Move k name secret v (.ended result) (.ended result) v

variable {k : Keystore} {name : String} {secret : SecretKey} {v : World}

theorem exists_move_of_begun (hpure : k.protector.IsPure) (hrecovers : k.protector.Recovers)
    (hname : isName name = true) (secret : SecretKey) (v : World) :
    ∃ p' v', (Phase.program k name secret .begun).advance v = (p'.program k name secret, v') ∧
      Move k name secret v .begun p' v' := by
  obtain ⟨result, hresult⟩ := hpure (Key.pem secret)
  rw [Phase.program, Keystore.createWallet, hname, Bool.not_true, if_neg (by simp),
    Store.advance_find_bind]
  cases hlisted : k.store.listed v with
  | error e => exact ⟨.ended (.error e), v, rfl, .refused e⟩
  | ok ws =>
    rw [ofExcept_ok_bind]
    by_cases hdup : (ws.find? (·.name == name)).isSome = true
    · rw [if_pos hdup]
      exact ⟨.ended (.error (.duplicateWallet name)), v, rfl, .refused _⟩
    · rw [if_neg hdup, hresult]
      cases result with
      | error e => exact ⟨.ended (.error e), v, rfl, .refused e⟩
      | ok stored =>
        have hprotect : (k.protector.protect (Key.pem secret)).perform v = (.ok stored, v) := by
          rw [hresult]
          rfl
        exact ⟨.checked stored, v, rfl,
          .checked hlisted (mt Store.find_isSome_iff.mpr hdup)
            (readKey_of_protect hrecovers hprotect name)⟩

theorem exists_move_of_written (hname : isName name = true) (k : Keystore) (secret : SecretKey)
    (v : World) :
    ∃ p' v', (Phase.program k name secret .written).advance v = (p'.program k name secret, v') ∧
      Move k name secret v .written p' v' := by
  rw [Phase.program, Keystore.recordOrDiscard, Store.create, check_ofSecret hname, ofExcept_ok_bind,
    Store.advance_tryCatch_find_bind]
  cases k.store.listed v with
  | error e => exact ⟨.discarding e, v, rfl, .duplicate e⟩
  | ok ws =>
    rw [ofExcept_ok_bind]
    split
    · exact ⟨.discarding (.duplicateWallet name), v, rfl, .duplicate _⟩
    · exact ⟨.confirmed, v, rfl, .confirmed⟩

/-- Each effect of a call makes one move. -/
theorem exists_move (hpure : k.protector.IsPure) (hrecovers : k.protector.Recovers)
    (hname : isName name = true) (secret : SecretKey) (v : World) (p : Phase) :
    ∃ p' v', (p.program k name secret).advance v = (p'.program k name secret, v') ∧
      Move k name secret v p p' v' := by
  cases p with
  | begun => exact exists_move_of_begun hpure hrecovers hname secret v
  | checked stored =>
    rw [Phase.program, advance_file_bind]
    cases hmade : v.files.makeDirectories v.start k.store.directory with
    | error fault =>
      refine ⟨.ended (.error (.io fault)), _, ?_, .unmade stored _⟩
      rw [World.file, hmade]
      rfl
    | ok files =>
      refine ⟨.ready stored, _, ?_, .made hmade⟩
      rw [World.file, hmade, Tree.withDirectories_of_ok hmade]
      rfl
  | ready stored =>
    rw [Phase.program, advance_file_bind, World.file]
    cases hcreated : v.files.create v.start (k.store.keyPath (ofSecret name secret)) keyFileMode
        stored with
    | error fault => exact ⟨.ended (.error (.io fault)), v, rfl, .taken stored _⟩
    | ok files => exact ⟨.written, _, rfl, .written hcreated⟩
  | written => exact exists_move_of_written hname k secret v
  | confirmed =>
    rw [Phase.program, advance_tryCatch_file_bind]
    cases hmade : v.files.makeDirectories v.start k.store.directory with
    | error fault =>
      refine ⟨.discarding (.io fault), _, ?_, .lost _⟩
      rw [World.file, hmade]
      rfl
    | ok files =>
      refine ⟨.recording, _, ?_, .again hmade⟩
      rw [World.file, hmade, Tree.withDirectories_of_ok hmade]
      rfl
  | recording =>
    rw [Phase.program, advance_tryCatch_file_bind, World.file]
    cases happended : v.files.append v.start k.store.recordPath (ofSecret name secret).record with
    | error fault => exact ⟨.discarding (.io fault), v, rfl, .unrecorded _⟩
    | ok files => exact ⟨.ended (.ok (ofSecret name secret)), _, rfl, .recorded happended⟩
  | discarding e => exact ⟨.ended (.error e), _, rfl, .discarded e⟩
  | ended result => exact ⟨.ended result, v, rfl, .rest result⟩

end UtxoWallet.Wallet
