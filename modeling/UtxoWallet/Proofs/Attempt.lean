import UtxoWallet.Proofs.Result
import UtxoWallet.Wallet.Attempt
import UtxoWallet.World

/-! # Attempts in a world, one step at a time -/

namespace UtxoWallet

/-- These files from the root on, and a node that takes everything and lists these outputs. -/
def World.atRoot (files : Files.Tree) (unspent : List Ledger.Unspent) : World where
  files
  start := []
  node _ _
    | .unspent => .ok unspent
    | .submit _ => .ok ()
    | .block _ => .ok ()
  asked := []

namespace Attempt

variable {α β ε : Type} {w v : World}

/-- How an attempt ends, and the world that it leaves. -/
def perform (a : Attempt α) (w : World) : Except Wallet.Error α × World := (ExceptT.run a).run w

/-! ## Steps -/

@[simp] theorem perform_pure (a : α) (w : World) :
    perform (pure a) w = (.ok a, w) := rfl

@[simp] theorem perform_throw (e : Wallet.Error) (w : World) :
    perform (throw e : Attempt α) w = (.error e, w) := rfl

@[simp] theorem perform_ofExcept (tell : ε → Wallet.Error) (result : Except ε α) (w : World) :
    perform (ofExcept tell result) w = (result.mapError tell, w) := rfl

@[simp] theorem perform_file (call : Files.Call) (w : World) :
    perform (file call) w = ((w.file call).1.mapError .io, (w.file call).2) := rfl

@[simp] theorem perform_node (url : String) (call : Node.Call) (w : World) :
    perform (node url call) w = ((w.node w.asked url call).mapError .network,
      { w with asked := w.asked ++ [⟨url, call⟩] }) := rfl

/-! ## Sequences -/

theorem perform_bind_ok {a : Attempt α} {x : α} (h : perform a w = (.ok x, v))
    (f : α → Attempt β) : perform (a >>= f) w = perform (f x) v := by
  rw [perform] at h
  rw [perform, ExceptT.run_bind, Program.run_bind, h]
  rfl

theorem perform_bind_error {a : Attempt α} {e : Wallet.Error} (h : perform a w = (.error e, v))
    (f : α → Attempt β) : perform (a >>= f) w = (.error e, v) := by
  rw [perform] at h
  rw [perform, ExceptT.run_bind, Program.run_bind, h]
  rfl

theorem perform_bind_pure (a : Attempt α) (f : α → β) (w : World) :
    perform (a >>= fun x => pure (f x)) w = ((perform a w).1.map f, (perform a w).2) := by
  rcases h : perform a w with ⟨result, v⟩
  cases result with
  | error e => exact perform_bind_error h _
  | ok x => exact perform_bind_ok h _

/-- A sequence ends well exactly when each step does. -/
theorem perform_bind_eq_ok {a : Attempt α} {f : α → Attempt β} {b : β} :
    perform (a >>= f) w = (.ok b, v) ↔
      ∃ x u, perform a w = (.ok x, u) ∧ perform (f x) u = (.ok b, v) := by
  rcases h : perform a w with ⟨result, u⟩
  cases result with
  | error e => simp [perform_bind_error h]
  | ok x =>
    rw [perform_bind_ok h]
    constructor
    · intro hf
      exact ⟨x, u, rfl, hf⟩
    · rintro ⟨x, u, ⟨⟩, hf⟩
      exact hf

/-- What follows a refusal happens exactly when nothing is refused. -/
theorem perform_unless_eq_ok {c : Prop} [Decidable c] {e : Wallet.Error} {f : α → Attempt β}
    {a : Attempt β} {b : β} :
    perform (if c then throw e >>= f else a) w = (.ok b, v) ↔ ¬c ∧ perform a w = (.ok b, v) := by
  split
  · next hc => simp [hc]
  · next hc => simp [hc]

/-- A sequence fails exactly when its first step does, or the rest after it. -/
theorem perform_bind_eq_error {a : Attempt α} {f : α → Attempt β} {e : Wallet.Error} :
    perform (a >>= f) w = (.error e, v) ↔
      perform a w = (.error e, v) ∨
        ∃ x u, perform a w = (.ok x, u) ∧ perform (f x) u = (.error e, v) := by
  rcases h : perform a w with ⟨result, u⟩
  cases result with
  | error e' => simp [perform_bind_error h]
  | ok x =>
    rw [perform_bind_ok h]
    constructor
    · intro hf
      exact .inr ⟨x, u, rfl, hf⟩
    · rintro (⟨⟨⟩⟩ | ⟨x, u, ⟨⟩, hf⟩)
      exact hf

theorem perform_unless_eq_error {c : Prop} [Decidable c] {e e' : Wallet.Error}
    {f : α → Attempt β} {a : Attempt β} :
    perform (if c then throw e >>= f else a) w = (.error e', v) ↔
      c ∧ e' = e ∧ v = w ∨ ¬c ∧ perform a w = (.error e', v) := by
  split
  · next hc =>
    rw [perform_bind_error (perform_throw e w)]
    simp [hc, eq_comm]
  · next hc => simp [hc]

/-- What is done after a failure starts in the world that the failure left. -/
theorem perform_tryCatch_ok {a : Attempt α} {x : α} (h : perform a w = (.ok x, v))
    (handle : Wallet.Error → Attempt α) : perform (tryCatch a handle) w = (.ok x, v) := by
  rw [perform] at h
  show ((ExceptT.run a >>= _ : Program _).run w) = _
  rw [Program.run_bind, h]
  rfl

theorem perform_tryCatch_error {a : Attempt α} {e : Wallet.Error}
    (h : perform a w = (.error e, v)) (handle : Wallet.Error → Attempt α) :
    perform (tryCatch a handle) w = perform (handle e) v := by
  rw [perform] at h
  show ((ExceptT.run a >>= _ : Program _).run w) = _
  rw [Program.run_bind, h]
  rfl

/-! ## Changes of files -/

theorem changed_eq_ok {result : Except Files.Fault Files.Tree} {u : Unit} :
    ((w.changed result).1.mapError Wallet.Error.io, (w.changed result).2) = (.ok u, v) ↔
      ∃ files, result = .ok files ∧ v = { w with files } := by
  cases result with
  | error fault => simp [World.changed]
  | ok files => simp [World.changed, eq_comm]

theorem changed_eq_error {result : Except Files.Fault Files.Tree} {e : Wallet.Error} :
    ((w.changed result).1.mapError Wallet.Error.io, (w.changed result).2) = (.error e, v) ↔
      ∃ fault, result = .error fault ∧ e = .io fault ∧ v = w := by
  cases result with
  | error fault => simp [World.changed, eq_comm]
  | ok files => simp [World.changed]

theorem perform_makeDirectories_eq_ok {path : String} {u : Unit} :
    perform (file (.makeDirectories path)) w = (.ok u, v) ↔
      ∃ files, w.files.makeDirectories w.start path = .ok files ∧ v = { w with files } := by
  rw [perform_file, World.file]
  cases hmade : w.files.makeDirectories w.start path with
  | error fault => simp [Except.map]
  | ok files => simp [Except.map, Files.Tree.withDirectories_of_ok hmade, eq_comm]

theorem perform_makeDirectories_eq_error {path : String} {e : Wallet.Error} :
    perform (file (.makeDirectories path)) w = (.error e, v) ↔
      ∃ fault, w.files.makeDirectories w.start path = .error fault ∧ e = .io fault ∧
        v = { w with files := w.files.withDirectories w.start path } := by
  rw [perform_file, World.file]
  cases w.files.makeDirectories w.start path <;> simp [Except.map, eq_comm]

theorem perform_createFile_eq_ok {path : String} {mode : Nat} {content : ByteArray} {u : Unit} :
    perform (file (.create path mode content)) w = (.ok u, v) ↔
      ∃ files, w.files.create w.start path mode content = .ok files ∧ v = { w with files } :=
  changed_eq_ok

theorem perform_createFile_eq_error {path : String} {mode : Nat} {content : ByteArray}
    {e : Wallet.Error} :
    perform (file (.create path mode content)) w = (.error e, v) ↔
      ∃ fault, w.files.create w.start path mode content = .error fault ∧ e = .io fault ∧ v = w :=
  changed_eq_error

theorem perform_append_eq_ok {path : String} {content : ByteArray} {u : Unit} :
    perform (file (.append path content)) w = (.ok u, v) ↔
      ∃ files, w.files.append w.start path content = .ok files ∧ v = { w with files } :=
  changed_eq_ok

theorem perform_append_eq_error {path : String} {content : ByteArray} {e : Wallet.Error} :
    perform (file (.append path content)) w = (.error e, v) ↔
      ∃ fault, w.files.append w.start path content = .error fault ∧ e = .io fault ∧ v = w :=
  changed_eq_error

/-! ## Attempts that change no file -/

/-- All that an attempt does to a world is to ask its node. -/
def OnlyAsks (a : Attempt α) : Prop := ∀ v, ∃ asked, (perform a v).2 = { v with asked }

theorem onlyAsks_pure (a : α) : OnlyAsks (pure a) := fun v => ⟨v.asked, rfl⟩

theorem onlyAsks_throw (e : Wallet.Error) : OnlyAsks (throw e : Attempt α) := fun v => ⟨v.asked, rfl⟩

theorem onlyAsks_ofExcept (tell : ε → Wallet.Error) (result : Except ε α) :
    OnlyAsks (ofExcept tell result) := fun v => ⟨v.asked, rfl⟩

theorem onlyAsks_read (path : String) : OnlyAsks (file (.read path)) := fun v => ⟨v.asked, rfl⟩

theorem onlyAsks_node (url : String) (call : Node.Call) : OnlyAsks (node url call) :=
  fun _ => ⟨_, rfl⟩

theorem onlyAsks_bind {a : Attempt α} {f : α → Attempt β} (ha : OnlyAsks a)
    (hf : ∀ x, OnlyAsks (f x)) : OnlyAsks (a >>= f) := by
  intro v
  obtain ⟨asked, hasked⟩ := ha v
  cases h : (perform a v).1 with
  | error e => exact ⟨asked, by rw [perform_bind_error (Prod.ext h hasked)]⟩
  | ok x =>
    obtain ⟨asked', hasked'⟩ := hf x { v with asked }
    exact ⟨asked', by rw [perform_bind_ok (Prod.ext h hasked), hasked']⟩

end Attempt

end UtxoWallet
