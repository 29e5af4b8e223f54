import Mathlib.Logic.Function.Basic
import UtxoWallet.Proofs.Attempt

/-! # Programs that run side by side

They share one world. Each step of the whole is one effect of one of them.
-/

namespace UtxoWallet

variable {ι α β : Type}

/-- A program after its next effect. One that has ended stays as it is. -/
def Program.advance : Program α → World → Program α × World
  | .done a, v => (.done a, v)
  | .ask effect next, v => (next (v.answer effect).1, (v.answer effect).2)

/-- What a program has come to, if it has ended. -/
def Program.result? : Program α → Option α
  | .done a => some a
  | .ask _ _ => none

structure Running (ι α : Type) where
  programs : ι → Program α
  world : World

namespace Running

def result? (r : Running ι α) (i : ι) : Option α := (r.programs i).result?

variable [DecidableEq ι]

def advance (r : Running ι α) (i : ι) : Running ι α :=
  let (program, world) := (r.programs i).advance r.world
  ⟨Function.update r.programs i program, world⟩

/-- The schedule tells whose turn it is. -/
def after (r : Running ι α) (schedule : List ι) : Running ι α := schedule.foldl advance r

/-- What each effect keeps is there after any number of them. -/
theorem after_invariant {P : Running ι α → Prop} (hstep : ∀ r i, P r → P (r.advance i))
    {r : Running ι α} (h : P r) (schedule : List ι) : P (r.after schedule) := by
  induction schedule generalizing r with
  | nil => exact h
  | cons i schedule ih => exact ih (hstep r i h)

end Running

/-! ## The next effect of an attempt -/

namespace Attempt

variable {ε : Type}

@[simp] theorem ofExcept_ok_bind (tell : ε → Wallet.Error) (x : α) (f : α → Attempt β) :
    (ofExcept tell (.ok x) >>= f) = f x := rfl

theorem advance_file_bind (call : Files.Call) (f : call.Result → Attempt α) (v : World) :
    (ExceptT.run (file call >>= f)).advance v =
      (ExceptT.run (ofExcept .io (v.file call).1 >>= f), (v.file call).2) := rfl

theorem advance_tryCatch_file_bind (call : Files.Call) (f : call.Result → Attempt α)
    (handle : Wallet.Error → Attempt α) (v : World) :
    (ExceptT.run (tryCatch (file call >>= f) handle)).advance v =
      (ExceptT.run (tryCatch (ofExcept .io (v.file call).1 >>= f) handle), (v.file call).2) := rfl

end Attempt

end UtxoWallet
