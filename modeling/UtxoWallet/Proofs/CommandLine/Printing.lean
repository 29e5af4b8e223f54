import UtxoWallet.CommandLine.Run
import UtxoWallet.Proofs.Attempt

/-! # Commands print last

All that can fail in a command is done before its first line is printed.
-/

namespace UtxoWallet.CommandLine

open Attempt Wallet Curve

/-! ## What printing does -/

namespace Printing

variable {α β : Type} {w v : World} {printed after : String}

/-- How printing ends, all that is printed then, and the world that it leaves. -/
def perform (p : Printing α) (printed : String) (w : World) :
    (Except Wallet.Error α × String) × World := (p.run.run printed).run w

@[simp] theorem perform_pure (a : α) (printed : String) (w : World) :
    perform (pure a) printed w = ((.ok a, printed), w) := rfl

@[simp] theorem perform_line (text printed : String) (w : World) :
    perform (line text) printed w = ((.ok (), printed ++ (text ++ "\n")), w) := rfl

@[simp] theorem perform_attempt (a : Attempt α) (printed : String) (w : World) :
    perform (attempt a) printed w = (((a.perform w).1, printed), (a.perform w).2) := by
  show (a.run >>= fun result => pure (result, printed) : Program _).run w = _
  rw [Program.run_bind]
  rfl

theorem perform_bind_ok {p : Printing α} {x : α} (h : perform p printed w = ((.ok x, after), v))
    (f : α → Printing β) : perform (p >>= f) printed w = perform (f x) after v := by
  rw [perform] at h
  rw [perform, ExceptT.run_bind, StateT.run_bind, Program.run_bind, h]
  rfl

theorem perform_bind_error {p : Printing α} {e : Wallet.Error}
    (h : perform p printed w = ((.error e, after), v)) (f : α → Printing β) :
    perform (p >>= f) printed w = ((.error e, after), v) := by
  rw [perform] at h
  rw [perform, ExceptT.run_bind, StateT.run_bind, Program.run_bind, h]
  rfl

/-! ## Lines at the end -/

/-- These lines, each with its end. -/
def linesText (lines : List String) : String := String.join (lines.map (· ++ "\n"))

/-- What is told when an attempt has ended: its lines, or nothing and why it failed. -/
def told (printed : String) : Except Wallet.Error (List String) → Except Wallet.Error Unit × String
  | .ok lines => (.ok (), printed ++ linesText lines)
  | .error e => (.error e, printed)

/-- Does what an attempt does, and prints the lines that come of it at the end. -/
def Tells (p : Printing Unit) (a : Attempt (List String)) : Prop :=
  ∀ printed v, perform p printed v = (told printed (a.perform v).1, (a.perform v).2)

theorem linesText_cons (text : String) (lines : List String) :
    linesText (text :: lines) = text ++ "\n" ++ linesText lines := by
  rw [linesText, List.map_cons, String.join_cons]
  rfl

theorem tells_pure : Tells (pure ()) (pure []) := by
  intro printed v
  simp [told, linesText]

theorem tells_line (text : String) : Tells (line text) (pure [text]) := by
  intro printed v
  simp [told, linesText]

theorem tells_forM (f : α → String) (as : List α) :
    Tells (as.forM fun a => line (f a)) (pure (as.map f)) := by
  intro printed v
  induction as generalizing printed with
  | nil => exact tells_pure printed v
  | cons a as ih =>
    rw [List.forM_eq_forM, List.forM_cons, perform_bind_ok (perform_line _ _ _), ← List.forM_eq_forM,
      ih]
    simp only [Attempt.perform_pure, told, List.map_cons, linesText_cons, String.append_assoc]

/-- Attempts may come before what is told, and lines after them only. -/
theorem tells_bind (a : Attempt α) {f : α → Printing Unit} {g : α → Attempt (List String)}
    (h : ∀ x, Tells (f x) (g x)) : Tells (attempt a >>= f) (a >>= g) := by
  intro printed v
  rcases ha : a.perform v with ⟨result, u⟩
  cases result with
  | error e =>
    rw [Attempt.perform_bind_error ha, perform_bind_error (by rw [perform_attempt, ha])]
    rfl
  | ok x => rw [Attempt.perform_bind_ok ha, perform_bind_ok (by rw [perform_attempt, ha]), h]

end Printing

end UtxoWallet.CommandLine
