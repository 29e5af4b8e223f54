import UtxoWallet.Files.Fault
import UtxoWallet.Node.Call

/-! # Programs

What a program does to its surroundings is data: it asks for one thing at a time and goes on with
the answer. Each effect is one step that nothing can interrupt.
-/

namespace UtxoWallet

namespace Files

inductive Call where
  | read (path : String)
  /-- A directory, and those above it that are missing. -/
  | makeDirectories (path : String)
  /-- A new file, with its mode and content. -/
  | create (path : String) (mode : Nat) (content : ByteArray)
  | append (path : String) (content : ByteArray)
  | remove (path : String)

abbrev Call.Result : Call → Type
  | .read _ => ByteArray
  | .makeDirectories _ => Unit
  | .create _ _ _ => Unit
  | .append _ _ => Unit
  | .remove _ => Unit

abbrev Call.Answer (call : Call) : Type := Except Fault call.Result

end Files

inductive Effect where
  | file (call : Files.Call)
  | node (url : String) (call : Node.Call)

abbrev Effect.Answer : Effect → Type
  | .file call => call.Answer
  | .node _ call => call.Answer

inductive Program (α : Type) where
  | done (a : α)
  | ask (effect : Effect) (next : effect.Answer → Program α)

namespace Program

variable {α β γ : Type}

protected def bind : Program α → (α → Program β) → Program β
  | done a, f => f a
  | ask effect next, f => ask effect fun answer => (next answer).bind f

instance : Monad Program where
  pure := done
  bind := Program.bind

theorem bind_done (p : Program α) : p.bind done = p := by
  induction p with
  | done a => rfl
  | ask effect next ih =>
    rw [Program.bind]
    congr
    funext answer
    exact ih answer

theorem bind_assoc (p : Program α) (f : α → Program β) (g : β → Program γ) :
    (p.bind f).bind g = p.bind fun a => (f a).bind g := by
  induction p with
  | done a => rfl
  | ask effect next ih =>
    rw [Program.bind, Program.bind, Program.bind]
    congr
    funext answer
    exact ih answer

instance : LawfulMonad Program := LawfulMonad.mk' Program
  (fun p => bind_done p)
  (fun _ _ => rfl)
  (fun p f g => bind_assoc p f g)

def file (call : Files.Call) : Program call.Answer := ask (.file call) done

def node (url : String) (call : Node.Call) : Program call.Answer := ask (.node url call) done

end Program

end UtxoWallet
