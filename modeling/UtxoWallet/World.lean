import UtxoWallet.Files.Tree
import UtxoWallet.Program

/-! # A world to run programs in

Files, and a node that answers as it likes. The node knows what it was asked before. Every question
to it comes to an end, be it a failure.
-/

namespace UtxoWallet

structure Asked where
  url : String
  call : Node.Call
deriving DecidableEq, Repr

structure World where
  files : Files.Tree
  /-- Where relative paths begin. -/
  start : Files.Location
  node : (before : List Asked) → (url : String) → (call : Node.Call) → call.Answer
  /-- All that the node was asked so far, the first question first. -/
  asked : List Asked

namespace World

/-- Takes over a changed tree, if there is one. -/
def changed (w : World) : Except Files.Fault Files.Tree → Except Files.Fault Unit × World
  | .ok files => (.ok (), { w with files })
  | .error fault => (.error fault, w)

def file (w : World) : (call : Files.Call) → call.Answer × World
  | .read path => (w.files.read w.start path, w)
  | .makeDirectories path =>
    ((w.files.makeDirectories w.start path).map fun _ => (),
      { w with files := w.files.withDirectories w.start path })
  | .create path mode content => w.changed (w.files.create w.start path mode content)
  | .append path content => w.changed (w.files.append w.start path content)
  | .remove path => w.changed (w.files.remove w.start path)

def answer (w : World) : (effect : Effect) → effect.Answer × World
  | .file call => w.file call
  | .node url call => (w.node w.asked url call, { w with asked := w.asked ++ [⟨url, call⟩] })

end World

def Program.run {α : Type} : Program α → World → α × World
  | .done a, w => (a, w)
  | .ask effect next, w => (next (w.answer effect).1).run (w.answer effect).2

namespace Program

variable {α β : Type}

@[simp] theorem run_pure (a : α) (w : World) : (pure a : Program α).run w = (a, w) := rfl

@[simp] theorem run_bind (p : Program α) (f : α → Program β) (w : World) :
    (p >>= f).run w = (f (p.run w).1).run (p.run w).2 := by
  show (p.bind f).run w = _
  induction p generalizing w with
  | done a => rfl
  | ask effect next ih => exact ih _ _

end Program

end UtxoWallet
