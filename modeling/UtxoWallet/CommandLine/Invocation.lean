import UtxoWallet.Files.Path
import UtxoWallet.Text.Blank

/-! # Commands and where they run

What the command line leaves open is looked up in the environment.
-/

namespace UtxoWallet.CommandLine

/-! ## Commands -/

inductive Command where
  | list (short : Bool)
  | create (name : String)
  | mine (wallet : String)
  | balance (wallet : String)
  | transfer (sender recipient : String) (amount : Int64)
deriving DecidableEq, Repr

/-- A command, and what was said before it about where to run it. -/
structure Invocation where
  directory : Option String
  node : Option String
  command : Command
deriving DecidableEq, Repr

/-! ## Settings -/

structure Environment where
  /-- The home directory, if there is one. -/
  home : Option String := none
  directory : Option String := none
  node : Option String := none
deriving DecidableEq, Repr

/-- The home directory that a variable names, or else that of the account. An empty one is none. -/
def homeDirectory? (named account : Option String) : Option String :=
  (named.filter (!·.isEmpty)).or (account.filter (!·.isEmpty))

def homeVariable : String := "HOME"

def directoryVariable : String := "BUENZLI_DIR"

def nodeVariable : String := "BUENZLI_NODE"

/-- The wallet directory in the home directory. -/
def directoryName : String := ".buenzli"

structure Settings where
  directory : String
  node : Option String
deriving DecidableEq, Repr

/-- Who has no home is at home where the command runs. -/
def Environment.defaultDirectory (e : Environment) : String :=
  Files.Path.join (e.home.getD ".") directoryName

/-- A node whose address is blank is no node. -/
def settings (i : Invocation) (e : Environment) : Settings where
  directory := (i.directory.or e.directory).getD e.defaultDirectory
  node := (i.node.or e.node).filter fun node => !(Text.trim node).isEmpty

end UtxoWallet.CommandLine
