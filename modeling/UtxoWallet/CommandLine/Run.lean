import UtxoWallet.CommandLine.Grammar
import UtxoWallet.CommandLine.Invocation
import UtxoWallet.Wallet.Client

/-! # Running commands

A command asks for one thing after the other, and prints lines where it has something to tell.
-/

namespace UtxoWallet.CommandLine

open Curve Wallet

/-! ## What commands need -/

/-- The wallet directory, made if it is missing, and the node if there is one. -/
def openConfig (s : Settings) : Attempt Config := do
  let config : Config := { directory := s.directory }
  config.ensureDirectory
  match s.node with
  | some node => Attempt.ofExcept id (config.withNode node)
  | none => return config

def openKeystore (s : Settings) : Attempt Keystore := do
  return (← openConfig s).keystore

def nodeHint : String := "set " ++ nodeVariable ++ " or pass --node"

def openClient (s : Settings) : Attempt Client := do
  let config ← openConfig s
  let node ← Attempt.ofExcept id (config.nodeOr nodeHint)
  let node ← Attempt.ofExcept .network node.normal
  return ⟨config.keystore, node.url⟩

/-! ## Printing -/

/-- An attempt that prints lines as it goes. What is printed stays so if it fails later. -/
abbrev Printing (α : Type) := ExceptT Wallet.Error (StateT String Program) α

namespace Printing

def attempt {α : Type} (a : Attempt α) : Printing α := ExceptT.mk (StateT.lift a.run)

def line (text : String) : Printing Unit := modify (· ++ (text ++ "\n"))

end Printing

/-! ## Commands -/

open Printing (attempt line)

/-- How many characters are kept at either end of a short address. -/
def shortKeep : UInt64 := 15

/-- Addresses in records are plain, so that no cut goes wrong. -/
def shown (short : Bool) (w : Wallet) : String :=
  let address :=
    if short then (Address.abbreviate w.address shortKeep).getD w.address else w.address
  s!"{w.name}: {address}"

/-- An amount to send, which is positive. -/
def sent? (amount : Int64) : Except Wallet.Error UInt64 :=
  if 0 < amount then .ok amount.toUInt64 else .error .invalidAmount

/-- Does what is commanded. The secret is for a wallet that may be created. -/
def carryOut (s : Settings) (fresh : SecretKey) : Command → Printing Unit
  | .list short => do
    let keystore ← attempt (openKeystore s)
    let wallets ← attempt keystore.list
    wallets.forM fun w => line (shown short w)
  | .create name => do
    let keystore ← attempt (openKeystore s)
    let w ← attempt (keystore.createWallet name fresh)
    line (shown false w)
  | .mine wallet => do
    let client ← attempt (openClient s)
    attempt (client.mineInto wallet)
  | .balance wallet => do
    let client ← attempt (openClient s)
    let balance ← attempt (client.balance wallet)
    line s!"{balance}"
  | .transfer sender recipient amount => do
    let amount ← attempt (.ofExcept id (sent? amount))
    let client ← attempt (openClient s)
    let tx ← attempt (client.transfer sender recipient amount)
    line tx.hash

/-- What a command prints if it succeeds. -/
def answer (s : Settings) (fresh : SecretKey) (command : Command) : Attempt String :=
  ExceptT.mk ((fun p => p.1.map fun _ => p.2) <$> (carryOut s fresh command).run.run "")

/-! ## Reports -/

structure Report where
  exit : UInt8
  stdout : String
  stderr : String
deriving DecidableEq, Repr

/-- A failure is told behind what is already printed. -/
def Report.of : Except Wallet.Error Unit × String → Report
  | (.ok (), printed) => ⟨0, printed, ""⟩
  | (.error error, printed) => ⟨1, printed, s!"error: {error.message}\n"⟩

def usageText : String :=
  "usage: bwallet [--dir DIR] [--node NODE] COMMAND\n\n" ++
  "  list [--short]\n  create --name NAME\n  mine --to WALLET\n  balance --of WALLET\n" ++
  "  transfer --from WALLET --to ADDRESS --amount AMOUNT\n"

def Report.ofStop : Stop → Report
  | .help => ⟨0, usageText, ""⟩
  | .version => ⟨0, "bwallet 0.1.0\n", ""⟩
  | .usage => ⟨2, "", usageText⟩

def run (e : Environment) (fresh : SecretKey) (arguments : List String) : Program Report :=
  match read arguments with
  | .error stop => return .ofStop stop
  | .ok invocation =>
    Report.of <$> (carryOut (settings invocation e) fresh invocation.command).run.run ""

end UtxoWallet.CommandLine
