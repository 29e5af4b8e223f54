import UtxoWallet.Program
import UtxoWallet.Wallet.Error

/-! # Attempts

An attempt is a program that may fail with an error of the wallet.
-/

namespace UtxoWallet

abbrev Attempt (α : Type) := ExceptT Wallet.Error Program α

namespace Attempt

variable {α ε : Type}

/-- A result that asks for nothing. -/
def ofExcept (tell : ε → Wallet.Error) (result : Except ε α) : Attempt α :=
  ExceptT.mk (pure (result.mapError tell))

def file (call : Files.Call) : Attempt call.Result :=
  ExceptT.mk ((·.mapError .io) <$> Program.file call)

def node (url : String) (call : Node.Call) : Attempt call.Result :=
  ExceptT.mk ((·.mapError .network) <$> Program.node url call)

end Attempt

end UtxoWallet
