import UtxoWallet.Files.Path
import UtxoWallet.Ledger.Address
import UtxoWallet.Text.Blank
import UtxoWallet.Text.Pieces
import UtxoWallet.Wallet.Attempt

/-! # Wallets and the record file

A record is a line with the name, the key file and the address of a wallet, one blank between them.
A reader takes any blanks. The record file has one record a line, in the order in which the wallets
came. Records are added at the end and never changed. A bad line spoils the whole file.
-/

namespace UtxoWallet

structure Wallet where
  name : String
  keyRef : String
  address : String
deriving DecidableEq, Repr

namespace Wallet

def isName (name : String) : Bool := !name.isEmpty && name.toList.all Char.isAlphanum

def isKeyRef (keyRef : String) : Bool := !keyRef.isEmpty && !Text.hasBlank keyRef

def line (w : Wallet) : String := w.name ++ " " ++ w.keyRef ++ " " ++ w.address

def ofWords : List (List Char) → Option Wallet
  | [name, keyRef, address] =>
    if isName (String.ofList name) ∧ address.all Address.isBase64 then
      some ⟨String.ofList name, String.ofList keyRef, String.ofList address⟩
    else none
  | _ => none

def ofLine? (line : List Char) : Option Wallet := ofWords (Text.words line)

/-! ## Stores -/

structure Store where
  directory : String
deriving DecidableEq, Repr

def recordFile : String := "wallets"

/-! ## The content of the file -/

/-- The wallets in these lines, the first of which has a number. -/
def ofLines : (number : Nat) → List (List Char) → Except Error (List Wallet)
  | _, [] => .ok []
  | number, l :: ls =>
    match ofLine? l with
    | none => .error (.malformedRecord number (String.ofList l))
    | some w => (ofLines (number + 1) ls).map (w :: ·)

def ofRecords (text : String) : Except Error (List Wallet) := ofLines 1 (Text.lines text.toList)

/-- The wallets in the bytes of a record file. A missing file holds none. -/
def ofRecordFile : Except Files.Fault ByteArray → Except Error (List Wallet)
  | .error .notFound => .ok []
  | .error fault => .error (.io fault)
  | .ok bytes =>
    match String.fromUTF8? bytes with
    | none => .error (.io .notText)
    | some text => ofRecords text

def record (w : Wallet) : ByteArray := (w.line ++ "\n").toUTF8

namespace Store

variable (s : Store)

def recordPath : String := Files.Path.join s.directory recordFile

def keyPath (w : Wallet) : String := Files.Path.join s.directory w.keyRef

/-! ## Reading -/

def list : Attempt (List Wallet) :=
  ExceptT.mk (ofRecordFile <$> Program.file (.read s.recordPath))

def find (name : String) : Attempt (Option Wallet) := do
  return (← s.list).find? (·.name == name)

/-! ## Adding -/

/-- What can be said against a record without a look at the file. -/
def check (w : Wallet) : Except Error Unit :=
  if !isName w.name then .error (.invalidName w.name)
  else if !isKeyRef w.keyRef then .error (.invalidKeyRef w.keyRef)
  else (Address.check w.address).mapError .invalidAddress

def create (w : Wallet) : Attempt Wallet := do
  Attempt.ofExcept id (check w)
  if (← s.find w.name).isSome then throw (.duplicateWallet w.name)
  Attempt.file (.makeDirectories s.directory)
  Attempt.file (.append s.recordPath w.record)
  return w

end Store

end Wallet

end UtxoWallet
