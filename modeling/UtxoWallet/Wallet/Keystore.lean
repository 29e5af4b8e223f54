import UtxoWallet.Key.File
import UtxoWallet.Wallet.Store

/-! # Wallets and their key files

A protector turns the text of a key into the bytes of its file, and back. The key file is written
before the record, and removed again if the record cannot be written. So no record is without its
key.
-/

namespace UtxoWallet.Wallet

open Curve

/-! ## Protectors -/

structure Protector where
  protect : (pem : String) → Attempt ByteArray
  unprotect : (stored : ByteArray) → Except Error String

def textOf (stored : ByteArray) : Except Error String :=
  (String.fromUTF8? stored).elim (.error (.keyDecode .notText)) .ok

/-- Keeps the text as it is. -/
def Protector.plain : Protector where
  protect pem := pure pem.toUTF8
  unprotect := textOf

/-! ## Key files -/

structure Keystore where
  store : Store
  protector : Protector

/-- How the name of a key file begins. The wallet's name follows. -/
def keyFileStart : String := "id_ecdsa_"

/-- Only the owner may use a key file. -/
def keyFileMode : Nat := 0o600

namespace Keystore

variable (k : Keystore)

def list : Attempt (List Wallet) := k.store.list

/-- The wallet with this name, which has to be there. -/
def wallet (name : String) : Attempt Wallet := do
  match ← k.store.find name with
  | some w => return w
  | none => throw (.walletNotFound name)

/-! ## New wallets -/

/-- Records a wallet whose key file is written. If that fails, the file is removed, and only the
first failure is told. -/
def recordOrDiscard (keyPath : String) (w : Wallet) : Attempt Wallet :=
  tryCatch (k.store.create w) fun error => do
    let _ ← (Program.file (.remove keyPath) : Program _)
    throw error

/-- A wallet with this name for a secret that nobody has used yet. -/
def createWallet (name : String) (secret : SecretKey) : Attempt Wallet := do
  if !isName name then throw (.invalidName name)
  if (← k.store.find name).isSome then throw (.duplicateWallet name)
  let stored ← k.protector.protect (Key.pem secret)
  let w : Wallet := ⟨name, keyFileStart ++ name, Key.address secret.point⟩
  Attempt.file (.makeDirectories k.store.directory)
  Attempt.file (.create (k.store.keyPath w) keyFileMode stored)
  k.recordOrDiscard (k.store.keyPath w) w

/-! ## Keys -/

def readKey (w : Wallet) (stored : ByteArray) : Except Error SecretKey := do
  let pem ← k.protector.unprotect stored
  let secret ← (Key.ofPem pem).mapError .keyDecode
  if Key.address secret.point ≠ w.address then throw (.keyMismatch w.name)
  return secret

def loadKey (w : Wallet) : Attempt SecretKey := do
  let stored ← Attempt.file (.read (k.store.keyPath w))
  Attempt.ofExcept id (k.readKey w stored)

end Keystore

end UtxoWallet.Wallet
