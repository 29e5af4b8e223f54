import UtxoWallet.Curve.SecretKey
import UtxoWallet.Digest.Sha256

/-! # Nonces

A signature's nonce is drawn from the secret and the digest alone, so that the same message has the
same signature each time.
-/

namespace UtxoWallet.Curve.Nonce

structure Generator where
  key : List UInt8
  value : List UInt8
deriving DecidableEq, Repr

namespace Generator

def next (g : Generator) : Generator := { g with value := Hmac.mac g.key g.value }

/-- Works `input` into the state after a byte that tells the step. -/
def mix (g : Generator) (step : UInt8) (input : List UInt8) : Generator :=
  next { g with key := Hmac.mac g.key (g.value ++ step :: input) }

def seeded (input : List UInt8) : Generator :=
  ((⟨List.replicate 32 0, List.replicate 32 1⟩ : Generator).mix 0 input).mix 1 input

end Generator

/-- The first value in range among the next `tries`. -/
def draw : (tries : Nat) → Generator → Option SecretKey
  | 0, _ => none
  | tries + 1, g =>
    match SecretKey.ofNat? (BigEndian.value g.next.value) with
    | some k => some k
    | none => draw tries (g.next.mix 0 [])

/-- Out of range is one value in four thousand million, so that this many never run out. -/
def tries : Nat := 64

/-- The nonce for a secret and a digest. The digest counts as it is, not modulo the order. -/
def of (secret : SecretKey) (digest : List UInt8) : Option SecretKey :=
  draw tries (.seeded (secret.bytes ++ digest))

end UtxoWallet.Curve.Nonce
