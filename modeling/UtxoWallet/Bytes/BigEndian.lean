/-! # Numbers as bytes, the most significant first -/

namespace UtxoWallet.BigEndian

def value (bytes : List UInt8) : Nat := bytes.foldl (fun n b => 256 * n + b.toNat) 0

/-- The last `width` bytes of `n`. -/
def bytes : (width n : Nat) → List UInt8
  | 0, _ => []
  | width + 1, n => bytes width (n / 256) ++ [UInt8.ofNat (n % 256)]

/-- As few bytes as spell `n`, and none for zero. -/
def least (n : Nat) : List UInt8 :=
  if n = 0 then [] else least (n / 256) ++ [UInt8.ofNat (n % 256)]
termination_by n

theorem value_append_singleton (bs : List UInt8) (b : UInt8) :
    value (bs ++ [b]) = 256 * value bs + b.toNat := by
  simp [value]

@[simp] theorem length_bytes (width n : Nat) : (bytes width n).length = width := by
  induction width generalizing n with
  | zero => rfl
  | succ width ih => simp [bytes, ih]

theorem value_least (n : Nat) : value (least n) = n := by
  induction n using least.induct with
  | case1 => simp [least, value]
  | case2 n h ih =>
    rw [least, if_neg h, value_append_singleton, ih]
    simp
    omega

end UtxoWallet.BigEndian
