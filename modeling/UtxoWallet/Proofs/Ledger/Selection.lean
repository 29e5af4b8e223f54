import UtxoWallet.Json.Reader
import UtxoWallet.Ledger.Selection

/-! # What is chosen to be spent -/

namespace UtxoWallet.Ledger

namespace Selection

/-! ## The fewest outputs that do -/

/-- The exact sum of the first `k` amounts. -/
def sumTo (us : List Unspent) (k : Nat) : Nat := exactTotal ((us.take k).map (·.amount))

/-- The first `k` outputs cover the amount together with `start`, and fewer do not. -/
structure Covers (start amount : Nat) (us : List Unspent) (k : Nat) : Prop where
  pos : 1 ≤ k
  le_length : k ≤ us.length
  enough : amount ≤ start + sumTo us k
  least : ∀ j, 1 ≤ j → j < k → start + sumTo us j < amount

@[simp] theorem sumTo_zero (us : List Unspent) : sumTo us 0 = 0 := rfl

@[simp] theorem sumTo_cons (u : Unspent) (us : List Unspent) (k : Nat) :
    sumTo (u :: us) (k + 1) = u.amount.toNat + sumTo us k := by
  simp [sumTo, exactTotal]

variable {start amount : Nat} {u : Unspent} {us : List Unspent}

theorem covers_iff_eq_one (h : amount ≤ start + u.amount.toNat) {k : Nat} :
    Covers start amount (u :: us) k ↔ k = 1 := by
  constructor
  · intro hk
    refine Nat.le_antisymm (Nat.le_of_not_lt fun hlt => ?_) hk.pos
    have hleast := hk.least 1 (Nat.le_refl 1) hlt
    rw [sumTo_cons, sumTo_zero] at hleast
    omega
  · rintro rfl
    refine ⟨Nat.le_refl 1, by simp, by simpa using h, ?_⟩
    intro j hpos hlt
    omega

theorem covers_succ_iff (h : start + u.amount.toNat < amount) {k : Nat} :
    Covers start amount (u :: us) (k + 1) ↔ Covers (start + u.amount.toNat) amount us k := by
  constructor
  · intro hk
    have henough := hk.enough
    rw [sumTo_cons] at henough
    have hpos : 0 < k := by
      refine Nat.pos_of_ne_zero ?_
      rintro rfl
      rw [sumTo_zero] at henough
      omega
    refine ⟨hpos, by simpa using hk.le_length, by omega, ?_⟩
    intro j hj hlt
    have hleast := hk.least (j + 1) (by omega) (by omega)
    rw [sumTo_cons] at hleast
    omega
  · intro hk
    have henough := hk.enough
    refine ⟨by omega, by simpa using hk.le_length, by rw [sumTo_cons]; omega, ?_⟩
    intro j hj hlt
    obtain ⟨i, rfl⟩ := Nat.exists_eq_add_of_le' hj
    rw [sumTo_cons]
    rcases Nat.eq_zero_or_pos i with rfl | hi
    · rw [sumTo_zero]
      omega
    · have hleast := hk.least i hi (by omega)
      omega

theorem exists_covers_iff_of_le (h : amount ≤ start + u.amount.toNat) {P : Nat → Prop} :
    (∃ k, Covers start amount (u :: us) k ∧ P k) ↔ P 1 := by
  simp only [covers_iff_eq_one h, exists_eq_left]

theorem exists_covers_iff_of_lt (h : start + u.amount.toNat < amount) {P : Nat → Prop} :
    (∃ k, Covers start amount (u :: us) k ∧ P k) ↔
      ∃ k, Covers (start + u.amount.toNat) amount us k ∧ P (k + 1) := by
  constructor
  · rintro ⟨k, hk, hp⟩
    obtain ⟨j, rfl⟩ := Nat.exists_eq_add_of_le' hk.pos
    exact ⟨j, (covers_succ_iff h).mp hk, hp⟩
  · rintro ⟨k, hk, hp⟩
    exact ⟨k + 1, (covers_succ_iff h).mpr hk, hp⟩

theorem not_covers_nil {k : Nat} : ¬Covers start amount [] k := by
  intro hk
  have hpos := hk.pos
  have hle := hk.le_length
  rw [List.length_nil] at hle
  omega

/-! ## The choice -/

/-- The first `k` outputs, spent together. -/
def ofFirst (start : Nat) (us : List Unspent) (k : Nat) : Selection where
  inputs := (us.take k).map (·.toInput)
  total := UInt64.ofNat (start + sumTo us k)

theorem ofFirst_succ (start : Nat) (u : Unspent) (us : List Unspent) (k : Nat) :
    ofFirst start (u :: us) (k + 1) =
      { ofFirst (start + u.amount.toNat) us k with
        inputs := u.toInput :: (ofFirst (start + u.amount.toNat) us k).inputs } := by
  simp [ofFirst, Nat.add_assoc]

theorem extend_eq_ok_iff {amount total : UInt64} {us : List Unspent} {s : Selection} :
    (extend amount total us).1 = .ok s ↔
      ∃ k, Covers total.toNat amount.toNat us k ∧ total.toNat + sumTo us k < UInt64.size ∧
        s = ofFirst total.toNat us k := by
  induction us generalizing total s with
  | nil => simp [extend, not_covers_nil]
  | cons u us ih =>
    rw [extend]
    cases hplus : plus? total u.amount with
    | none =>
      have hover := plus?_eq_none.mp hplus
      simp only [reduceCtorEq, false_iff, not_exists, not_and]
      intro k hk hlt
      obtain ⟨j, rfl⟩ := Nat.exists_eq_add_of_le' hk.pos
      rw [sumTo_cons] at hlt
      omega
    | some sum =>
      have hsum := toNat_of_plus? hplus
      dsimp only
      by_cases hdone : amount ≤ sum
      · have hcover : amount.toNat ≤ total.toNat + u.amount.toNat := by
          rw [← hsum]
          exact UInt64.le_iff_toNat_le.mp hdone
        rw [if_pos hdone, exists_covers_iff_of_le hcover, sumTo_cons, sumTo_zero, Nat.add_zero,
          ← hsum, and_iff_right sum.toNat_lt_size]
        simp [ofFirst, ← hsum, eq_comm]
      · have hmore : total.toNat + u.amount.toNat < amount.toNat := by
          rw [← hsum]
          exact Nat.lt_of_not_le fun hle => hdone (UInt64.le_iff_toNat_le.mpr hle)
        rw [if_neg hdone, exists_covers_iff_of_lt hmore, Json.map_eq_ok, ← hsum]
        simp only [ih, ofFirst_succ, sumTo_cons, ← Nat.add_assoc, ← hsum]
        constructor
        · rintro ⟨rest, ⟨k, hk, hlt, rfl⟩, rfl⟩
          exact ⟨k, hk, hlt, rfl⟩
        · rintro ⟨k, hk, hlt, rfl⟩
          exact ⟨_, ⟨k, hk, hlt, rfl⟩, rfl⟩

/-- A choice that is made is the least one, and its sum is an amount. -/
theorem firstFit_eq_ok_iff {us : List Unspent} {amount : UInt64} {s : Selection} :
    firstFit us amount = .ok s ↔
      amount ≠ 0 ∧ ∃ k, Covers 0 amount.toNat us k ∧ sumTo us k < UInt64.size ∧
        s = ofFirst 0 us k := by
  rw [firstFit, choose]
  split
  · next hzero => simp [hzero]
  · next hne => simp [hne, extend_eq_ok_iff]

/-! ## No choice -/

theorem total_le_of_total? {amounts : List UInt64} {total sum : UInt64}
    (h : total? total amounts = some sum) : total.toNat ≤ sum.toNat := by
  rw [toNat_of_total? h]
  omega

theorem extend_cons_of_lt {amount total sum : UInt64} {u : Unspent} {us : List Unspent}
    (hplus : plus? total u.amount = some sum) (hlt : ¬amount ≤ sum) (e : Error) :
    (extend amount total (u :: us)).1 = .error e ↔ (extend amount sum us).1 = .error e := by
  rw [extend, hplus]
  simp only [if_neg hlt]
  cases (extend amount sum us).1 <;> simp [Except.map]

/-- Funds are found missing exactly when all of them together are an amount that does not do. -/
theorem extend_eq_insufficientFunds_iff {amount total need available : UInt64} {us : List Unspent}
    (hlt : total < amount) :
    (extend amount total us).1 = .error (.insufficientFunds need available) ↔
      need = amount ∧ total? total (us.map (·.amount)) = some available ∧ available < amount := by
  induction us generalizing total with
  | nil =>
    simp only [extend, Except.error.injEq, Error.insufficientFunds.injEq, List.map_nil, total?,
      Option.some.injEq]
    constructor
    · rintro ⟨rfl, rfl⟩
      exact ⟨rfl, rfl, hlt⟩
    · rintro ⟨rfl, rfl, -⟩
      exact ⟨rfl, rfl⟩
  | cons u us ih =>
    rw [List.map_cons, total?]
    cases hplus : plus? total u.amount with
    | none => simp [extend, hplus]
    | some sum =>
      rw [Option.bind_some]
      by_cases hdone : amount ≤ sum
      · simp only [extend, hplus, if_pos hdone, reduceCtorEq, false_iff, not_and]
        intro _ htotal hshort
        have hle := total_le_of_total? htotal
        rw [UInt64.le_iff_toNat_le] at hdone
        rw [UInt64.lt_iff_toNat_lt] at hshort
        omega
      · rw [extend_cons_of_lt hplus hdone, ih (UInt64.not_le.mp hdone)]

/-- Whoever meets an overflow on the way meets it in the whole sum. -/
theorem total?_eq_none_of_extend {amount total : UInt64} {us : List Unspent}
    (h : (extend amount total us).1 = .error .amountOverflow) :
    total? total (us.map (·.amount)) = none := by
  induction us generalizing total with
  | nil => simp [extend] at h
  | cons u us ih =>
    rw [List.map_cons, total?]
    cases hplus : plus? total u.amount with
    | none => rfl
    | some sum =>
      rw [Option.bind_some]
      by_cases hdone : amount ≤ sum
      · simp [extend, hplus, hdone] at h
      · exact ih ((extend_cons_of_lt hplus hdone _).mp h)

theorem firstFit_eq_insufficientFunds_iff {us : List Unspent} {amount need available : UInt64}
    (hne : amount ≠ 0) :
    firstFit us amount = .error (.insufficientFunds need available) ↔
      need = amount ∧ total? 0 (us.map (·.amount)) = some available ∧ available < amount := by
  rw [firstFit, choose, if_neg hne]
  exact extend_eq_insufficientFunds_iff (UInt64.pos_iff_ne_zero.mpr hne)

theorem total?_eq_none_of_firstFit {us : List Unspent} {amount : UInt64}
    (h : firstFit us amount = .error .amountOverflow) : total? 0 (us.map (·.amount)) = none := by
  rw [firstFit, choose] at h
  split at h
  · cases h
  · exact total?_eq_none_of_extend h

/-! ## What is left over -/

theorem toNat_ofFirst_total {us : List Unspent} {k : Nat} (h : sumTo us k < UInt64.size) :
    (ofFirst 0 us k).total.toNat = sumTo us k := by
  rw [ofFirst, Nat.zero_add]
  exact UInt64.toNat_ofNat_of_lt' h

theorem toNat_change {us : List Unspent} {k : Nat} {amount : UInt64}
    (hlt : sumTo us k < UInt64.size) (henough : amount.toNat ≤ sumTo us k) :
    ((ofFirst 0 us k).change amount).toNat = sumTo us k - amount.toNat := by
  have htotal := toNat_ofFirst_total hlt
  have hle : amount ≤ (ofFirst 0 us k).total := by
    rw [UInt64.le_iff_toNat_le, htotal]
    exact henough
  rw [change, if_pos hle, UInt64.toNat_sub_of_le _ _ hle, htotal]

end Selection

end UtxoWallet.Ledger
