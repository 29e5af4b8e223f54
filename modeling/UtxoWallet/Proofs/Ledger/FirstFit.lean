import Mathlib.Algebra.Group.Nat.Defs
import Mathlib.Order.Bounds.Basic
import UtxoWallet.Proofs.Ledger.Selection

/-! # What first fit chooses, and how far it looks -/

namespace UtxoWallet.Ledger.Selection

variable {us : List Unspent} {amount total : UInt64} {k n : Nat} {result : Except Error Selection}

/-! ## Sums of first outputs -/

theorem sumTo_of_length_le (h : us.length ≤ k) : sumTo us k = sumTo us us.length := by
  rw [sumTo, sumTo, List.take_of_length_le h, List.take_length]

theorem sumTo_take_append {j : Nat} (hj : j ≤ k) (hk : k ≤ us.length) (later : List Unspent) :
    sumTo (us.take k ++ later) j = sumTo us j := by
  have hlength : j ≤ (us.take k).length := by
    rw [List.length_take]
    omega
  rw [sumTo, List.take_append_of_le_length hlength, List.take_take, Nat.min_eq_left hj, sumTo]

/-- So many first outputs cover the amount, and fewer do not. -/
def IsEnough (us : List Unspent) (amount k : Nat) : Prop := IsLeast {j | amount ≤ sumTo us j} k

theorem IsEnough.le_length {amount : Nat} (h : IsEnough us amount k) : k ≤ us.length := by
  by_contra hlt
  have hwhole : amount ≤ sumTo us us.length := by
    rw [← sumTo_of_length_le (Nat.le_of_not_le hlt)]
    exact h.1
  exact hlt (h.2 hwhole)

theorem isEnough_of_covers {amount : Nat} (hpos : 0 < amount) (h : Covers 0 amount us k) :
    IsEnough us amount k := by
  refine ⟨by simpa using h.enough, ?_⟩
  intro j hj
  rw [Set.mem_ofPred_eq] at hj
  by_contra hlt
  rcases Nat.eq_zero_or_pos j with rfl | hjpos
  · rw [sumTo_zero] at hj
    omega
  · have hshort := h.least j hjpos (Nat.lt_of_not_le hlt)
    omega

theorem IsEnough.take_append {amount : Nat} (h : IsEnough us amount k) (later : List Unspent) :
    IsEnough (us.take k ++ later) amount k := by
  refine ⟨?_, ?_⟩
  · rw [Set.mem_ofPred_eq, sumTo_take_append (Nat.le_refl k) h.le_length]
    exact h.1
  · intro j hj
    by_contra hlt
    rw [Set.mem_ofPred_eq, sumTo_take_append (Nat.le_of_not_le hlt) h.le_length] at hj
    exact hlt (h.2 hj)

/-! ## The search, from any start -/

/-- A search that goes on from `total` ends with the output that covers the amount, be the sum an
amount or not, or behind the last one. The outputs behind its end are left. -/
theorem extend_cases (us : List Unspent) (hlt : total < amount) :
    (∃ k, Covers total.toNat amount.toNat us k ∧ (extend amount total us).2 = us.drop k ∧
      (total.toNat + sumTo us k < UInt64.size ∧
          (extend amount total us).1 = .ok (ofFirst total.toNat us k) ∨
        UInt64.size ≤ total.toNat + sumTo us k ∧
          (extend amount total us).1 = .error .amountOverflow)) ∨
    total.toNat + sumTo us us.length < amount.toNat ∧ (extend amount total us).2 = [] ∧
      ∃ available : UInt64, available.toNat = total.toNat + sumTo us us.length ∧
        (extend amount total us).1 = .error (.insufficientFunds amount available) := by
  induction us generalizing total with
  | nil => exact .inr ⟨by simpa using UInt64.lt_iff_toNat_lt.mp hlt, rfl, total, by simp, rfl⟩
  | cons u us ih =>
    cases hplus : plus? total u.amount with
    | none =>
      -- What does not fit into an amount covers any amount.
      have hover := plus?_eq_none.mp hplus
      have hcover : amount.toNat ≤ total.toNat + u.amount.toNat := by
        have := amount.toNat_lt_size
        omega
      have hend : extend amount total (u :: us) = (.error .amountOverflow, us) := by
        rw [extend, hplus]
      rw [hend]
      exact .inl ⟨1, (covers_iff_eq_one hcover).mpr rfl, rfl, .inr ⟨by simpa using hover, rfl⟩⟩
    | some sum =>
      have hsum := toNat_of_plus? hplus
      by_cases hdone : amount ≤ sum
      · have hcover : amount.toNat ≤ total.toNat + u.amount.toNat := by
          rw [← hsum]
          exact UInt64.le_iff_toNat_le.mp hdone
        have hone : Covers total.toNat amount.toNat (u :: us) 1 :=
          (covers_iff_eq_one hcover).mpr rfl
        have hfits : total.toNat + sumTo (u :: us) 1 < UInt64.size := by
          rw [sumTo_cons, sumTo_zero, Nat.add_zero, ← hsum]
          exact sum.toNat_lt_size
        have hleft : (extend amount total (u :: us)).2 = us := by
          rw [extend, hplus]
          simp only [if_pos hdone]
        exact .inl ⟨1, hone, hleft, .inl ⟨hfits, extend_eq_ok_iff.mpr ⟨1, hone, hfits, rfl⟩⟩⟩
      · have hmore : total.toNat + u.amount.toNat < amount.toNat := by
          rw [← hsum]
          exact UInt64.lt_iff_toNat_lt.mp (UInt64.not_le.mp hdone)
        have hleft : (extend amount total (u :: us)).2 = (extend amount sum us).2 := by
          rw [extend, hplus]
          simp only [if_neg hdone]
        rw [hleft, List.length_cons]
        simp only [sumTo_cons, ← Nat.add_assoc, ← hsum]
        rcases ih (UInt64.not_le.mp hdone) with
          ⟨k, hk, hrest, hend⟩ | ⟨hshort, hrest, available, hhave, hend⟩
        · refine .inl ⟨k + 1, (covers_succ_iff hmore).mpr (hsum ▸ hk), hrest, ?_⟩
          rw [sumTo_cons, ← Nat.add_assoc, ← hsum]
          rcases hend with ⟨hfits, hend⟩ | ⟨hover, hend⟩
          · refine .inl ⟨hfits, ?_⟩
            rw [extend, hplus, ofFirst_succ, ← hsum]
            simp only [if_neg hdone, hend]
            rfl
          · exact .inr ⟨hover, (extend_cons_of_lt hplus hdone _).mpr hend⟩
        · exact .inr ⟨hshort, hrest, available, hhave,
            (extend_cons_of_lt hplus hdone _).mpr hend⟩

/-! ## The whole choice -/

/-- How a choice for an amount ends, after so many outputs were looked at. -/
inductive Ends (us : List Unspent) (amount : UInt64) : Nat → Except Error Selection → Prop
  | zero (h : amount = 0) : Ends us amount 0 (.error .invalidAmount)
  | chosen {k : Nat} {total : UInt64} (hne : amount ≠ 0) (hk : IsEnough us amount.toNat k)
      (hle : sumTo us k ≤ 2 ^ 64 - 1) (htotal : total.toNat = sumTo us k) :
      Ends us amount k (.ok ⟨(us.take k).map fun u => ⟨u.outputHash, u.outputIndex, ""⟩, total⟩)
  | overflow {k : Nat} (hne : amount ≠ 0) (hk : IsEnough us amount.toNat k)
      (hlt : 2 ^ 64 - 1 < sumTo us k) : Ends us amount k (.error .amountOverflow)
  | missing {available : UInt64} (hne : amount ≠ 0) (hshort : ∀ j, sumTo us j < amount.toNat)
      (hsum : available.toNat = sumTo us us.length) :
      Ends us amount us.length (.error (.insufficientFunds amount available))

theorem sumTo_le_sumTo_length (us : List Unspent) (j : Nat) : sumTo us j ≤ sumTo us us.length := by
  induction us generalizing j with
  | nil => simp [sumTo]
  | cons u us ih =>
    cases j with
    | zero => simp
    | succ j =>
      rw [List.length_cons, sumTo_cons, sumTo_cons]
      exact Nat.add_le_add_left (ih j) _

theorem ends_firstFit (us : List Unspent) (amount : UInt64) :
    Ends us amount (pulled us amount) (firstFit us amount) := by
  rw [pulled, firstFit, choose]
  split
  · next hzero =>
    rw [Nat.sub_self]
    exact .zero hzero
  · next hne =>
    have hpos := UInt64.pos_iff_ne_zero.mpr hne
    rcases extend_cases us hpos with ⟨k, hk, hleft, hend⟩ | ⟨hshort, hleft, available, hsum, hend⟩
    · have henough := isEnough_of_covers (UInt64.lt_iff_toNat_lt.mp hpos) hk
      rw [hleft, List.length_drop, Nat.sub_sub_self hk.le_length]
      rw [UInt64.toNat_zero, Nat.zero_add] at hend
      rcases hend with ⟨hfits, hend⟩ | ⟨hover, hend⟩
      · rw [hend]
        exact .chosen hne henough (Nat.le_sub_one_of_lt hfits) (toNat_ofFirst_total hfits)
      · rw [hend]
        exact .overflow hne henough (Nat.lt_of_lt_of_le (by decide) hover)
    · rw [UInt64.toNat_zero, Nat.zero_add] at hshort hsum
      rw [hleft, hend]
      exact .missing hne (fun j => Nat.lt_of_le_of_lt (sumTo_le_sumTo_length us j) hshort) hsum

theorem Ends.unique (h : Ends us amount k result) {result' : Except Error Selection}
    (h' : Ends us amount n result') : k = n ∧ result = result' := by
  cases h with
  | zero hzero =>
    cases h' with
    | zero => exact ⟨rfl, rfl⟩
    | chosen hne => exact absurd hzero hne
    | overflow hne => exact absurd hzero hne
    | missing hne => exact absurd hzero hne
  | chosen hne hk hle htotal =>
    cases h' with
    | zero hzero => exact absurd hzero hne
    | chosen _ hk' _ htotal' =>
      obtain rfl := hk.unique hk'
      obtain rfl := UInt64.toNat_inj.mp (htotal.trans htotal'.symm)
      exact ⟨rfl, rfl⟩
    | overflow _ hk' hlt =>
      obtain rfl := hk.unique hk'
      omega
    | missing _ hshort => exact absurd hk.1 (Nat.not_le_of_lt (hshort _))
  | overflow hne hk hlt =>
    cases h' with
    | zero hzero => exact absurd hzero hne
    | chosen _ hk' hle =>
      obtain rfl := hk.unique hk'
      omega
    | overflow _ hk' => exact ⟨hk.unique hk', rfl⟩
    | missing _ hshort => exact absurd hk.1 (Nat.not_le_of_lt (hshort _))
  | missing hne hshort hsum =>
    cases h' with
    | zero hzero => exact absurd hzero hne
    | chosen _ hk' => exact absurd hk'.1 (Nat.not_le_of_lt (hshort _))
    | overflow _ hk' => exact absurd hk'.1 (Nat.not_le_of_lt (hshort _))
    | missing _ _ hsum' =>
      obtain rfl := UInt64.toNat_inj.mp (hsum.trans hsum'.symm)
      exact ⟨rfl, rfl⟩

theorem ends_iff :
    Ends us amount n result ↔ pulled us amount = n ∧ firstFit us amount = result := by
  constructor
  · intro h
    exact (ends_firstFit us amount).unique h
  · rintro ⟨rfl, rfl⟩
    exact ends_firstFit us amount

/-- An end that does not lack funds is none of the outputs behind it. -/
theorem Ends.take_append (h : Ends us amount n result)
    (hfunds : ∀ need available, result ≠ .error (.insufficientFunds need available))
    (later : List Unspent) : Ends (us.take n ++ later) amount n result := by
  cases h with
  | zero hzero => exact .zero hzero
  | chosen hne hk hle htotal =>
    have hsum := sumTo_take_append (Nat.le_refl n) hk.le_length later
    have hchosen : (us.take n ++ later).take n = us.take n := by
      rw [List.take_append_of_le_length, List.take_take, Nat.min_self]
      rw [List.length_take, Nat.min_eq_left hk.le_length]
    rw [← hsum] at hle htotal
    have hends := Ends.chosen hne (hk.take_append later) hle htotal
    rwa [hchosen] at hends
  | overflow hne hk hlt =>
    rw [← sumTo_take_append (Nat.le_refl n) hk.le_length later] at hlt
    exact .overflow hne (hk.take_append later) hlt
  | missing => exact absurd rfl (hfunds _ _)

/-- The first outputs that cover the amount are chosen, and those behind them play no part. A sum too
large to be an amount is met at the one that covers it and not before, and only funds that fall short
in all are missing. -/
theorem firstFit_exact (us : List Unspent) (amount : UInt64) :
    (∀ n result, Ends us amount n result ↔
      pulled us amount = n ∧ firstFit us amount = result) ∧
    ((∀ need available, firstFit us amount ≠ .error (.insufficientFunds need available)) →
      ∀ later, firstFit (us.take (pulled us amount) ++ later) amount = firstFit us amount ∧
        pulled (us.take (pulled us amount) ++ later) amount = pulled us amount) := by
  refine ⟨fun n result => ends_iff, ?_⟩
  intro hfunds later
  exact (ends_iff.mp ((ends_firstFit us amount).take_append hfunds later)).symm

/-- The second output covers the amount with a sum that is none, and the third is not looked at. -/
example :
    let us : List Unspent := [⟨"00", 0, ⟨18446744073709551614, "QUJD"⟩⟩, ⟨"00", 1, ⟨5, "QUJD"⟩⟩,
      ⟨"01", 0, ⟨1, "QUJD"⟩⟩]
    firstFit us 18446744073709551615 = .error .amountOverflow ∧ pulled us 18446744073709551615 = 2 := by
  decide

end UtxoWallet.Ledger.Selection
