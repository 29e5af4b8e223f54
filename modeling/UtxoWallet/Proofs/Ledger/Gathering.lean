import UtxoWallet.Proofs.Ledger.Draft

/-! # Drafts that are gathered step by step

Only what was added counts, and not in what portions.
-/

namespace UtxoWallet.Ledger

namespace Draft

variable {d : Draft} {is : List Input} {os : List Output} {tx : Transaction} {e : Error}

/-! ## What a draft comes to -/

/-- A transaction can be made of these. -/
structure Sound (is : List Input) (os : List Output) : Prop where
  inputs : is ≠ []
  outputs : os ≠ []
  positive : ∀ o ∈ os, o.amount ≠ 0
  bounded : exactTotal (os.map (·.amount)) < UInt64.size

/-- What there is to say against these. Of several reasons the first one counts. -/
inductive Refused (is : List Input) (os : List Output) : Error → Prop
  | noInputs (h : is = []) : Refused is os .noInputs
  | noOutputs (hinputs : is ≠ []) (h : os = []) : Refused is os .noOutputs
  | invalidAmount (hinputs : is ≠ []) (houtputs : os ≠ []) (h : ∃ o ∈ os, o.amount = 0) :
    Refused is os .invalidAmount
  | amountOverflow (hinputs : is ≠ []) (houtputs : os ≠ []) (hpositive : ∀ o ∈ os, o.amount ≠ 0)
    (h : UInt64.size ≤ exactTotal (os.map (·.amount))) : Refused is os .amountOverflow

/-- These inputs spend the same outputs. Their signatures may differ. -/
def SpendSame (is is' : List Input) : Prop :=
  is.map (fun i => (i.outputHash, i.outputIndex)) = is'.map fun i => (i.outputHash, i.outputIndex)

/-- The transaction is made of these, and has the hash that it would have with other signatures. -/
structure MadeOf (is : List Input) (os : List Output) (tx : Transaction) : Prop where
  kind : tx.kind = .standard
  index : tx.index = 0
  inputs : tx.inputs = is
  outputs : tx.outputs = os
  total : ∃ sum, tx.outputTotal = some sum ∧ sum.toNat = exactTotal (os.map (·.amount))
  hash : tx.hash = tx.computedHash
  unsigned : ∀ is', SpendSame is is' → ({ tx with inputs := is' }).computedHash = tx.hash

/-! ## Finishing -/

/-- The transaction that a sound draft comes to. -/
def finished (d : Draft) : Transaction := { d.unhashed with hash := d.unhashed.computedHash }

theorem isNone_outputTotal_iff :
    d.unhashed.outputTotal.isNone = true ↔ UInt64.size ≤ exactTotal (d.outputs.map (·.amount)) := by
  rw [Option.isNone_iff_eq_none, Transaction.outputTotal, total?_eq_none, UInt64.toNat_zero,
    Nat.zero_add]
  rfl

theorem any_zero_iff : os.any (·.amount == 0) = true ↔ ∃ o ∈ os, o.amount = 0 := by
  simp

theorem build_eq_ok_iff : d.build = .ok tx ↔ Sound d.inputs d.outputs ∧ tx = d.finished := by
  unfold build
  constructor
  · intro h
    split at h
    · cases h
    next hinputs =>
    split at h
    · cases h
    next houtputs =>
    split at h
    · cases h
    next hpositive =>
    split at h
    · cases h
    next hbounded =>
    rw [List.isEmpty_iff] at hinputs houtputs
    rw [any_zero_iff] at hpositive
    rw [isNone_outputTotal_iff] at hbounded
    exact ⟨⟨hinputs, houtputs, fun o ho hzero => hpositive ⟨o, ho, hzero⟩, Nat.not_le.mp hbounded⟩,
      (Except.ok.inj h).symm⟩
  · rintro ⟨⟨hinputs, houtputs, hpositive, hbounded⟩, rfl⟩
    rw [if_neg (by rwa [List.isEmpty_iff]), if_neg (by rwa [List.isEmpty_iff]),
      if_neg (by rw [any_zero_iff]; exact fun ⟨o, ho, hzero⟩ => hpositive o ho hzero),
      if_neg (by rw [isNone_outputTotal_iff]; exact Nat.not_le.mpr hbounded)]
    rfl

theorem build_eq_error_iff : d.build = .error e ↔ Refused d.inputs d.outputs e := by
  constructor
  · intro h
    unfold build at h
    split at h
    · next hinputs =>
      cases h
      exact .noInputs (List.isEmpty_iff.mp hinputs)
    next hinputs =>
    rw [List.isEmpty_iff] at hinputs
    split at h
    · next houtputs =>
      cases h
      exact .noOutputs hinputs (List.isEmpty_iff.mp houtputs)
    next houtputs =>
    rw [List.isEmpty_iff] at houtputs
    split at h
    · next hzero =>
      cases h
      exact .invalidAmount hinputs houtputs (any_zero_iff.mp hzero)
    next hpositive =>
    rw [any_zero_iff] at hpositive
    split at h
    · next hover =>
      cases h
      exact .amountOverflow hinputs houtputs (fun o ho hzero => hpositive ⟨o, ho, hzero⟩)
        (isNone_outputTotal_iff.mp hover)
    · cases h
  · intro h
    unfold build
    cases h with
    | noInputs h => rw [if_pos (List.isEmpty_iff.mpr h)]
    | noOutputs hinputs h =>
      rw [if_neg (by rwa [List.isEmpty_iff]), if_pos (List.isEmpty_iff.mpr h)]
    | invalidAmount hinputs houtputs h =>
      rw [if_neg (by rwa [List.isEmpty_iff]), if_neg (by rwa [List.isEmpty_iff]),
        if_pos (any_zero_iff.mpr h)]
    | amountOverflow hinputs houtputs hpositive h =>
      rw [if_neg (by rwa [List.isEmpty_iff]), if_neg (by rwa [List.isEmpty_iff]),
        if_neg (by rw [any_zero_iff]; exact fun ⟨o, ho, hzero⟩ => hpositive o ho hzero),
        if_pos (isNone_outputTotal_iff.mpr h)]

/-! ## The hash -/

theorem preimage_inputs_congr {is' : List Input} (h : SpendSame is is') :
    is.flatMap (·.preimage) = is'.flatMap (·.preimage) := by
  have hpreimage (is : List Input) : is.flatMap (·.preimage) =
      (is.map fun i => (i.outputHash, i.outputIndex)).flatMap
        fun ref => ref.1.toList ++ Text.decimal ref.2 := by
    rw [List.flatMap_map]
    rfl
  rw [hpreimage is, hpreimage is', h]

theorem computedHash_of_spendSame {is' : List Input} (h : SpendSame tx.inputs is') :
    ({ tx with inputs := is' }).computedHash = tx.computedHash := by
  apply Transaction.computedHash_congr
  rw [Transaction.preimage, Transaction.preimage, Transaction.preimageChars,
    Transaction.preimageChars, preimage_inputs_congr h]

theorem madeOf_finished (h : Sound d.inputs d.outputs) :
    MadeOf d.inputs d.outputs d.finished where
  kind := rfl
  index := rfl
  inputs := rfl
  outputs := rfl
  total := by
    have hsome : d.unhashed.outputTotal ≠ none := by
      rw [Ne, ← Option.isNone_iff_eq_none, isNone_outputTotal_iff]
      exact Nat.not_le.mpr h.bounded
    obtain ⟨sum, hsum⟩ := Option.ne_none_iff_exists'.mp hsome
    exact ⟨sum, hsum, (total?_eq_some_iff.mp hsum).symm⟩
  hash := Transaction.computedHash_congr rfl
  unsigned := fun _ hsame => computedHash_of_spendSame hsame

/-! ## Steps -/

/-- What a caller adds to a draft at a time. -/
inductive Step where
  | input (i : Input)
  | inputs (is : List Input)
  | output (o : Output)
deriving DecidableEq, Repr

namespace Step

def take (d : Draft) : Step → Draft
  | .input i => d.addInput i
  | .inputs is => d.addInputs is
  | .output o => d.addOutput o

def spent : Step → List Input
  | .input i => [i]
  | .inputs is => is
  | .output _ => []

def made : Step → List Output
  | .input _ => []
  | .inputs _ => []
  | .output o => [o]

theorem inputs_take (d : Draft) (s : Step) : (s.take d).inputs = d.inputs ++ s.spent := by
  cases s with
  | input i => rfl
  | inputs is => rfl
  | output o => exact (List.append_nil d.inputs).symm

theorem outputs_take (d : Draft) (s : Step) : (s.take d).outputs = d.outputs ++ s.made := by
  cases s with
  | input i => exact (List.append_nil d.outputs).symm
  | inputs is => exact (List.append_nil d.outputs).symm
  | output o => rfl

end Step

/-- The draft after these steps. -/
def gathered (steps : List Step) : Draft := steps.foldl Step.take {}

/-- All inputs of these steps, in the order in which they were added. -/
def spent (steps : List Step) : List Input := steps.flatMap Step.spent

/-- All outputs of these steps, in the order in which they were added. -/
def made (steps : List Step) : List Output := steps.flatMap Step.made

theorem inputs_foldl (steps : List Step) (d : Draft) :
    (steps.foldl Step.take d).inputs = d.inputs ++ spent steps := by
  induction steps generalizing d with
  | nil => exact (List.append_nil d.inputs).symm
  | cons s steps ih =>
    rw [List.foldl_cons, ih, Step.inputs_take, List.append_assoc]
    rfl

theorem outputs_foldl (steps : List Step) (d : Draft) :
    (steps.foldl Step.take d).outputs = d.outputs ++ made steps := by
  induction steps generalizing d with
  | nil => exact (List.append_nil d.outputs).symm
  | cons s steps ih =>
    rw [List.foldl_cons, ih, Step.outputs_take, List.append_assoc]
    rfl

/-- A draft is what was added to it, however it was portioned. -/
theorem gathered_eq (steps : List Step) : gathered steps = ⟨spent steps, made steps⟩ := by
  have hinputs : (gathered steps).inputs = spent steps := inputs_foldl steps {}
  have houtputs : (gathered steps).outputs = made steps := outputs_foldl steps {}
  rw [← hinputs, ← houtputs]

/-- Whether a draft can be finished, why not and what comes of it are matters of what was added to
it. -/
theorem build_gathered (steps : List Step) :
    ((∃ tx, (gathered steps).build = .ok tx) ↔ Sound (spent steps) (made steps)) ∧
    (∀ e, (gathered steps).build = .error e ↔ Refused (spent steps) (made steps) e) ∧
    (∀ tx, (gathered steps).build = .ok tx → MadeOf (spent steps) (made steps) tx) ∧
    ∀ steps', spent steps' = spent steps → made steps' = made steps →
      (gathered steps').build = (gathered steps).build := by
  refine ⟨⟨?_, ?_⟩, ?_, ?_, ?_⟩
  · rintro ⟨tx, htx⟩
    rw [gathered_eq] at htx
    exact (build_eq_ok_iff.mp htx).1
  · intro hsound
    rw [gathered_eq]
    exact ⟨_, build_eq_ok_iff.mpr ⟨hsound, rfl⟩⟩
  · intro e
    rw [gathered_eq]
    exact build_eq_error_iff
  · intro tx htx
    rw [gathered_eq] at htx
    obtain ⟨hsound, rfl⟩ := build_eq_ok_iff.mp htx
    exact madeOf_finished (d := ⟨spent steps, made steps⟩) hsound
  · intro steps' hspent hmade
    rw [gathered_eq, gathered_eq, hspent, hmade]

/-- Two amounts that are too much together, each of which would do alone. -/
example :
    (gathered [.output ⟨2 ^ 64 - 1, "QUJD"⟩, .inputs [⟨"ab", 0, "30"⟩], .output ⟨1, "QUJD"⟩]).build =
      .error .amountOverflow := by
  cbv

end Draft

end UtxoWallet.Ledger
