import UtxoWallet.Proofs.Key.Address
import UtxoWallet.Proofs.Ledger.Draft
import UtxoWallet.Proofs.Ledger.Signing

/-! # What a hash says of a transaction

The parts of a preimage stand side by side with nothing between them. Addresses can be told from
what is before them, since no hexadecimal digit begins one. Indices and amounts cannot.
-/

namespace UtxoWallet.Ledger

open Selection
open Text (decimal)

/-! ## Cutting texts -/

def isHexDigit (c : Char) : Bool := c.isDigit || (decide ('a' ≤ c) && decide (c ≤ 'f'))

theorem isHexDigit_of_mem_decimal {n : UInt64} {c : Char} (h : c ∈ decimal n) :
    isHexDigit c = true := by
  rw [isHexDigit, Text.isDigit_of_mem_decimal h, Bool.true_or]

theorem decimal_inj {m n : UInt64} (h : decimal m = decimal n) : m = n := by
  have hvalue := congrArg Text.digitsValue h
  rw [Text.digitsValue_decimal, Text.digitsValue_decimal] at hvalue
  exact UInt64.toNat_inj.mp hvalue

/-- Two texts are cut alike at the first character that is no digit. -/
theorem cut_inj {xs xs' ys ys' : List Char} {c c' : Char}
    (hxs : ∀ d ∈ xs, isHexDigit d = true) (hxs' : ∀ d ∈ xs', isHexDigit d = true)
    (hc : isHexDigit c = false) (hc' : isHexDigit c' = false)
    (h : xs ++ c :: ys = xs' ++ c' :: ys') : xs = xs' ∧ c :: ys = c' :: ys' := by
  have htake := congrArg (List.takeWhile isHexDigit) h
  have hdrop := congrArg (List.dropWhile isHexDigit) h
  rw [List.takeWhile_append_of_pos hxs, List.takeWhile_append_of_pos hxs'] at htake
  rw [List.dropWhile_append_of_pos hxs, List.dropWhile_append_of_pos hxs'] at hdrop
  simp only [List.takeWhile_cons, List.dropWhile_cons, hc, hc', Bool.false_eq_true, if_false,
    List.append_nil] at htake hdrop
  exact ⟨htake, hdrop⟩

/-! ## Outputs -/

/-- As long as the address of a key, and with the same first letter. -/
def IsAddress (address : String) : Prop :=
  address.toList.length = 122 ∧ ∃ cs, address.toList = 'M' :: cs

theorem isAddress_address (q : Curve.Point) : IsAddress (Key.address q) :=
  ⟨Key.length_address q, Key.exists_toList_address q⟩

section Outputs

variable {front front' : List Char} {o o' : Output} {os os' : List Output}

theorem Output.eq_of_decimal (hamount : decimal o.amount = decimal o'.amount)
    (haddress : o.address = o'.address) : o = o' := by
  cases o
  cases o'
  rw [Output.mk.injEq]
  exact ⟨decimal_inj hamount, haddress⟩

/-- Up to its amount, the first output is found behind any digits. -/
theorem output_inj (hfront : ∀ c ∈ front, isHexDigit c = true)
    (hfront' : ∀ c ∈ front', isHexDigit c = true)
    (ho : IsAddress o.address) (ho' : IsAddress o'.address) {rest rest' : List Char}
    (h : front ++ o.preimage ++ rest = front' ++ o'.preimage ++ rest') :
    front ++ decimal o.amount = front' ++ decimal o'.amount ∧ o.address = o'.address ∧
      rest = rest' := by
  obtain ⟨hlength, cs, hcs⟩ := ho
  obtain ⟨hlength', cs', hcs'⟩ := ho'
  have hdigits : ∀ c ∈ front ++ decimal o.amount, isHexDigit c = true := by
    rw [List.forall_mem_append]
    exact ⟨hfront, fun c => isHexDigit_of_mem_decimal⟩
  have hdigits' : ∀ c ∈ front' ++ decimal o'.amount, isHexDigit c = true := by
    rw [List.forall_mem_append]
    exact ⟨hfront', fun c => isHexDigit_of_mem_decimal⟩
  simp only [Output.preimage, hcs, hcs', ← List.append_assoc] at h
  simp only [List.append_assoc (_ ++ _), List.cons_append] at h
  obtain ⟨hamount, haddress⟩ := cut_inj hdigits hdigits' (by decide) (by decide) h
  rw [← List.cons_append, ← List.cons_append, ← hcs, ← hcs'] at haddress
  obtain ⟨hsame, hrest⟩ := List.append_inj haddress (hlength.trans hlength'.symm)
  exact ⟨hamount, String.toList_inj.mp hsame, hrest⟩

theorem outputs_inj (hos : ∀ o ∈ os, IsAddress o.address) (hos' : ∀ o ∈ os', IsAddress o.address)
    (h : os.flatMap (·.preimage) = os'.flatMap (·.preimage)) : os = os' := by
  have hne : ∀ (o : Output) (os : List Output), (o :: os).flatMap (·.preimage) ≠ [] := by
    intro o os
    simp [Output.preimage, Text.decimal_ne_nil]
  induction os generalizing os' with
  | nil =>
    cases os' with
    | nil => rfl
    | cons o' os' => exact absurd h.symm (hne o' os')
  | cons o os ih =>
    cases os' with
    | nil => exact absurd h (hne o os)
    | cons o' os' =>
      rw [List.forall_mem_cons] at hos hos'
      rw [List.flatMap_cons, List.flatMap_cons] at h
      obtain ⟨hamount, haddress, hrest⟩ :=
        output_inj (List.forall_mem_nil _) (List.forall_mem_nil _) hos.1 hos'.1 h
      rw [Output.eq_of_decimal hamount haddress, ih hos.2 hos'.2 hrest]

end Outputs

/-! ## Inputs -/

/-- Sixty-four hexadecimal digits in lower case. -/
def IsHash (hash : String) : Prop :=
  hash.toList.length = 64 ∧ ∀ c ∈ hash.toList, isHexDigit c = true

theorem isHexDigit_of_mem_encode {bytes : List UInt8} {c : Char} (h : c ∈ Hex.encode bytes) :
    isHexDigit c = true := by
  have hdigit : ∀ n < 16, isHexDigit (Nat.digitChar n) = true := by decide
  obtain ⟨n, hn, rfl⟩ := Hex.digit_of_mem_encode h
  exact hdigit n hn

theorem isHash_text_digest (message : List UInt8) : IsHash (Hex.text (Sha256.digest message)) := by
  rw [IsHash, Hex.text, String.toList_ofList, Hex.length_encode, Sha256.length_digest]
  exact ⟨rfl, fun c => isHexDigit_of_mem_encode⟩

def Input.ref (i : Input) : String × UInt64 := (i.outputHash, i.outputIndex)

/-- How many digits an input takes for its index. -/
def Input.indexWidth (i : Input) : Nat := (decimal i.outputIndex).length

section Inputs

variable {is is' : List Input}

theorem isHexDigit_of_mem_inputs
    (his : ∀ i ∈ is, ∀ c ∈ i.outputHash.toList, isHexDigit c = true) :
    ∀ c ∈ is.flatMap (·.preimage), isHexDigit c = true := by
  intro c hc
  obtain ⟨i, hi, hc⟩ := List.mem_flatMap.mp hc
  rcases List.mem_append.mp hc with hc | hc
  · exact his i hi c hc
  · exact isHexDigit_of_mem_decimal hc

theorem widths_of_refs (h : is.map (·.ref) = is'.map (·.ref)) :
    is.map (·.indexWidth) = is'.map (·.indexWidth) := by
  have hwidths := congrArg (List.map fun r : String × UInt64 => (decimal r.2).length) h
  rw [List.map_map, List.map_map] at hwidths
  exact hwidths

theorem preimage_of_refs (h : is.map (·.ref) = is'.map (·.ref)) :
    is.flatMap (·.preimage) = is'.flatMap (·.preimage) := by
  have hpreimages := congrArg
    (List.flatMap fun r : String × UInt64 => r.1.toList ++ decimal r.2) h
  rw [List.flatMap_map, List.flatMap_map] at hpreimages
  exact hpreimages

theorem refs_inj (his : ∀ i ∈ is, IsHash i.outputHash) (his' : ∀ i ∈ is', IsHash i.outputHash)
    (hwidths : is.map (·.indexWidth) = is'.map (·.indexWidth)) {rest rest' : List Char}
    (h : is.flatMap (·.preimage) ++ rest = is'.flatMap (·.preimage) ++ rest') :
    is.map (·.ref) = is'.map (·.ref) ∧ rest = rest' := by
  induction is generalizing is' with
  | nil =>
    rw [List.map_nil, eq_comm, List.map_eq_nil_iff] at hwidths
    rw [hwidths] at h ⊢
    exact ⟨rfl, h⟩
  | cons i is ih =>
    cases is' with
    | nil => cases hwidths
    | cons i' is' =>
      rw [List.forall_mem_cons] at his his'
      rw [List.map_cons, List.map_cons, List.cons.injEq] at hwidths
      rw [List.flatMap_cons, List.flatMap_cons, List.append_assoc, List.append_assoc] at h
      obtain ⟨hhash, -⟩ := his.1
      obtain ⟨hhash', -⟩ := his'.1
      have hlength : i.preimage.length = i'.preimage.length := by
        rw [Input.preimage, Input.preimage, List.length_append, List.length_append, hhash, hhash']
        exact congrArg (64 + ·) hwidths.1
      obtain ⟨hfirst, hrest⟩ := List.append_inj h hlength
      obtain ⟨hsame, hindex⟩ := List.append_inj hfirst (hhash.trans hhash'.symm)
      obtain ⟨hrefs, hend⟩ := ih his.2 his'.2 hwidths.2 hrest
      have href : i.ref = i'.ref :=
        Prod.ext (String.toList_inj.mp hsame) (decimal_inj hindex)
      rw [List.map_cons, List.map_cons, href, hrefs]
      exact ⟨rfl, hend⟩

end Inputs

/-! ## Whole transactions -/

/-- What stands before the outputs. -/
def Transaction.front (tx : Transaction) : List Char :=
  decimal tx.index ++ tx.inputs.flatMap (·.preimage)

/-- Hashes of hexadecimal digits, however many, and addresses like those of keys. -/
structure IsLegible (tx : Transaction) : Prop where
  hashes : ∀ i ∈ tx.inputs, ∀ c ∈ i.outputHash.toList, isHexDigit c = true
  addresses : ∀ o ∈ tx.outputs, IsAddress o.address

/-- Written as the outputs of a node and the addresses of keys are. -/
structure IsPlain (tx : Transaction) : Prop where
  index : tx.index = firstIndex
  hashes : ∀ i ∈ tx.inputs, IsHash i.outputHash
  addresses : ∀ o ∈ tx.outputs, IsAddress o.address
  paid : tx.outputs ≠ []

section Transactions

variable {tx tx' : Transaction}

theorem preimage_eq_iff :
    tx.preimage = tx'.preimage ↔ tx.preimageChars = tx'.preimageChars := by
  rw [Transaction.preimage, Transaction.preimage, String.ofList_inj]

theorem IsLegible.isHexDigit_of_mem_front (h : IsLegible tx) :
    ∀ c ∈ tx.front, isHexDigit c = true := by
  rw [Transaction.front, List.forall_mem_append]
  exact ⟨fun c => isHexDigit_of_mem_decimal, isHexDigit_of_mem_inputs h.hashes⟩

/-- The first address tells where the outputs begin, up to the digits of its amount. -/
theorem IsLegible.parts_of_preimage (h : IsLegible tx) (h' : IsLegible tx') {o o' : Output}
    {os os' : List Output} (hos : tx.outputs = o :: os) (hos' : tx'.outputs = o' :: os')
    (heq : tx.preimage = tx'.preimage) :
    tx.front ++ decimal o.amount = tx'.front ++ decimal o'.amount ∧ o.address = o'.address ∧
      os = os' := by
  have haddresses := h.addresses
  have haddresses' := h'.addresses
  rw [hos, List.forall_mem_cons] at haddresses
  rw [hos', List.forall_mem_cons] at haddresses'
  rw [preimage_eq_iff, Transaction.preimageChars, Transaction.preimageChars, ← Transaction.front,
    ← Transaction.front, hos, hos', List.flatMap_cons, List.flatMap_cons, ← List.append_assoc,
    ← List.append_assoc] at heq
  obtain ⟨hamount, haddress, hrest⟩ := output_inj h.isHexDigit_of_mem_front
    h'.isHexDigit_of_mem_front haddresses.1 haddresses'.1 heq
  exact ⟨hamount, haddress, outputs_inj haddresses.2 haddresses'.2 hrest⟩

theorem IsPlain.isLegible (h : IsPlain tx) : IsLegible tx :=
  ⟨fun i hi => (h.hashes i hi).2, h.addresses⟩

theorem IsPlain.parts_of_preimage (h : IsPlain tx) (h' : IsPlain tx')
    (heq : tx.preimage = tx'.preimage) :
    ∃ o o' os, tx.outputs = o :: os ∧ tx'.outputs = o' :: os ∧ o.address = o'.address ∧
      tx.inputs.flatMap (·.preimage) ++ decimal o.amount =
        tx'.inputs.flatMap (·.preimage) ++ decimal o'.amount := by
  obtain ⟨o, os, hos⟩ := List.exists_cons_of_ne_nil h.paid
  obtain ⟨o', os', hos'⟩ := List.exists_cons_of_ne_nil h'.paid
  obtain ⟨hamount, haddress, rfl⟩ := h.isLegible.parts_of_preimage h'.isLegible hos hos' heq
  rw [Transaction.front, Transaction.front, h.index, h'.index, List.append_assoc,
    List.append_assoc, List.append_cancel_left_eq] at hamount
  exact ⟨o, o', os, hos, hos', haddress, hamount⟩

/-- Of the outputs only the first amount may differ. -/
theorem IsPlain.outputs_of_preimage (h : IsPlain tx) (h' : IsPlain tx')
    (heq : tx.preimage = tx'.preimage) :
    tx.outputs.map (·.address) = tx'.outputs.map (·.address) ∧
      tx.outputs.tail = tx'.outputs.tail := by
  obtain ⟨o, o', os, hos, hos', haddress, -⟩ := h.parts_of_preimage h' heq
  rw [hos, hos', List.map_cons, List.map_cons, haddress]
  exact ⟨rfl, rfl⟩

/-- Beside the preimage it takes the widths of the indices to tell what is spent and what is paid. -/
theorem IsPlain.content_eq_iff (h : IsPlain tx) (h' : IsPlain tx') :
    tx.inputs.map (·.ref) = tx'.inputs.map (·.ref) ∧ tx.outputs = tx'.outputs ↔
      tx.preimage = tx'.preimage ∧
        tx.inputs.map (·.indexWidth) = tx'.inputs.map (·.indexWidth) := by
  constructor
  · rintro ⟨hrefs, houtputs⟩
    refine ⟨?_, widths_of_refs hrefs⟩
    rw [preimage_eq_iff, Transaction.preimageChars, Transaction.preimageChars, h.index, h'.index,
      preimage_of_refs hrefs, houtputs]
  · rintro ⟨heq, hwidths⟩
    obtain ⟨o, o', os, hos, hos', haddress, hamount⟩ := h.parts_of_preimage h' heq
    obtain ⟨hrefs, hdecimal⟩ := refs_inj h.hashes h'.hashes hwidths hamount
    rw [hos, hos', Output.eq_of_decimal hdecimal haddress]
    exact ⟨hrefs, rfl⟩

/-- A transaction with the hash of another is found stale exactly when the preimages differ. -/
theorem sign_eq_stale_iff_preimage (hne : tx'.inputs ≠ []) (hhash : tx'.hash = tx.computedHash)
    (hfree : tx.digest = tx'.digest → tx.preimage = tx'.preimage) (secret : Curve.SecretKey) :
    tx'.sign secret = .error (.staleHash tx'.hash tx'.computedHash) ↔
      tx.preimage ≠ tx'.preimage := by
  rw [Transaction.sign_eq_stale_iff hne, Transaction.HashFits, hhash, Transaction.computedHash,
    Transaction.computedHash, sameIgnoringCase_text_iff, not_iff_not]
  constructor
  · intro hdigest
    exact hfree hdigest.symm
  · intro heq
    rw [Transaction.digest, Transaction.digest, heq]

end Transactions

/-! ## Transfers -/

section Transfers

variable {us us' : List Unspent} {amount amount' : UInt64} {q q' p p' : Curve.Point}
  {tx tx' : Transaction}

theorem isPlain_of_transfer (hus : ∀ u ∈ us, IsHash u.outputHash)
    (h : Transaction.transfer us amount (Key.address q) (Key.address p) = .ok tx) :
    IsPlain tx ∧ tx.inputs ≠ [] ∧ tx.hash = tx.computedHash := by
  obtain ⟨-, k, hcover, -, rfl⟩ := transfer_eq_ok_iff.mp h
  refine ⟨⟨rfl, ?_, ?_, List.cons_ne_nil _ _⟩, chosen_ne_nil hcover, hash_transferOf⟩
  · intro i hi
    obtain ⟨u, hu, rfl⟩ := List.mem_map.mp hi
    exact hus u (List.mem_of_mem_take hu)
  · intro o ho
    rw [transferOf, unhashedTransfer, paidOutputs, List.mem_cons] at ho
    rcases ho with rfl | ho
    · exact isAddress_address q
    · split at ho
      · rw [List.mem_singleton.mp ho]
        exact isAddress_address p
      · cases ho

/-- The hash of a transfer commits to the recipient, to what is given back, and to the rest as far
as the indices of what is spent are known to be equally wide. -/
theorem commitment_of_transfer (hus : ∀ u ∈ us, IsHash u.outputHash)
    (hus' : ∀ u ∈ us', IsHash u.outputHash)
    (h : Transaction.transfer us amount (Key.address q) (Key.address p) = .ok tx)
    (h' : Transaction.transfer us' amount' (Key.address q') (Key.address p') = .ok tx')
    (hfree : tx.digest = tx'.digest → tx.preimage = tx'.preimage) :
    (tx.inputs.map (·.ref) = tx'.inputs.map (·.ref) ∧ tx.outputs = tx'.outputs ↔
      tx.preimage = tx'.preimage ∧
        tx.inputs.map (·.indexWidth) = tx'.inputs.map (·.indexWidth)) ∧
    (tx.preimage = tx'.preimage →
      tx.outputs.map (·.address) = tx'.outputs.map (·.address) ∧
        tx.outputs.tail = tx'.outputs.tail) ∧
    ∀ secret, ({ tx' with hash := tx.hash } : Transaction).sign secret =
        .error (.staleHash tx.hash tx'.computedHash) ↔
      tx.preimage ≠ tx'.preimage := by
  obtain ⟨hplain, -, hhash⟩ := isPlain_of_transfer hus h
  obtain ⟨hplain', hne', -⟩ := isPlain_of_transfer hus' h'
  refine ⟨hplain.content_eq_iff hplain', hplain.outputs_of_preimage hplain', ?_⟩
  intro secret
  exact @sign_eq_stale_iff_preimage tx { tx' with hash := tx.hash } hne' hhash hfree secret

end Transfers

/-- One output of the generator's own, with this index and amount. -/
def oneUnspent (index amount : UInt64) : List Unspent :=
  [⟨String.ofList (List.replicate 64 'a'), index, ⟨amount, Key.address .generator⟩⟩]

theorem isHash_of_mem_oneUnspent (index amount : UInt64) :
    ∀ u ∈ oneUnspent index amount, IsHash u.outputHash := by
  intro u hu
  rw [List.mem_singleton.mp hu]
  rw [IsHash, String.toList_ofList, List.length_replicate]
  refine ⟨rfl, ?_⟩
  intro c hc
  rw [List.eq_of_mem_replicate hc]
  decide

/-- The generator pays itself all it has. -/
def selfTransfer (index amount : UInt64) : Transaction :=
  transferOf (oneUnspent index amount) 1 amount (Key.address .generator) (Key.address .generator)

theorem transfer_oneUnspent (index : UInt64) {amount : UInt64} (hne : amount ≠ 0) :
    Transaction.transfer (oneUnspent index amount) amount (Key.address .generator)
      (Key.address .generator) = .ok (selfTransfer index amount) := by
  have hsum : sumTo (oneUnspent index amount) 1 = amount.toNat := by
    simp [oneUnspent, Unspent.amount]
  refine transfer_eq_ok_iff.mpr ⟨hne, 1, ⟨Nat.le_refl 1, Nat.le_refl 1, ?_, ?_⟩, ?_, rfl⟩
  · rw [hsum, Nat.zero_add]
  · intro j hpos hlt
    omega
  · rw [hsum]
    exact amount.toNat_lt

theorem preimage_selfTransfer : (selfTransfer 12 3).preimage = (selfTransfer 1 23).preimage := by
  decide +kernel

theorem commitment_of_selfTransfer :
    ¬((selfTransfer 12 3).inputs.map (·.ref) = (selfTransfer 1 23).inputs.map (·.ref) ∧
      (selfTransfer 12 3).outputs = (selfTransfer 1 23).outputs) ∧
    ∀ secret, ({ selfTransfer 1 23 with hash := (selfTransfer 12 3).hash } : Transaction).sign
      secret ≠ .error (.staleHash (selfTransfer 12 3).hash (selfTransfer 1 23).computedHash) := by
  obtain ⟨hcontent, -, hstale⟩ := commitment_of_transfer (isHash_of_mem_oneUnspent 12 3)
    (isHash_of_mem_oneUnspent 1 23) (transfer_oneUnspent 12 (by decide))
    (transfer_oneUnspent 1 (by decide)) (fun _ => preimage_selfTransfer)
  have hwidths : (selfTransfer 12 3).inputs.map (·.indexWidth) ≠
      (selfTransfer 1 23).inputs.map (·.indexWidth) := by decide
  refine ⟨?_, ?_⟩
  · rw [hcontent]
    exact fun h => hwidths h.2
  · intro secret h
    exact (hstale secret).mp h preimage_selfTransfer

/-- Two transfers that spend and pay different things may have the same preimage. -/
theorem transfer_preimage_not_injective :
    ∃ tx tx',
      Transaction.transfer (oneUnspent 12 3) 3 (Key.address .generator) (Key.address .generator) =
        .ok tx ∧
      Transaction.transfer (oneUnspent 1 23) 23 (Key.address .generator) (Key.address .generator) =
        .ok tx' ∧
      tx.preimage = tx'.preimage ∧ tx.inputs.map (·.ref) ≠ tx'.inputs.map (·.ref) ∧
      tx.outputs ≠ tx'.outputs := by
  refine ⟨_, _, transfer_oneUnspent 12 (by decide), transfer_oneUnspent 1 (by decide),
    preimage_selfTransfer, ?_, ?_⟩
  · intro hrefs
    exact absurd (widths_of_refs hrefs) (by decide)
  · intro houtputs
    exact absurd (congrArg (List.map (·.amount)) houtputs) (by decide)

end UtxoWallet.Ledger
