import UtxoWallet.Proofs.Json.Written
import UtxoWallet.Proofs.Ledger.Fields

/-! # Transactions read back as they were written -/

namespace UtxoWallet.Ledger

open Json

/-! ## Outputs and inputs -/

theorem Output.writes (o : Output) : List.Forall₂ (Writes o) Output.fields
    [("amount", Text.decimal o.amount), ("address", Written.text o.address)] :=
  .cons ⟨rfl, isValue_decimal _, rfl⟩ (.cons ⟨rfl, isValue_text _, spellsText_written _⟩ .nil)

theorem Output.isValue_written (o : Output) : IsValue o.written :=
  isValue_object (isValue_of_writes o.writes)

theorem Output.spells_written (o : Output) : SpellsRecord Output.fields o.written o :=
  spellsRecord_written (by simp [Output.fields, FieldOf.required]) o.writes

theorem Unspent.writes (u : Unspent) : List.Forall₂ (Writes u) Unspent.fields
    [("output_hash", Written.text u.outputHash), ("output_index", Text.decimal u.outputIndex),
     ("output", u.output.written)] := by
  refine .cons ⟨rfl, isValue_text _, spellsText_written _⟩ ?_
  refine .cons ⟨rfl, isValue_decimal _, rfl⟩ ?_
  exact .cons ⟨rfl, u.output.isValue_written, u.output.spells_written⟩ .nil

theorem Unspent.isValue_written (u : Unspent) : IsValue u.written :=
  isValue_object (isValue_of_writes u.writes)

theorem Unspent.spells_written (u : Unspent) : SpellsRecord Unspent.fields u.written u :=
  spellsRecord_written (by simp [Unspent.fields, FieldOf.required]) u.writes

theorem Input.writes (i : Input) : List.Forall₂ (Writes i) Input.fields
    [("output_hash", Written.text i.outputHash), ("output_index", Text.decimal i.outputIndex),
     ("signature", Written.text i.signature)] := by
  refine .cons ⟨rfl, isValue_text _, spellsText_written _⟩ ?_
  refine .cons ⟨rfl, isValue_decimal _, rfl⟩ ?_
  exact .cons ⟨rfl, isValue_text _, spellsText_written _⟩ .nil

theorem Input.isValue_written (i : Input) : IsValue i.written :=
  isValue_object (isValue_of_writes i.writes)

theorem Input.spells_written (i : Input) : SpellsRecord Input.fields i.written i :=
  spellsRecord_written
    (by simp [Input.fields, Input.unsignedFields, Input.signatureField, FieldOf.required]) i.writes

/-! ## Transactions -/

theorem Kind.spells_written (k : Kind) :
    SpellsOneOf [(Kind.standard.name, .standard)] (Written.text k.name) k := by
  cases k with
  | standard => exact .name ⟨_, rfl, spellsText_written _⟩

theorem Transaction.writes (tx : Transaction) : List.Forall₂ (Writes tx) Transaction.fields
    [("type", Written.text tx.kind.name), ("index", Text.decimal tx.index),
     ("hash", Written.text tx.hash), ("inputs", Written.list (tx.inputs.map Input.written)),
     ("outputs", Written.list (tx.outputs.map Output.written))] := by
  have hinputs : ∀ t ∈ tx.inputs.map Input.written, IsValue t :=
    List.forall_mem_map.mpr fun i _ => i.isValue_written
  have houtputs : ∀ t ∈ tx.outputs.map Output.written, IsValue t :=
    List.forall_mem_map.mpr fun o _ => o.isValue_written
  refine .cons ⟨rfl, isValue_text _, tx.kind.spells_written⟩ ?_
  refine .cons ⟨rfl, isValue_decimal _, rfl⟩ ?_
  refine .cons ⟨rfl, isValue_text _, spellsText_written _⟩ ?_
  refine .cons ⟨rfl, isValue_list hinputs,
    spellsList_written Input.isValue_written Input.spells_written _⟩ ?_
  exact .cons ⟨rfl, isValue_list houtputs,
    spellsList_written Output.isValue_written Output.spells_written _⟩ .nil

theorem Transaction.isValue_written (tx : Transaction) : IsValue tx.written :=
  isValue_object (isValue_of_writes tx.writes)

theorem Transaction.spells_written (tx : Transaction) :
    SpellsRecord Transaction.fields tx.written tx :=
  spellsRecord_written (by simp [Transaction.fields, FieldOf.required]) tx.writes

/-! ## Whole texts -/

theorem ofJson_toJson (tx : Transaction) : Transaction.ofJson tx.toJson = .ok tx :=
  Transaction.layout.judges.whole_bare tx.isValue_written tx.spells_written

theorem listOfJson_listToJson (us : List Unspent) :
    Unspent.listOfJson (Unspent.listToJson us) = .ok us :=
  (judges_list Unspent.layout.judges).whole_bare
    (isValue_list (List.forall_mem_map.mpr fun u _ => u.isValue_written))
    (spellsList_written Unspent.isValue_written Unspent.spells_written us)

end UtxoWallet.Ledger
