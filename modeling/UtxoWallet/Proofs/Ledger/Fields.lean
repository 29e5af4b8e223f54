import UtxoWallet.Ledger.Wire
import UtxoWallet.Proofs.Json.Written

/-! # What a node answers is read by the names of the fields

No amount, index, hash or address is made up, and none is taken from a member that is not its own.
-/

namespace UtxoWallet.Ledger

open Json

/-! ## Outputs -/

def Output.fields : List (FieldOf Output) :=
  [.required "amount" fun t o => t = Text.decimal o.amount,
   .required "address" fun t o => SpellsText t o.address]

def Output.layout : Layout Output.format Output.fields where
  slots :=
    [.required "amount" judges_natural (·.amount) (fun v d => { d with amount := some v })
      (fun _ _ => rfl) (·.amount),
     .required "address" judges_text (·.address) (fun v d => { d with address := some v })
      (fun _ _ => rfl) (·.address)]
  members_eq := rfl
  fields_eq := rfl
  apart := by simp [Slot.apart_iff, Slot.required]
  draft_eq := by simp [Slot.required, Output.format]
  finish_iff := by
    rintro ⟨_ | amount, _ | address⟩ ⟨amount', address'⟩ <;>
      simp [Output.format, Slot.Held, Slot.required]

/-! ## Unspent outputs -/

def Unspent.fields : List (FieldOf Unspent) :=
  [.required "output_hash" fun t u => SpellsText t u.outputHash,
   .required "output_index" fun t u => t = Text.decimal u.outputIndex,
   .required "output" fun t u => SpellsRecord Output.fields t u.output]

def Unspent.layout : Layout Unspent.format Unspent.fields where
  slots :=
    [.required "output_hash" judges_text (·.outputHash) (fun v d => { d with outputHash := some v })
      (fun _ _ => rfl) (·.outputHash),
     .required "output_index" judges_natural (·.outputIndex)
      (fun v d => { d with outputIndex := some v }) (fun _ _ => rfl) (·.outputIndex),
     .required "output" Output.layout.judges (·.output) (fun v d => { d with output := some v })
      (fun _ _ => rfl) (·.output)]
  members_eq := rfl
  fields_eq := rfl
  apart := by simp [Slot.apart_iff, Slot.required]
  draft_eq := by simp [Slot.required, Unspent.format]
  finish_iff := by
    rintro ⟨_ | hash, _ | index, _ | output⟩ ⟨hash', index', output'⟩ <;>
      simp [Unspent.format, Slot.Held, Slot.required]

/-! ## Inputs -/

def Input.unsignedFields : List (FieldOf Input) :=
  [.required "output_hash" fun t i => SpellsText t i.outputHash,
   .required "output_index" fun t i => t = Text.decimal i.outputIndex]

/-- An input from which the signature is left out has none. -/
def Input.signatureField : FieldOf Input where
  name := "signature"
  spelled t i := SpellsText t i.signature
  absent i := i.signature = ""

def Input.fields : List (FieldOf Input) := Input.unsignedFields ++ [Input.signatureField]

def Input.layout : Layout Input.format Input.fields where
  slots :=
    [.required "output_hash" judges_text (·.outputHash) (fun v d => { d with outputHash := some v })
      (fun _ _ => rfl) (·.outputHash),
     .required "output_index" judges_natural (·.outputIndex)
      (fun v d => { d with outputIndex := some v }) (fun _ _ => rfl) (·.outputIndex),
     { Value := String
       name := "signature"
       reader := Reader.text
       spelled := SpellsText
       judges := judges_text
       get := (·.signature)
       put := fun v d => { d with signature := some v }
       get_put := fun _ _ => rfl
       of := (·.signature)
       absent := fun i => i.signature = "" }]
  members_eq := rfl
  fields_eq := rfl
  apart := by simp [Slot.apart_iff, Slot.required]
  draft_eq := by simp [Slot.required, Input.format]
  finish_iff := by
    rintro ⟨_ | hash, _ | index, _ | signature⟩ ⟨hash', index', signature'⟩ <;>
      simp [Input.format, Slot.Held, Slot.required, eq_comm (a := "")]

/-! ## Transactions -/

def Transaction.fields : List (FieldOf Transaction) :=
  [.required "type" fun t tx => SpellsOneOf [(Kind.standard.name, .standard)] t tx.kind,
   .required "index" fun t tx => t = Text.decimal tx.index,
   .required "hash" fun t tx => SpellsText t tx.hash,
   .required "inputs" fun t tx => SpellsList (SpellsRecord Input.fields) t tx.inputs,
   .required "outputs" fun t tx => SpellsList (SpellsRecord Output.fields) t tx.outputs]

def Transaction.layout : Layout Transaction.format Transaction.fields where
  slots :=
    [.required "type" judges_oneOf (·.kind) (fun v d => { d with kind := some v })
      (fun _ _ => rfl) (·.kind),
     .required "index" judges_natural (·.index) (fun v d => { d with index := some v })
      (fun _ _ => rfl) (·.index),
     .required "hash" judges_text (·.hash) (fun v d => { d with hash := some v })
      (fun _ _ => rfl) (·.hash),
     .required "inputs" (judges_list Input.layout.judges) (·.inputs)
      (fun v d => { d with inputs := some v }) (fun _ _ => rfl) (·.inputs),
     .required "outputs" (judges_list Output.layout.judges) (·.outputs)
      (fun v d => { d with outputs := some v }) (fun _ _ => rfl) (·.outputs)]
  members_eq := rfl
  fields_eq := rfl
  apart := by simp [Slot.apart_iff, Slot.required]
  draft_eq := by simp [Slot.required, Transaction.format]
  finish_iff := by
    rintro ⟨_ | kind, _ | index, _ | hash, _ | inputs, _ | outputs⟩
      ⟨kind', index', hash', inputs', outputs'⟩ <;>
      simp [Transaction.format, Slot.Held, Slot.required]

/-! ## Answers -/

/-- Objects are read by the names of their members, in whatever order and whatever else is in them,
and lists by the order of the fields. Only the signature of an input may be left out, and nothing may
be given twice. -/
theorem answers_by_fields :
    ReadByFields (Reader.record Unspent.format).whole Unspent.fields [] ∧
    ReadByFields (Reader.record Output.format).whole Output.fields [] ∧
    ReadByFields (Reader.record Input.format).whole Input.fields ["signature"] ∧
    ReadByFields Transaction.ofJson Transaction.fields [] ∧
    (∀ {s : Spaced} {o : ObjectText} {i : Input}, s.inner = o.text → i.signature = "" →
      Gives Input.unsignedFields o.entries i → Input.signatureField.LeftOut o.entries →
      (Reader.record Input.format).whole (String.ofList s.text) = .ok i) ∧
    (∀ {s : Spaced} {l : ListText} {i : Input}, s.inner = l.text → i.signature = "" →
      Lists Input.unsignedFields l.items i →
      (Reader.record Input.format).whole (String.ofList s.text) = .ok i) ∧
    ∀ {s : Spaced} {l : ListText} {us : List Unspent}, s.inner = l.text →
      (Unspent.listOfJson (String.ofList s.text) = .ok us ↔
        List.Forall₂ (fun i u => SpellsRecord Unspent.fields i.inner u) l.items us) := by
  have hinput : ReadByFields (Reader.record Input.format).whole Input.fields ["signature"] :=
    Input.layout.readByFields
      (by simp [Input.fields, Input.unsignedFields, Input.signatureField, FieldOf.required])
  refine ⟨Unspent.layout.readByFields ?_, Output.layout.readByFields ?_, hinput,
    Transaction.layout.readByFields ?_, ?_, ?_, ?_⟩
  · simp [Unspent.fields, FieldOf.required]
  · simp [Output.fields, FieldOf.required]
  · simp [Transaction.fields, FieldOf.required]
  · intro s o i hs hunsigned hgives hleft
    exact (hinput.object hs).mpr
      (gives_append hgives (List.forall_mem_singleton.mpr hleft) (List.forall_mem_singleton.mpr hunsigned))
  · intro s l i hs hunsigned hlists
    exact (hinput.list hs).mpr (lists_append hlists (List.forall_mem_singleton.mpr hunsigned))
  · intro s l us hs
    have hlist := judges_list Unspent.layout.judges
    rw [Unspent.listOfJson, hlist.whole_iff (hs ▸ l.isValue_text), hs,
      spellsList_text Unspent.layout.judges]

/-! ## Answers with everything in an unusual place -/

/-- A name with an escape in it. -/
def escapedAmount : List Char := "\"\\u0061mount\"".toList

theorem spells_escapedAmount : SpellsText escapedAmount "amount" := by
  have hcode : Escaped "u0061".toList 'a' := .code ⟨rfl, rfl⟩ rfl rfl
  have hrest : Spells "mount\"".toList "mount".toList := by
    iterate 5 refine .plain (by decide) (by decide) (by decide) ?_
    exact .close
  exact ⟨_, rfl, .escape hcode hrest⟩

/-- The fields of an output in another order, with a member that is none of them. -/
def looseEntries : List Entry :=
  [⟨⟨[], Written.text "more", [' '], blanks_nil, by simp [Blanks, Reader.isBlank]⟩,
    .bare (Written.list [Written.object [("amount", Text.decimal 7)]])⟩,
   .bare ("address", Written.text "QUJD"),
   ⟨⟨['\n'], escapedAmount, [], by simp [Blanks, Reader.isBlank], blanks_nil⟩,
    .bare (Text.decimal 5)⟩]

theorem named_looseEntries :
    List.Forall₂ Entry.Named looseEntries ["more", "address", "amount"] :=
  .cons (spellsText_written _) (.cons (spellsText_written _) (.cons spells_escapedAmount .nil))

def looseOutput : ObjectText where
  front := [' ']
  entries := looseEntries
  blanks_front := by simp [Blanks, Reader.isBlank]
  isText := by
    simp only [looseEntries, List.forall_mem_cons]
    exact ⟨(spellsText_written _).isText, (spellsText_written _).isText,
      spells_escapedAmount.isText, nofun⟩
  isValue := by
    have hamount : IsValue (Written.object [("amount", Text.decimal 7)]) :=
      isValue_object (List.forall_mem_singleton.mpr (isValue_decimal 7))
    simp only [looseEntries, List.forall_mem_cons]
    exact ⟨isValue_list (List.forall_mem_singleton.mpr hamount), isValue_text _, isValue_decimal 5,
      nofun⟩

theorem gives_looseOutput : Gives Output.fields looseOutput.entries ⟨5, "QUJD"⟩ := by
  obtain _ | ⟨hmore, _ | ⟨haddress, _ | ⟨hamount, _⟩⟩⟩ := named_looseEntries
  constructor
  · simp only [looseOutput, looseEntries, List.forall_mem_cons]
    exact ⟨⟨_, hmore⟩, ⟨_, haddress⟩, ⟨_, hamount⟩, nofun⟩
  · simp only [Output.fields, List.forall_mem_cons]
    refine ⟨.inl ⟨looseEntries.take 2, _, [], rfl, hamount, rfl, ?_⟩,
      .inl ⟨looseEntries.take 1, _, looseEntries.drop 2, rfl, haddress, spellsText_written _, ?_⟩,
      nofun⟩
    · exact FieldOf.leftOut_of_named (.cons hmore (.cons haddress .nil)) (by decide)
    · exact FieldOf.leftOut_of_named (.cons hmore (.cons hamount .nil)) (by decide)

/-- An output that names its amount twice. -/
def twoAmounts : ObjectText :=
  .bare [("amount", Text.decimal 5), ("address", Written.text ""), ("amount", Text.decimal 5)] (by
    simp only [List.forall_mem_cons]
    exact ⟨isValue_decimal 5, isValue_text "", isValue_decimal 5, nofun⟩)

theorem answers_by_fields_loose :
    (Reader.record Output.format).whole
        "\x7b \"more\" :[\x7b\"amount\":7\x7d],\"address\":\"QUJD\",\n\"\\u0061mount\":5\x7d" =
      .ok ⟨5, "QUJD"⟩ ∧
    ∀ o, (Reader.record Output.format).whole
      "\x7b\"amount\":5,\"address\":\"\",\"amount\":5\x7d" ≠ .ok o := by
  obtain ⟨-, houtput, -⟩ := answers_by_fields
  constructor
  · have hbare : (Spaced.bare looseOutput.text).inner = looseOutput.text := rfl
    exact (houtput.object hbare).mpr gives_looseOutput
  · intro o
    have hbare : (Spaced.bare twoAmounts.text).inner = twoAmounts.text := rfl
    have htwice : twoAmounts.entries = [] ++ Entry.bare ("amount", Text.decimal 5) ::
      ([Entry.bare ("address", Written.text "")] ++
        Entry.bare ("amount", Text.decimal 5) :: []) := rfl
    exact houtput.repeated hbare List.mem_cons_self htwice (named_bare _) (named_bare _) o

end UtxoWallet.Ledger
