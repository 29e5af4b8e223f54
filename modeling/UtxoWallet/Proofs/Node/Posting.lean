import UtxoWallet.Node.Http
import UtxoWallet.Node.Message
import UtxoWallet.Proofs.Bytes.Utf8
import UtxoWallet.Proofs.Ledger.Wire

/-! # What is posted is what was meant

A value is read again from its text, and the text of a posted value is the body of the request.
-/

namespace UtxoWallet.Node

open Ledger Json

/-! ## There and back -/

/-- No value is lost on the way through a text. -/
structure Lossless {α : Type} (write : α → String) (read : String → Except Fault α) : Prop where
  returns : ∀ a, read (write a) = .ok a
  distinct : ∀ a b, a ≠ b → write a ≠ write b
  rewritten : ∀ text a, read text = .ok a → read (write a) = .ok a

theorem lossless_of_returns {α : Type} {write : α → String} {read : String → Except Fault α}
    (h : ∀ a, read (write a) = .ok a) : Lossless write read where
  returns := h
  distinct a b hne hsame := hne (Result.eq_of_read (h a) (h b) hsame)
  rewritten _ a _ := h a

/-! ## Bodies -/

theorem Request.parts_of_ofText {method : Method} {text : String} {body : Option String}
    {r : Request} (h : Request.ofText method text body = .ok r) :
    r.method = method ∧ r.body = body := by
  unfold Request.ofText at h
  split at h
  · cases h
  · next url _ =>
    dsimp only at h
    generalize (if (Credentials.ofUrl? url).isSome then withoutCredentials url else url) = sent at h
    split at h
    · rw [← Except.ok.inj h]
      exact ⟨rfl, rfl⟩
    · cases h

/-- Whether there is a request does not hang on what it says. -/
theorem Request.ofText_with_body {method : Method} {text : String} {r : Request} (body : String)
    (h : Request.ofText method text none = .ok r) :
    Request.ofText method text (some body) = .ok { r with body := some body } := by
  unfold Request.ofText at h ⊢
  split at h
  · cases h
  · next url _ =>
    dsimp only at h ⊢
    generalize (if (Credentials.ofUrl? url).isSome then withoutCredentials url else url) = sent at h ⊢
    split at h
    · next hsent => rw [if_pos hsent, ← Except.ok.inj h]
    · cases h

theorem Request.exists_message_eq {r : Request} {body : String} (h : r.body = some body) :
    ∃ head : String, r.message = (head ++ body).toUTF8 := by
  rw [Request.message, h]
  exact ⟨_, rfl⟩

/-- Whatever the node's address, the call is a post with this body, and its message ends with it. -/
def Call.Posts (call : Call) (body : String) : Prop :=
  ∀ base r, call.request base = .ok r →
    r.method = .post ∧ r.body = some body ∧ ∃ head : String, r.message = (head ++ body).toUTF8

theorem Call.posts_of_body? {call : Call} {body : String} (hmethod : call.method = .post)
    (hbody : call.body? = some body) : call.Posts body := by
  intro base r hrequest
  obtain ⟨hm, hb⟩ := Request.parts_of_ofText hrequest
  rw [hmethod] at hm
  rw [hbody] at hb
  exact ⟨hm, hb, Request.exists_message_eq hb⟩

theorem Call.exists_request (base : String) (call : Call)
    (h : (call.request base).toOption.isSome = true) : ∃ r, call.request base = .ok r := by
  cases hrequest : call.request base with
  | error breach =>
    rw [hrequest] at h
    cases h
  | ok r => exact ⟨r, rfl⟩

/-- Outputs that are listed in JSON are read from the answer as they are. -/
theorem Call.answer_unspent_listToJson {base : String} {status : Nat} (h : status < 400)
    (us : List Unspent) :
    Call.unspent.answer base (.ok (status, .whole (Unspent.listToJson us).toUTF8)) = .ok us := by
  show Call.success base .unspent _ >>= readUnspent base = _
  rw [success, if_neg (Nat.not_le.mpr h), Result.ok_bind, readUnspent, Body.text?, Utf8.text_toUTF8]
  dsimp only
  rw [listOfJson_listToJson, Result.mapError_ok]

/-! ## The wire -/

/-- Transactions and lists of unspent outputs are read as they were written, and a node reads from a
body what the call is about. -/
theorem wire_loses_nothing :
    Lossless Transaction.toJson Transaction.ofJson ∧
    Lossless Unspent.listToJson Unspent.listOfJson ∧
    (∀ tx, ∃ body, (Call.submit tx).body? = some body ∧ (Call.submit tx).Posts body ∧
      Transaction.ofJson body = .ok tx) ∧
    ∀ address, ∃ body, (Call.block address).body? = some body ∧ (Call.block address).Posts body ∧
      Reader.text.whole body = .ok address := by
  refine ⟨lossless_of_returns ofJson_toJson, lossless_of_returns listOfJson_listToJson, ?_, ?_⟩
  · intro tx
    exact ⟨_, rfl, Call.posts_of_body? rfl rfl, ofJson_toJson tx⟩
  · intro address
    exact ⟨_, rfl, Call.posts_of_body? rfl rfl,
      judges_text.whole_bare (isValue_text address) (spellsText_written address)⟩

/-- A text with everything that needs an escape, and with characters of one to four bytes. -/
def oddText : String := "\"\\/\x00\x08\t\n\x0c\r\x1f\x7f é€𝄞"

def oddTransaction : Transaction :=
  ⟨.standard, 18446744073709551615, oddText, [⟨oddText, 0, ""⟩, ⟨"", 10, oddText⟩],
    [⟨18446744073709551615, oddText⟩]⟩

theorem wire_loses_nothing_odd :
    Transaction.ofJson oddTransaction.toJson = .ok oddTransaction ∧
      Unspent.listToJson [⟨oddText, 1, ⟨1, ""⟩⟩] ≠ Unspent.listToJson [⟨oddText, 1, ⟨11, ""⟩⟩] ∧
      ∃ r body, (Call.submit oddTransaction).request "http://n" = .ok r ∧ r.body = some body ∧
        Transaction.ofJson body = .ok oddTransaction := by
  obtain ⟨htransactions, hunspent, hsubmit, -⟩ := wire_loses_nothing
  obtain ⟨body, -, hposts, hread⟩ := hsubmit oddTransaction
  obtain ⟨r, hrequest⟩ := Call.exists_request "http://n" (.submit oddTransaction)
    (by decide +kernel)
  obtain ⟨-, hbody, -⟩ := hposts _ r hrequest
  exact ⟨htransactions.returns _, hunspent.distinct _ _ (by decide), r, body, hrequest, hbody, hread⟩

end UtxoWallet.Node
