import UtxoWallet.Proofs.CommandLine.Listing
import UtxoWallet.Proofs.Wallet.Snapshot
import UtxoWallet.Proofs.Wallet.Success

/-! # What a command has to tell

The complete answer to a command is a matter of the world that it leaves and of what the node was asked
and answered. A command tells it exactly if there is one.
-/

namespace UtxoWallet.CommandLine

open Attempt Result Files Wallet Ledger Node Curve

variable {s : Settings} {v v' : World} {fresh : SecretKey} {name sender recipient base : String}
  {amount : Int64} {short : Bool} {w : Wallet} {ws : List Wallet} {lines : List String}

/-! ## Complete answers -/

/-- The records have this wallet as the first one of its name. -/
def Settings.Finds (s : Settings) (v : World) (name : String) (w : Wallet) : Prop :=
  ∃ ws, (Store.mk s.directory).listed v = .ok ws ∧ ws.find? (·.name == name) = some w

/-- All can be opened, and this is the URL of the node to ask. -/
def Settings.Connects (s : Settings) (v : World) (base : String) : Prop :=
  s.Opens v ∧ s.url? = some base

/-- What a command tells that began in the world `v` and ended in the world `v'`, if all went well:
each wallet that is recorded, the record that was added, what the node lists in sum, or the hash of
what the node was handed and accepted. -/
def IsAnswer (s : Settings) (v v' : World) : Command → List String → Prop
  | .list short, lines =>
    s.Opens v ∧ ∃ ws, (Store.mk s.directory).listed v' = .ok ws ∧
      List.Forall₂ (IsShown short) ws lines
  | .create name, lines =>
    ∃ address, Store.Appended ⟨s.directory⟩ ⟨name, keyFileStart ++ name, address⟩ v v' ∧
      lines = [name ++ ": " ++ address]
  | .mine name, lines =>
    ∃ base w, s.Connects v base ∧ s.Finds v' name w ∧
      v'.asked = v.asked ++ [⟨base, .block w.address⟩] ∧
      v.node v.asked base (.block w.address) = .ok () ∧ lines = []
  | .balance name, lines =>
    ∃ base w us sum, s.Connects v base ∧ s.Finds v' name w ∧
      v'.asked = v.asked ++ [⟨base, .unspent⟩] ∧ v.node v.asked base .unspent = .ok us ∧
      exactTotal ((us.filter (·.output.address == w.address)).map (·.amount)) = sum ∧
      sum < UInt64.size ∧ lines = [toString sum]
  | .transfer _ _ _, lines =>
    ∃ base tx, s.Connects v base ∧ v'.asked = v.asked ++ [⟨base, .unspent⟩, ⟨base, .submit tx⟩] ∧
      v.node (v.asked ++ [⟨base, .unspent⟩]) base (.submit tx) = .ok () ∧ lines = [tx.hash]

/-! ## Openings -/

theorem perform_keystore_bind {α : Type} (s : Settings) (v : World) (f : Keystore → Attempt α) :
    s.Opens v ∧ (openKeystore s >>= f).perform v = (f s.keystore).perform (s.opened v) ∨
      ¬s.Opens v ∧ ∃ e, (openKeystore s >>= f).perform v = (.error e, s.opened v) := by
  rcases perform_openKeystore s v with ⟨hopens, hopen⟩ | ⟨hclosed, e, hopen⟩
  · exact .inl ⟨hopens, perform_bind_ok hopen f⟩
  · exact .inr ⟨hclosed, e, perform_bind_error hopen f⟩

theorem perform_client_bind {α : Type} (s : Settings) (v : World) (f : Client → Attempt α) :
    (∃ base, s.Connects v base ∧
      (openClient s >>= f).perform v = (f ⟨s.keystore, base⟩).perform (s.opened v)) ∨
    (∀ base, ¬s.Connects v base) ∧
      ∃ e, (openClient s >>= f).perform v = (.error e, s.opened v) := by
  rcases perform_openClient s v with ⟨base, hopens, hurl, hopen⟩ | ⟨hnone, e, hopen⟩
  · exact .inl ⟨base, ⟨hopens, hurl⟩, perform_bind_ok hopen f⟩
  · refine .inr ⟨?_, e, perform_bind_error hopen f⟩
    rintro base ⟨hopens, hurl⟩
    rw [hnone hopens] at hurl
    cases hurl

theorem Settings.Connects.unique {base' : String} (h : s.Connects v base)
    (h' : s.Connects v base') : base' = base :=
  Option.some.inj (h'.2.symm.trans h.2)

/-! ## Lists -/

theorem eq_of_isShown {line line' : String} (h : IsShown short w line) (h' : IsShown short w line') :
    line = line' := by
  obtain ⟨address, rfl, haddress⟩ := h
  obtain ⟨address', rfl, haddress'⟩ := h'
  cases short with
  | false => rw [haddress, haddress']
  | true => rw [haddress.unique haddress']

theorem forall₂_isShown_iff (h : ∀ w ∈ ws, ∀ c ∈ w.address.toList, c.toNat < 128) :
    List.Forall₂ (IsShown short) ws lines ↔ lines = ws.map (shown short) := by
  induction ws generalizing lines with
  | nil => rw [List.forall₂_nil_left_iff, List.map_nil]
  | cons w ws ih =>
    rw [List.forall_mem_cons] at h
    have hshown := isShown_of_plain short h.1
    simp only [List.forall₂_cons_left_iff, ih h.2, List.map_cons]
    constructor
    · rintro ⟨line, more, hline, rfl, rfl⟩
      rw [eq_of_isShown hline hshown]
    · rintro rfl
      exact ⟨_, _, hshown, rfl, rfl⟩

theorem told_list_iff :
    ((request s fresh (.list short)).perform v).1 = .ok lines ↔
      IsAnswer s v ((request s fresh (.list short)).perform v).2 (.list short) lines := by
  have hperform : (request s fresh (.list short)).perform v =
      ((s.found v).map (·.map (shown short)), s.opened v) := perform_list_bind s v _
  rw [hperform, Json.map_eq_ok]
  simp only [IsAnswer, found_eq_ok_iff, and_assoc, exists_and_left]
  refine and_congr_right fun _ => exists_congr fun ws => and_congr_right fun hlisted => ?_
  rw [forall₂_isShown_iff (Store.plain_of_listed hlisted), eq_comm]

/-! ## Records -/

theorem contentAt_opened (s : Settings) (v : World) (place : Location) :
    (s.opened v).files.contentAt place = v.files.contentAt place :=
  (Tree.addsDirectories_withDirectories v.files v.start s.directory).contentAt_eq place

/-- A wallet that is created has the secret that came with the command. -/
theorem told_of_create (h : ((request s fresh (.create name)).perform v).1 = .ok lines) :
    lines = [name ++ ": " ++ Key.address fresh.point] := by
  unfold request at h
  rcases perform_keystore_bind s v fun k => do return [shown false (← k.createWallet name fresh)]
    with ⟨-, hperform⟩ | ⟨-, e, hperform⟩
  · rw [hperform, perform_bind_pure, Json.map_eq_ok] at h
    obtain ⟨w, hw, rfl⟩ := h
    obtain ⟨rfl, -⟩ := Keystore.steps_of_createWallet_eq_ok Protector.isQuiet_plain (Prod.ext hw rfl)
    rfl
  · rw [hperform] at h
    cases h

theorem told_create_iff :
    ((request s fresh (.create name)).perform v).1 = .ok lines ↔
      IsAnswer s v ((request s fresh (.create name)).perform v).2 (.create name) lines := by
  unfold request IsAnswer
  rcases perform_keystore_bind s v fun k => do return [shown false (← k.createWallet name fresh)]
    with ⟨-, hperform⟩ | ⟨-, e, hperform⟩
  · rw [hperform, perform_bind_pure, Json.map_eq_ok]
    have hadded (address : String) := Keystore.appended_by_createWallet (k := s.keystore)
      Protector.isQuiet_plain name address fresh (s.opened v)
    simp only [Store.appended_congr (u := s.opened v) (v := v) rfl (contentAt_opened s v)] at hadded
    constructor
    · rintro ⟨w, hw, rfl⟩
      obtain ⟨rfl, -⟩ :=
        Keystore.steps_of_createWallet_eq_ok Protector.isQuiet_plain (Prod.ext hw rfl)
      exact ⟨_, (hadded _).mpr hw, rfl⟩
    · rintro ⟨address, happended, rfl⟩
      exact ⟨_, (hadded address).mp happended, rfl⟩
  · rw [hperform]
    refine iff_of_false (by simp) ?_
    rintro ⟨address, happended, -⟩
    exact Store.not_appended (contentAt_opened s v) happended

/-! ## Questions -/

theorem finds_iff : s.Finds v name w ↔ (s.keystore.wallet name).perform v = (.ok w, v) := by
  rw [Keystore.perform_wallet_eq_ok, and_iff_right rfl]
  rfl

theorem Settings.Finds.unique {w' : Wallet} (h : s.Finds v name w) (h' : s.Finds v name w') :
    w' = w := by
  rw [finds_iff] at h h'
  rw [h] at h'
  exact (Except.ok.inj (Prod.mk.inj h').1).symm

theorem told_mine_iff :
    ((request s fresh (.mine name)).perform v).1 = .ok lines ↔
      IsAnswer s v ((request s fresh (.mine name)).perform v).2 (.mine name) lines := by
  unfold request IsAnswer
  rcases perform_client_bind s v fun c => do c.mineInto name; return []
    with ⟨base, hconnects, hperform⟩ | ⟨hnone, e, hperform⟩
  · rw [hperform, perform_bind_pure, Json.map_eq_ok]
    unfold Client.mineInto
    rcases s.keystore.wallet_cases name (s.opened v) with ⟨w, hw⟩ | ⟨e, he⟩
    · rw [perform_bind_ok hw, perform_node]
      simp only [mapError_eq_ok]
      constructor
      · rintro ⟨⟨⟩, hanswer, rfl⟩
        have hfinds : s.Finds (s.opened v) name w := finds_iff.mpr hw
        exact ⟨base, w, hconnects, hfinds, rfl, hanswer, rfl⟩
      · rintro ⟨base', w', hconnects', hfinds, -, hanswer, rfl⟩
        obtain rfl := hconnects.unique hconnects'
        obtain rfl := (finds_iff.mpr hw).unique (hfinds : s.Finds (s.opened v) name w')
        exact ⟨(), hanswer, rfl⟩
    · rw [perform_bind_error he]
      refine iff_of_false (by simp) ?_
      rintro ⟨base', w', -, -, hasked, -⟩
      simp [Settings.opened] at hasked
  · rw [hperform]
    refine iff_of_false (by simp) ?_
    rintro ⟨base, w, hconnects, -⟩
    exact hnone base hconnects

theorem told_balance_iff :
    ((request s fresh (.balance name)).perform v).1 = .ok lines ↔
      IsAnswer s v ((request s fresh (.balance name)).perform v).2 (.balance name) lines := by
  unfold request IsAnswer
  rcases perform_client_bind s v fun c => do return [s!"{← c.balance name}"]
    with ⟨base, hconnects, hperform⟩ | ⟨hnone, e, hperform⟩
  · rw [hperform, perform_bind_pure, Json.map_eq_ok]
    rcases s.keystore.wallet_cases name (s.opened v) with ⟨w, hw⟩ | ⟨e, he⟩
    · rw [Client.perform_balance (c := ⟨s.keystore, base⟩) hw]
      simp only [bind_eq_ok, mapError_eq_ok, Client.totalOf_eq_ok_iff, total?_eq_some_iff]
      constructor
      · rintro ⟨sum, ⟨us, hnode, htotal⟩, rfl⟩
        have hfinds : s.Finds (s.opened v) name w := finds_iff.mpr hw
        exact ⟨base, w, us, sum.toNat, hconnects, hfinds, rfl, hnode, htotal, sum.toNat_lt_size, rfl⟩
      · rintro ⟨base', w', us, _, hconnects', hfinds, -, hnode, rfl, hlt, rfl⟩
        obtain rfl := hconnects.unique hconnects'
        obtain rfl := (finds_iff.mpr hw).unique (hfinds : s.Finds (s.opened v) name w')
        have hsum := UInt64.toNat_ofNat_of_lt' hlt
        refine ⟨.ofNat _, ⟨us, hnode, hsum.symm⟩, ?_⟩
        rw [show toString (UInt64.ofNat _) = toString (UInt64.ofNat _).toNat from rfl, hsum]
    · rw [Client.perform_balance_of_error (c := ⟨s.keystore, base⟩) he]
      refine iff_of_false (by simp) ?_
      rintro ⟨base', w', us, sum, -, -, hasked, -⟩
      simp [Settings.opened] at hasked
  · rw [hperform]
    refine iff_of_false (by simp) ?_
    rintro ⟨base, w, us, sum, hconnects, -⟩
    exact hnone base hconnects

/-! ## Transfers -/

theorem perform_sent_bind {α : Type} {amount' : UInt64} (h : sent? amount = .ok amount')
    (f : UInt64 → Attempt α) :
    (ofExcept id (sent? amount) >>= f).perform v = (f amount').perform v := by
  refine perform_bind_ok ?_ f
  rw [perform_ofExcept, h, mapError_ok]

theorem perform_unsent_bind {α : Type} {e : Wallet.Error} (h : sent? amount = .error e)
    (f : UInt64 → Attempt α) : (ofExcept id (sent? amount) >>= f).perform v = (.error e, v) := by
  refine perform_bind_error ?_ f
  rw [perform_ofExcept, h, mapError_error, id_eq]

/-- An amount that is not positive is found out before anything else. -/
theorem perform_request_of_nonpositive (h : amount ≤ 0) :
    (request s fresh (.transfer sender recipient amount)).perform v = (.error .invalidAmount, v) := by
  unfold request
  exact perform_unsent_bind (if_neg (Int64.not_lt.mpr h)) _

theorem perform_request_of_connects {amount' : UInt64} (hsent : sent? amount = .ok amount')
    (hconnects : s.Connects v base) :
    let sent := (Client.transfer ⟨s.keystore, base⟩ sender recipient amount').perform (s.opened v)
    (request s fresh (.transfer sender recipient amount)).perform v =
      (sent.1.map fun tx => [tx.hash], sent.2) := by
  unfold request
  rw [perform_sent_bind hsent]
  rcases perform_client_bind s v fun c => do
      return [(← c.transfer sender recipient amount').hash]
    with ⟨base', hconnects', hperform⟩ | ⟨hnone, -⟩
  · obtain rfl := hconnects.unique hconnects'
    rw [hperform, perform_bind_pure]
  · exact absurd hconnects (hnone base)

/-- Nothing is asked of a node before a client is there, and then the transfer decides. -/
theorem perform_request_transfer (s : Settings) (fresh : SecretKey) (sender recipient : String)
    (amount : Int64) (v : World) :
    (∃ e u, (request s fresh (.transfer sender recipient amount)).perform v = (.error e, u) ∧
      u.asked = v.asked) ∨
    ∃ base amount', s.Connects v base ∧
      let sent := (Client.transfer ⟨s.keystore, base⟩ sender recipient amount').perform (s.opened v)
      (request s fresh (.transfer sender recipient amount)).perform v =
        (sent.1.map fun tx => [tx.hash], sent.2) := by
  cases hsent : sent? amount with
  | error e =>
    unfold request
    exact .inl ⟨e, v, perform_unsent_bind hsent _, rfl⟩
  | ok amount' =>
    rcases perform_client_bind s v fun c => do
        return [(← c.transfer sender recipient amount').hash]
      with ⟨base, hconnects, -⟩ | ⟨-, e, hperform⟩
    · exact .inr ⟨base, amount', hconnects, perform_request_of_connects hsent hconnects⟩
    · unfold request
      exact .inl ⟨e, s.opened v, (perform_sent_bind hsent _).trans hperform, rfl⟩

theorem told_transfer_iff :
    ((request s fresh (.transfer sender recipient amount)).perform v).1 = .ok lines ↔
      IsAnswer s v ((request s fresh (.transfer sender recipient amount)).perform v).2
        (.transfer sender recipient amount) lines := by
  unfold IsAnswer
  rcases perform_request_transfer s fresh sender recipient amount v with
    ⟨e, u, hfail, hsame⟩ | ⟨base, amount', hconnects, hend⟩
  · rw [hfail]
    refine iff_of_false (by simp) ?_
    rintro ⟨base, tx, -, hasked, -⟩
    simp [hsame] at hasked
  · rw [hend, Json.map_eq_ok]
    obtain ⟨result, asked, hpreparation, hperform⟩ :=
      Client.exists_preparation ⟨s.keystore, base⟩ sender recipient amount' (s.opened v)
    cases result with
    | error e =>
      rw [Client.perform_transfer_of_error hperform]
      refine iff_of_false (by simp) ?_
      rintro ⟨base', tx, -, hasked, -⟩
      rcases hpreparation.asked_cases with rfl | rfl <;> simp [Settings.opened] at hasked
    | ok tx =>
      rw [Client.perform_transfer_of_ok hperform]
      obtain ⟨-, rfl⟩ := hpreparation.isSigned
      simp only [Client.handedOver_eq_ok]
      constructor
      · rintro ⟨tx', ⟨rfl, hanswer⟩, rfl⟩
        exact ⟨base, tx', hconnects, List.append_assoc _ _ _, hanswer, rfl⟩
      · rintro ⟨base', tx', hconnects', hasked, hanswer, rfl⟩
        obtain rfl := hconnects.unique hconnects'
        rw [List.append_assoc] at hasked
        obtain rfl : tx = tx' := by simpa using List.append_cancel_left hasked
        exact ⟨tx, ⟨rfl, hanswer⟩, rfl⟩

/-- A command tells its complete answer, if there is one, and nothing else. -/
theorem told_iff (s : Settings) (fresh : SecretKey) (command : Command) (v : World)
    (lines : List String) :
    ((request s fresh command).perform v).1 = .ok lines ↔
      IsAnswer s v ((request s fresh command).perform v).2 command lines := by
  cases command with
  | list short => exact told_list_iff
  | create name => exact told_create_iff
  | mine name => exact told_mine_iff
  | balance name => exact told_balance_iff
  | transfer sender recipient amount => exact told_transfer_iff

end UtxoWallet.CommandLine
