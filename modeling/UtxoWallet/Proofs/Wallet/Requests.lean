import UtxoWallet.Proofs.Wallet.InStep
import UtxoWallet.Proofs.Wallet.Sending

/-! # Whatever is asked of a client -/

namespace UtxoWallet.Wallet

open Attempt Result Files Curve Ledger

/-! ## Requests that change no file -/

theorem Store.onlyAsks_list (s : Store) : OnlyAsks s.list := fun v => ⟨v.asked, rfl⟩

theorem Keystore.onlyAsks_wallet (k : Keystore) (name : String) : OnlyAsks (k.wallet name) := by
  unfold wallet Store.find
  refine onlyAsks_bind (onlyAsks_bind k.store.onlyAsks_list fun _ => onlyAsks_pure _) ?_
  intro found
  cases found with
  | none => exact onlyAsks_throw _
  | some w => exact onlyAsks_pure w

theorem Keystore.onlyAsks_loadKey (k : Keystore) (w : Wallet) : OnlyAsks (k.loadKey w) :=
  onlyAsks_bind (onlyAsks_read _) fun _ => onlyAsks_ofExcept _ _

namespace Client

variable (c : Client)

theorem onlyAsks_unspentOutputs (w : Wallet) : OnlyAsks (c.unspentOutputs w) :=
  onlyAsks_bind (onlyAsks_node _ _) fun _ => onlyAsks_pure _

theorem onlyAsks_balance (name : String) : OnlyAsks (c.balance name) :=
  onlyAsks_bind (c.keystore.onlyAsks_wallet name) fun w =>
    onlyAsks_bind (c.onlyAsks_unspentOutputs w) fun _ => onlyAsks_ofExcept _ _

theorem onlyAsks_mineInto (name : String) : OnlyAsks (c.mineInto name) :=
  onlyAsks_bind (c.keystore.onlyAsks_wallet name) fun _ => onlyAsks_node _ _

theorem onlyAsks_prepareTransfer (sender recipient : String) (amount : UInt64) :
    OnlyAsks (c.prepareTransfer sender recipient amount) := by
  intro v
  obtain ⟨result, asked, -, h⟩ := exists_preparation c sender recipient amount v
  exact ⟨v.asked ++ asked, congrArg Prod.snd h⟩

theorem onlyAsks_transfer (sender recipient : String) (amount : UInt64) :
    OnlyAsks (c.transfer sender recipient amount) :=
  onlyAsks_bind (c.onlyAsks_prepareTransfer sender recipient amount) fun _ =>
    onlyAsks_bind (onlyAsks_node _ _) fun _ => onlyAsks_pure _

end Client

/-! ## Requests -/

inductive Request where
  /-- With the secret that is drawn for the wallet. -/
  | createWallet (name : String) (secret : SecretKey)
  | list
  | wallet (name : String)
  | loadKey (w : Wallet)
  | balance (name : String)
  | mineInto (name : String)
  | prepareTransfer (sender recipient : String) (amount : UInt64)
  | transfer (sender recipient : String) (amount : UInt64)

namespace Client

variable {c : Client} {v v' : World} {made : List (Wallet × SecretKey)} {place q : Location}

/-- Does what is requested, and tells which wallets it made with which secrets. -/
def serve (c : Client) : Request → Attempt (List (Wallet × SecretKey))
  | .createWallet name secret => do
    let w ← c.keystore.createWallet name secret
    return [(w, secret)]
  | .list => do
    let _ ← c.keystore.list
    return []
  | .wallet name => do
    let _ ← c.keystore.wallet name
    return []
  | .loadKey w => do
    let _ ← c.keystore.loadKey w
    return []
  | .balance name => do
    let _ ← c.balance name
    return []
  | .mineInto name => do
    c.mineInto name
    return []
  | .prepareTransfer sender recipient amount => do
    let _ ← c.prepareTransfer sender recipient amount
    return []
  | .transfer sender recipient amount => do
    let _ ← c.transfer sender recipient amount
    return []

/-- The wallets that came of a request. A failure makes none. -/
def cameOf (result : Except Error (List (Wallet × SecretKey))) : List (Wallet × SecretKey) :=
  result.toOption.getD []

/-- The wallets that came of these requests, one after the other, and the world after the last. -/
def serveAll (c : Client) : List Request → World → List (Wallet × SecretKey) × World
  | [], v => ([], v)
  | r :: requests, v =>
    let (result, v) := (c.serve r).perform v
    let (made, v) := c.serveAll requests v
    (cameOf result ++ made, v)

/-- A request that makes no wallet, whatever it comes to. -/
def IsIdle (a : Attempt (List (Wallet × SecretKey))) : Prop :=
  OnlyAsks a ∧ ∀ v, cameOf (a.perform v).1 = []

theorem isIdle_discard {α : Type} {a : Attempt α} (h : OnlyAsks a) :
    IsIdle (do let _ ← a; return []) := by
  refine ⟨onlyAsks_bind h fun _ => onlyAsks_pure _, ?_⟩
  intro v
  rcases ha : a.perform v with ⟨result, u⟩
  cases result with
  | error e =>
    rw [perform_bind_error ha]
    rfl
  | ok x =>
    rw [perform_bind_ok ha]
    rfl

theorem isIdle_serve (c : Client) (r : Request) :
    (∃ name secret, r = .createWallet name secret) ∨ IsIdle (c.serve r) := by
  cases r with
  | createWallet name secret => exact .inl ⟨name, secret, rfl⟩
  | list => exact .inr (isIdle_discard c.keystore.store.onlyAsks_list)
  | wallet name => exact .inr (isIdle_discard (c.keystore.onlyAsks_wallet name))
  | loadKey w => exact .inr (isIdle_discard (c.keystore.onlyAsks_loadKey w))
  | balance name => exact .inr (isIdle_discard (c.onlyAsks_balance name))
  | mineInto name => exact .inr (isIdle_discard (c.onlyAsks_mineInto name))
  | prepareTransfer sender recipient amount =>
    exact .inr (isIdle_discard (c.onlyAsks_prepareTransfer sender recipient amount))
  | transfer sender recipient amount =>
    exact .inr (isIdle_discard (c.onlyAsks_transfer sender recipient amount))

/-! ## One request -/

/-- A wallet comes of a request, or its world is left as an attempt that failed leaves it. -/
theorem serve_cases (hquiet : c.keystore.protector.IsQuiet) (r : Request) (v : World) :
    (∃ secret w t place stored old mode, r = .createWallet w.name secret ∧
      cameOf ((c.serve r).perform v).1 = [(w, secret)] ∧
      c.keystore.IsMade secret v w ((c.serve r).perform v).2 t place stored old mode) ∨
    cameOf ((c.serve r).perform v).1 = [] ∧ ∃ u asked,
      (u = v ∨ u = { v with
        files := v.files.withDirectories v.start c.keystore.store.directory }) ∧
      ((c.serve r).perform v).2 = { u with asked } := by
  rcases isIdle_serve c r with ⟨name, secret, rfl⟩ | ⟨hasks, hidle⟩
  · rw [serve]
    rcases h : (c.keystore.createWallet name secret).perform v with ⟨result, u⟩
    cases result with
    | error e =>
      rw [perform_bind_error h]
      have hleft := (Keystore.untouched_of_createWallet_eq_error hquiet h).left
      exact .inr ⟨rfl, u, u.asked, hleft.imp_right And.right, rfl⟩
    | ok w =>
      rw [perform_bind_ok h]
      obtain ⟨t, place, stored, old, mode, hmade⟩ :=
        Keystore.exists_isMade_of_createWallet_eq_ok hquiet h
      obtain ⟨rfl, -⟩ := Keystore.steps_of_createWallet_eq_ok hquiet h
      exact .inl ⟨secret, _, t, place, stored, old, mode, rfl, rfl, hmade⟩
  · obtain ⟨asked, hasked⟩ := hasks v
    exact .inr ⟨hidle v, v, asked, .inl rfl, hasked⟩

theorem inStep_serve (hquiet : c.keystore.protector.IsQuiet)
    (hrecovers : c.keystore.protector.Recovers) (h : InStep c.keystore place v made) (r : Request) :
    InStep c.keystore place ((c.serve r).perform v).2 (made ++ cameOf ((c.serve r).perform v).1) := by
  rcases serve_cases hquiet r v with ⟨_, _, _, _, _, _, _, -, hcame, hmade⟩ |
    ⟨hcame, u, asked, hleft, hworld⟩
  · rw [hcame]
    exact h.concat hrecovers hmade
  · rw [hcame, hworld, List.append_nil]
    exact (h.of_left hleft).with_asked asked

/-- A request of which no wallet comes leaves the directory as it was. -/
theorem get?_serve (hquiet : c.keystore.protector.IsQuiet) (h : InStep c.keystore place v made)
    {r : Request} (hidle : cameOf ((c.serve r).perform v).1 = []) (hq : q ≠ []) :
    ((c.serve r).perform v).2.files.get? (place ++ q) = v.files.get? (place ++ q) := by
  rcases serve_cases hquiet r v with ⟨_, _, _, _, _, _, _, -, hcame, -⟩ |
    ⟨-, u, asked, hleft, hworld⟩
  · rw [hidle] at hcame
    cases hcame
  · have hu := h.get?_of_left hleft hq
    rw [hworld]
    exact hu

/-! ## Many requests -/

theorem inStep_serveAll (hquiet : c.keystore.protector.IsQuiet)
    (hrecovers : c.keystore.protector.Recovers) (h : InStep c.keystore place v made)
    (requests : List Request) :
    InStep c.keystore place (c.serveAll requests v).2 (made ++ (c.serveAll requests v).1) := by
  induction requests generalizing v made with
  | nil => simpa [serveAll] using h
  | cons r requests ih =>
    -- The rest starts with the wallets and the world that `r` leaves.
    have hafter := ih (inStep_serve hquiet hrecovers h r)
    rw [List.append_assoc] at hafter
    exact hafter

theorem mem_of_mem_serveAll (hquiet : c.keystore.protector.IsQuiet) {requests : List Request}
    {p : Wallet × SecretKey} (hp : p ∈ (c.serveAll requests v).1) :
    .createWallet p.1.name p.2 ∈ requests := by
  induction requests generalizing v with
  | nil => cases hp
  | cons r requests ih =>
    rw [serveAll, List.mem_append] at hp
    rcases hp with hp | hp
    · rcases serve_cases hquiet r v with ⟨secret, w, _, _, _, _, _, hr, hcame, -⟩ | ⟨hcame, -⟩
      · rw [hcame, List.mem_singleton] at hp
        rw [hp, ← hr]
        exact List.mem_cons_self
      · rw [hcame] at hp
        cases hp
    · exact List.mem_cons_of_mem r (ih hp)

/-- In a directory that was empty or not there, records and key files stay in step, whatever is
requested and whatever the node answers. -/
theorem directory_after_requests (hquiet : c.keystore.protector.IsQuiet)
    (hrecovers : c.keystore.protector.Recovers) (h : c.keystore.store.Fresh v place)
    (requests : List Request) :
    let made := (c.serveAll requests v).1
    let v' := (c.serveAll requests v).2
    c.keystore.list.perform v' = (.ok (made.map (·.1)), v') ∧
    ((made.map (·.1)).map (·.name)).Nodup ∧
    (∀ p ∈ made, .createWallet p.1.name p.2 ∈ requests ∧
      p.1.keyRef = keyFileStart ++ p.1.name ∧ (c.keystore.loadKey p.1).perform v' = (.ok p.2, v')) ∧
    (∀ q, q ≠ [] → ((v'.files.get? (place ++ q)).isSome = true ↔
      made ≠ [] ∧ q = [recordFile] ∨ ∃ p ∈ made, q = [p.1.keyRef])) ∧
    ∀ r, cameOf ((c.serve r).perform v').1 = [] → ∀ q, q ≠ [] →
      ((c.serve r).perform v').2.files.get? (place ++ q) = v'.files.get? (place ++ q) := by
  intro made v'
  have hin : InStep c.keystore place v' made := inStep_serveAll hquiet hrecovers h.inStep requests
  refine ⟨?_, hin.names, ?_, fun q hq => hin.isSome_get?_iff hq, ?_⟩
  · rw [Keystore.list, Store.perform_list, hin.log.listed]
  · intro p hp
    exact ⟨mem_of_mem_serveAll hquiet hp, hin.keyRef_eq hp, hin.perform_loadKey hp⟩
  · intro r hidle q hq
    exact get?_serve hquiet hin hidle hq

/-- A wallet, its balance, and the same name once more. -/
def sampleRequests (secret : SecretKey) : List Request :=
  [.createWallet "alice" secret, .balance "alice", .createWallet "alice" secret]

theorem fresh_home : (⟨"home"⟩ : Store).Fresh (.atRoot {} []) ["home"] := by
  have hmade : ({} : Tree).makeDirectories [] "home" = .ok ⟨[(["home"], .directory)]⟩ := by
    decide +kernel
  refine ⟨⟨by decide +kernel, _, hmade, by decide +kernel⟩, ?_⟩
  intro t ht
  obtain rfl := Except.ok.inj (hmade.symm.trans ht)
  refine ⟨by unfold Tree.LeadsTo; decide +kernel, ?_⟩
  intro q hq
  obtain ⟨name, names, rfl⟩ := List.exists_cons_of_ne_nil hq
  rfl

theorem directory_after_requests_home :
    let c : Client := ⟨⟨⟨"home"⟩, .plain⟩, "http://localhost"⟩
    let secret : SecretKey := ⟨1, by decide, by decide⟩
    let v' := (c.serveAll (sampleRequests secret) (.atRoot {} [])).2
    ∃ w, c.keystore.list.perform v' = (.ok [w], v') ∧
      (c.keystore.loadKey w).perform v' = (.ok secret, v') := by
  intro c secret v'
  have hmade : ((c.serveAll (sampleRequests secret) (.atRoot {} [])).1.map (·.2)) = [secret] := by
    decide +kernel
  obtain ⟨⟨w, secret'⟩, hone⟩ := List.length_eq_one_iff.mp (by simpa using congrArg List.length hmade)
  obtain ⟨hlist, -, hkeys, -⟩ := directory_after_requests (c := c) Protector.isQuiet_plain
    Protector.recovers_plain fresh_home (sampleRequests secret)
  rw [hone] at hlist hkeys hmade
  obtain rfl : secret' = secret := by simpa using hmade
  exact ⟨w, hlist, (hkeys _ (List.mem_singleton_self _)).2.2⟩

end Client

end UtxoWallet.Wallet
