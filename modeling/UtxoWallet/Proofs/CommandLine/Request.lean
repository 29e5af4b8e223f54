import UtxoWallet.Proofs.CommandLine.Printing
import UtxoWallet.Proofs.Files.Directory

/-! # What a command does before it tells anything -/

namespace UtxoWallet.CommandLine

open Attempt Result Wallet Curve Files

variable {s : Settings} {fresh : SecretKey} {v v' : World} {e : Wallet.Error}

/-! ## The lines of an answer -/

/-- All that a command does, and the lines that it tells when that has gone well. -/
def request (s : Settings) (fresh : SecretKey) : Command → Attempt (List String)
  | .list short => do
    let keystore ← openKeystore s
    let wallets ← keystore.list
    return wallets.map (shown short)
  | .create name => do
    let keystore ← openKeystore s
    let w ← keystore.createWallet name fresh
    return [shown false w]
  | .mine wallet => do
    let client ← openClient s
    client.mineInto wallet
    return []
  | .balance wallet => do
    let client ← openClient s
    let balance ← client.balance wallet
    return [s!"{balance}"]
  | .transfer sender recipient amount => do
    let amount ← Attempt.ofExcept id (sent? amount)
    let client ← openClient s
    let tx ← client.transfer sender recipient amount
    return [tx.hash]

open Printing in
theorem tells_carryOut (s : Settings) (fresh : SecretKey) (command : Command) :
    Tells (carryOut s fresh command) (request s fresh command) := by
  cases command with
  | list short => exact tells_bind _ fun _ => tells_bind _ fun wallets => tells_forM _ wallets
  | create name => exact tells_bind _ fun _ => tells_bind _ fun _ => tells_line _
  | mine wallet =>
    have hmine (client : Client) : Tells (attempt (client.mineInto wallet))
        (do client.mineInto wallet; return []) := by
      rw [← bind_pure (attempt _)]
      exact tells_bind _ fun _ => tells_pure
    exact tells_bind _ fun client => hmine client
  | balance wallet => exact tells_bind _ fun _ => tells_bind _ fun _ => tells_line _
  | transfer sender recipient amount =>
    exact tells_bind _ fun _ => tells_bind _ fun _ => tells_bind _ fun _ => tells_line _

/-- What is reported of these lines, or of what went wrong. -/
def reported : Except Wallet.Error (List String) → Report
  | .ok lines => ⟨0, Printing.linesText lines, ""⟩
  | .error error => ⟨1, "", "error: " ++ error.message ++ "\n"⟩

theorem run_of_read {environment : Environment} {arguments : List String} {i : Invocation}
    (h : read arguments = .ok i) (fresh : SecretKey) (v : World) :
    (run environment fresh arguments).run v =
      (reported ((request (settings i environment) fresh i.command).perform v).1,
        ((request (settings i environment) fresh i.command).perform v).2) := by
  have htells := tells_carryOut (settings i environment) fresh i.command "" v
  unfold run
  rw [h]
  show ((carryOut _ fresh i.command).run.run "" >>= fun p => pure (Report.of p) : Program _).run v = _
  rw [Program.run_bind]
  rw [Printing.perform] at htells
  rw [htells]
  cases ((request (settings i environment) fresh i.command).perform v).1 with
  | error error => rfl
  | ok lines => simp [Printing.told, Report.of, reported]

/-- What a command answers is what it tells, as it is printed. -/
theorem perform_answer (s : Settings) (fresh : SecretKey) (command : Command) (v : World) :
    (answer s fresh command).perform v =
      (((request s fresh command).perform v).1.map Printing.linesText,
        ((request s fresh command).perform v).2) := by
  have htells := tells_carryOut s fresh command "" v
  unfold answer
  show ((carryOut s fresh command).run.run "" >>= fun p => pure (p.1.map fun _ => p.2) :
    Program _).run v = _
  rw [Program.run_bind]
  rw [Printing.perform] at htells
  rw [htells]
  cases ((request s fresh command).perform v).1 with
  | error error => rfl
  | ok lines => simp [Printing.told, Except.map]

/-! ## Opening -/

/-- The URL of the node that is asked. -/
def Settings.url? (s : Settings) : Option String := do
  let config ← (Node.Config.ofAddress (← s.node)).toOption
  let config ← config.normal.toOption
  return config.url

/-- The world once the wallet directory is made, as far as it can be. -/
def Settings.opened (s : Settings) (v : World) : World :=
  { v with files := v.files.withDirectories v.start s.directory }

/-- Where the wallet directory is there already, nothing is made. -/
theorem Settings.opened_of_hasDirectory
    (h : s.directory = "" ∨ v.files.hasDirectory v.start s.directory = true) : s.opened v = v := by
  rw [opened, Tree.withDirectories_of_hasDirectory h]

/-- What is configured, if the node is one. -/
def Settings.config (s : Settings) : Except Wallet.Error Config :=
  match s.node with
  | some node => Config.withNode { directory := s.directory } node
  | none => .ok { directory := s.directory }

/-- What is configured, if the wallet directory is there in the end. -/
def Settings.opening (s : Settings) (v : World) : Except Wallet.Error Config := do
  let _ ← (v.files.makeDirectories v.start s.directory).mapError Wallet.Error.io
  s.config

/-- The wallet directory is there or can be made, and a node that is given has an address. -/
def Settings.Opens (s : Settings) (v : World) : Prop :=
  (∃ files, v.files.makeDirectories v.start s.directory = .ok files) ∧
    ∀ node, s.node = some node → ∃ config, Node.Config.ofAddress node = .ok config

theorem perform_bind_of_still {α β : Type} {a : Attempt α} {result : Except Wallet.Error α}
    {f : α → Attempt β} {g : α → Except Wallet.Error β} (h : a.perform v = (result, v'))
    (hf : ∀ x, (f x).perform v' = (g x, v')) : (a >>= f).perform v = (result >>= g, v') := by
  cases result with
  | error e => exact perform_bind_error h f
  | ok x => rw [perform_bind_ok h, hf, ok_bind]

theorem perform_openConfig (s : Settings) (v : World) :
    (openConfig s).perform v = (s.opening v, s.opened v) := by
  have hmake : (Config.ensureDirectory { directory := s.directory }).perform v =
      (((v.files.makeDirectories v.start s.directory).map fun _ => ()).mapError .io, s.opened v) :=
    rfl
  unfold openConfig Settings.opening
  rw [perform_bind_of_still hmake (g := fun _ => s.config)]
  · cases v.files.makeDirectories v.start s.directory <;> rfl
  · intro _
    rw [Settings.config]
    cases s.node with
    | none => rfl
    | some node =>
      cases hnode : Config.withNode { directory := s.directory } node <;> simp [hnode]

/-- What comes of opening where that goes well. -/
def Settings.opensTo (s : Settings) : Config where
  directory := s.directory
  node := s.node.bind fun node => (Node.Config.ofAddress node).toOption

theorem config_eq_ok_iff {config : Config} :
    s.config = .ok config ↔
      (∀ node, s.node = some node → ∃ config', Node.Config.ofAddress node = .ok config') ∧
        config = s.opensTo := by
  unfold Settings.config Config.withNode Settings.opensTo
  cases s.node with
  | none => simp [eq_comm]
  | some node => cases h : Node.Config.ofAddress node <;> simp [h, Except.toOption, eq_comm]

theorem Settings.opening_cases (s : Settings) (v : World) :
    s.Opens v ∧ s.opening v = .ok s.opensTo ∨ ¬s.Opens v ∧ ∃ e, s.opening v = .error e := by
  have hiff : ∀ config, s.opening v = .ok config ↔ s.Opens v ∧ config = s.opensTo := by
    intro config
    rw [opening, bind_eq_ok, Opens]
    simp only [mapError_eq_ok, config_eq_ok_iff, exists_and_right, and_assoc]
  cases hopening : s.opening v with
  | error e =>
    refine .inr ⟨fun hopens => ?_, e, rfl⟩
    rw [(hiff _).mpr ⟨hopens, rfl⟩] at hopening
    cases hopening
  | ok config =>
    obtain ⟨hopens, rfl⟩ := (hiff config).mp hopening
    exact .inl ⟨hopens, rfl⟩

/-- The wallets in the directory, with key files as they are. -/
def Settings.keystore (s : Settings) : Keystore := ⟨⟨s.directory⟩, .plain⟩

/-- Whatever comes of opening, the directory is made. -/
theorem perform_openKeystore (s : Settings) (v : World) :
    s.Opens v ∧ (openKeystore s).perform v = (.ok s.keystore, s.opened v) ∨
      ¬s.Opens v ∧ ∃ e, (openKeystore s).perform v = (.error e, s.opened v) := by
  have hperform : (openKeystore s).perform v =
      (s.opening v >>= fun c => .ok c.keystore, s.opened v) :=
    perform_bind_of_still (perform_openConfig s v) fun _ => rfl
  rw [hperform]
  rcases s.opening_cases v with ⟨hopens, hopening⟩ | ⟨hclosed, e, hopening⟩
  · rw [hopening]
    exact .inl ⟨hopens, rfl⟩
  · rw [hopening]
    exact .inr ⟨hclosed, e, rfl⟩

/-- The client for a node that is configured. -/
def clientOf (config : Config) : Except Wallet.Error Client := do
  let node ← config.nodeOr nodeHint
  let node ← node.normal.mapError .network
  return ⟨config.keystore, node.url⟩

theorem clientOf_eq (s : Settings) :
    (∃ base, s.url? = some base ∧
      clientOf s.opensTo = .ok ⟨s.keystore, base⟩) ∨
    s.url? = none ∧ ∃ e, clientOf s.opensTo = .error e := by
  unfold clientOf Settings.opensTo Settings.url? Config.nodeOr
  cases s.node with
  | none => exact .inr ⟨rfl, _, rfl⟩
  | some node =>
    simp only [Option.bind_eq_bind, Option.bind_some]
    cases Node.Config.ofAddress node with
    | error e => exact .inr ⟨rfl, _, rfl⟩
    | ok config =>
      simp only [Except.toOption, Option.bind_some, Option.elim_some, ok_bind]
      cases config.normal with
      | error e => exact .inr ⟨rfl, _, rfl⟩
      | ok normal => exact .inl ⟨normal.url, rfl, rfl⟩

/-- A client is there exactly if all can be opened and there is a URL to ask. -/
theorem perform_openClient (s : Settings) (v : World) :
    (∃ base, s.Opens v ∧ s.url? = some base ∧
      (openClient s).perform v = (.ok ⟨s.keystore, base⟩, s.opened v)) ∨
    (s.Opens v → s.url? = none) ∧ ∃ e, (openClient s).perform v = (.error e, s.opened v) := by
  have hperform : (openClient s).perform v = (s.opening v >>= clientOf, s.opened v) := by
    refine perform_bind_of_still (perform_openConfig s v) ?_
    intro config
    rw [clientOf]
    cases hnode : config.nodeOr nodeHint with
    | error e => rfl
    | ok node =>
      rw [perform_bind_ok (x := node) (v := s.opened v) rfl, ok_bind]
      cases node.normal <;> rfl
  rw [hperform]
  rcases s.opening_cases v with ⟨hopens, hopening⟩ | ⟨hclosed, e, hopening⟩
  · rw [hopening, ok_bind]
    rcases clientOf_eq s with ⟨base, hurl, hclient⟩ | ⟨hurl, e, hclient⟩
    · exact .inl ⟨base, hopens, hurl, by rw [hclient]⟩
    · exact .inr ⟨fun _ => hurl, e, by rw [hclient]⟩
  · rw [hopening]
    exact .inr ⟨fun hopens => absurd hopens hclosed, e, rfl⟩

end UtxoWallet.CommandLine
