import UtxoWallet.Proofs.Wallet.Phases
import UtxoWallet.Proofs.Wallet.Requests
import UtxoWallet.Proofs.Wallet.Shared

/-! # Wallets that are made side by side

Between the look for a name and its record, others may have the same name in mind. No lock is taken.
The key file is the lock: only whoever has written it adds a record with its name.
-/

namespace UtxoWallet.Wallet

open Attempt Result Files Curve

/-! ## What a call has in each phase -/

namespace Phase

/-- The key file is written and not removed. -/
def Holds : Phase → Prop
  | written | confirmed | recording | discarding _ | ended (.ok _) => True
  | begun | checked _ | ready _ | ended (.error _) => False

def Recorded : Phase → Prop
  | ended (.ok _) => True
  | _ => False

theorem recorded_iff {p : Phase} : p.Recorded ↔ ∃ w, p = .ended (.ok w) := by
  unfold Recorded
  split
  · next w => simp
  · next hne => simpa using hne

theorem Recorded.holds {p : Phase} (h : p.Recorded) : p.Holds := by
  unfold Recorded at h
  split at h
  · trivial
  · cases h

end Phase

variable {ι : Type} {c : Calls ι} {i j : ι} {k : Keystore} {v₀ v v' : World}
  {before : List Wallet} {phases : ι → Phase} {order order' : List ι} {p p' : Phase}

/-! ## Sound calls -/

def Calls.IsNew (c : Calls ι) (before : List Wallet) (i : ι) : Prop :=
  ¬∃ u ∈ before, u.name = c.name i

/-- What is known of a call in this phase. -/
def Phase.Sound (c : Calls ι) (i : ι) (k : Keystore) (before : List Wallet) (v : World) :
    Phase → Prop
  | begun => isName (c.name i) = true
  | checked stored => isName (c.name i) = true ∧ c.IsNew before i ∧
      k.readKey (c.wallet i) stored = .ok (c.secret i)
  | ready stored => isName (c.name i) = true ∧ c.IsNew before i ∧
      k.readKey (c.wallet i) stored = .ok (c.secret i) ∧
      (k.store.directory = "" ∨ v.files.hasDirectory v.start k.store.directory = true)
  | written | confirmed | recording | discarding _ => c.IsNew before i
  | ended (.ok w) => c.IsNew before i ∧ w = c.wallet i
  | ended (.error _) => True

/-- The calls are in these phases, and these calls have added their records, in this order. -/
structure Sound (c : Calls ι) (k : Keystore) (v₀ : World) (before : List Wallet)
    (phases : ι → Phase) (order : List ι) (v : World) : Prop where
  shared : Shared c k v₀ before (fun i => (phases i).Holds) order v
  sound : ∀ i, (phases i).Sound c i k before v
  nodup : order.Nodup
  recorded : ∀ i, i ∈ order ↔ (phases i).Recorded

theorem Phase.Sound.of_keepsDirectories (h : p.Sound c i k before v) (hstart : v'.start = v.start)
    (hkept : Tree.KeepsDirectories v.files v'.files) : p.Sound c i k before v' := by
  cases p with
  | ready stored =>
    obtain ⟨hname, hnew, hkey, hthere⟩ := h
    rw [← hstart] at hthere
    exact ⟨hname, hnew, hkey, hthere.imp_right (Tree.hasDirectory_of_keepsDirectories hkept)⟩
  | ended result => cases result <;> exact h
  | _ => exact h

theorem Phase.Sound.named_or_ended (h : p.Sound c i k before v)
    (hname : p.Holds → isName (c.name i) = true) :
    isName (c.name i) = true ∨ ∃ result, p = .ended result := by
  cases p with
  | begun => exact .inl h
  | checked | ready => exact .inl h.1
  | written | confirmed | recording | discarding => exact .inl (hname trivial)
  | ended result => exact .inr ⟨result, rfl⟩

theorem Phase.Sound.isNew (h : p.Sound c i k before v) (hp : p.Holds) : c.IsNew before i := by
  cases p with
  | begun | checked | ready => cases hp
  | written | confirmed | recording | discarding => exact h
  | ended result =>
    cases result with
    | ok w => exact h.1
    | error e => cases hp

/-! ## One step -/

namespace Sound

variable [DecidableEq ι]

theorem update (h : Sound c k v₀ before phases order v)
    (hkept : Tree.KeepsDirectories v.files v'.files)
    (hshared : Shared c k v₀ before (fun j => (Function.update phases i p' j).Holds) order' v')
    (hown : p'.Sound c i k before v') (hnodup : order'.Nodup)
    (hrecorded : ∀ j, j ∈ order' ↔ (Function.update phases i p' j).Recorded) :
    Sound c k v₀ before (Function.update phases i p') order' v' := by
  refine ⟨hshared, ?_, hnodup, hrecorded⟩
  rw [Function.forall_update_iff phases fun j q => q.Sound c j k before v']
  refine ⟨hown, ?_⟩
  intro j _
  exact (h.sound j).of_keepsDirectories (hshared.start.trans h.shared.start.symm) hkept

/-! What holds of the phases of all calls when one of them is new. -/

theorem iff_update {Q : Phase → Prop} (hp : phases i = p) (hQ : Q p' ↔ Q p) (j : ι) :
    Q (phases j) ↔ Q (Function.update phases i p' j) := by
  rw [Function.update_apply]
  split
  · next heq => rw [heq, hp, hQ]
  · rfl

theorem or_iff_update {Q : Phase → Prop} (hQ : Q p') (j : ι) :
    j = i ∨ Q (phases j) ↔ Q (Function.update phases i p' j) := by
  rw [Function.update_apply]
  split
  · next heq => simp [heq, hQ]
  · next hne => simp [hne]

theorem and_iff_update {Q : Phase → Prop} (hQ : ¬Q p') (j : ι) :
    Q (phases j) ∧ j ≠ i ↔ Q (Function.update phases i p' j) := by
  rw [Function.update_apply]
  split
  · next heq => simp [heq, hQ]
  · next hne => simp [hne]

theorem mem_iff_update (h : Sound c k v₀ before phases order v) (hp : phases i = p)
    (hrecorded : p'.Recorded ↔ p.Recorded) (j : ι) :
    j ∈ order ↔ (Function.update phases i p' j).Recorded := by
  rw [h.recorded, iff_update hp hrecorded]

theorem quiet (h : Sound c k v₀ before phases order v) (hp : phases i = p)
    (hholds : p'.Holds ↔ p.Holds) (hrecorded : p'.Recorded ↔ p.Recorded)
    (hkept : Tree.KeepsDirectories v.files v'.files)
    (hshared : Shared c k v₀ before (fun j => (phases j).Holds) order v')
    (hown : p'.Sound c i k before v') :
    Sound c k v₀ before (Function.update phases i p') order v' :=
  h.update hkept (hshared.congr (iff_update hp hholds)) hown h.nodup
    (h.mem_iff_update hp hrecorded)

theorem unchanged (h : Sound c k v₀ before phases order v) (hp : phases i = p)
    (hholds : p'.Holds ↔ p.Holds) (hrecorded : p'.Recorded ↔ p.Recorded)
    (hown : p'.Sound c i k before v) :
    Sound c k v₀ before (Function.update phases i p') order v :=
  h.quiet hp hholds hrecorded (fun _ hq => hq) h.shared hown

theorem directories (h : Sound c k v₀ before phases order v) (hp : phases i = p)
    (hholds : p'.Holds ↔ p.Holds) (hrecorded : p'.Recorded ↔ p.Recorded)
    (hown : p'.Sound c i k before
      { v with files := v.files.withDirectories v.start k.store.directory }) :
    Sound c k v₀ before (Function.update phases i p') order
      { v with files := v.files.withDirectories v.start k.store.directory } :=
  h.quiet hp hholds hrecorded
    (Tree.addsDirectories_withDirectories v.files v.start k.store.directory).extends.keepsDirectories
    h.shared.withDirectories hown

/-! What the steps do to the calls that hold a key file and to those that have added a record. -/

theorem create (h : Sound c k v₀ before phases order v) {stored : ByteArray} {files : Tree}
    (hp : phases i = .ready stored)
    (hfiles : v.files.create v.start (k.store.keyPath (c.wallet i)) keyFileMode stored = .ok files) :
    Sound c k v₀ before (Function.update phases i .written) order { v with files } := by
  have hown := h.sound i
  rw [hp] at hown
  obtain ⟨hname, hnew, hkey, hthere⟩ := hown
  obtain ⟨_, -, -, -, hchange⟩ := Tree.changesOnly_create hfiles
  have hshared := h.shared.create hname hthere hkey hfiles
  have hheld : Phase.Holds .written := trivial
  exact h.update hchange.keepsDirectories (hshared.congr (or_iff_update hheld)) hnew h.nodup
    (h.mem_iff_update hp .rfl)

theorem append (h : Sound c k v₀ before phases order v) {files : Tree}
    (hp : phases i = .recording)
    (hfiles : v.files.append v.start k.store.recordPath (c.wallet i).record = .ok files) :
    Sound c k v₀ before (Function.update phases i (.ended (.ok (c.wallet i)))) (order ++ [i])
      { v with files } := by
  have hheld : (phases i).Holds := by rw [hp]; trivial
  have hnew := (h.sound i).isNew hheld
  -- Whoever has added its record has ended, so this one is new to the order.
  have hlast : i ∉ order := by
    rw [h.recorded, hp]
    exact id
  have hshared := h.shared.append hheld hfiles
  have hrecorded : Phase.Recorded (.ended (.ok (c.wallet i))) := trivial
  refine h.update (Tree.keepsDirectories_append hfiles)
    (hshared.congr (iff_update (Q := Phase.Holds) hp .rfl)) ⟨hnew, rfl⟩ ?_ ?_
  · rw [List.nodup_append]
    refine ⟨h.nodup, List.nodup_singleton i, ?_⟩
    rintro j hj _ hi rfl
    rw [List.mem_singleton] at hi
    exact hlast (hi ▸ hj)
  · intro j
    rw [List.mem_append, List.mem_singleton, or_comm, h.recorded, or_iff_update hrecorded]

theorem remove (h : Sound c k v₀ before phases order v) {e : Error}
    (hp : phases i = .discarding e) :
    Sound c k v₀ before (Function.update phases i (.ended (.error e))) order
      (v.file (.remove (k.store.keyPath (c.wallet i)))).2 := by
  have hheld : (phases i).Holds := by rw [hp]; trivial
  have hshared := h.shared.remove hheld
  obtain ⟨_, _, -, hremoved, -, hchange⟩ := h.shared.exists_remove hheld
  have hgone : ¬Phase.Holds (.ended (.error e)) := id
  rw [hremoved] at hshared ⊢
  exact h.update hchange.keepsDirectories (hshared.congr (and_iff_update hgone)) trivial h.nodup
    (h.mem_iff_update hp .rfl)

/-- Whatever one call does, all stay sound. -/
theorem move (h : Sound c k v₀ before phases order v) (hp : phases i = p)
    (hmove : Move k (c.name i) (c.secret i) v p p' v') :
    ∃ order', Sound c k v₀ before (Function.update phases i p') order' v' := by
  have hown := h.sound i
  rw [hp] at hown
  cases hmove with
  | refused | taken => exact ⟨order, h.unchanged hp .rfl .rfl trivial⟩
  | checked hws hnew hkey =>
    obtain rfl := Except.ok.inj (h.shared.records.listed.symm.trans hws)
    refine ⟨order, h.unchanged hp .rfl .rfl ⟨hown, ?_, hkey⟩⟩
    rintro ⟨u, hu, hname⟩
    exact hnew ⟨u, List.mem_append_left _ hu, hname⟩
  | unmade => exact ⟨order, h.directories hp .rfl .rfl trivial⟩
  | made hmade =>
    have hthere := Tree.hasDirectory_makeDirectories hmade
    obtain ⟨hname, hnew, hkey⟩ := hown
    obtain rfl := Tree.withDirectories_of_ok hmade
    exact ⟨order, h.directories hp .rfl .rfl ⟨hname, hnew, hkey, hthere⟩⟩
  | written hfiles => exact ⟨order, h.create hp hfiles⟩
  | duplicate | confirmed | unrecorded | rest => exact ⟨order, h.unchanged hp .rfl .rfl hown⟩
  | lost => exact ⟨order, h.directories hp .rfl .rfl hown⟩
  | again hmade =>
    obtain rfl := Tree.withDirectories_of_ok hmade
    exact ⟨order, h.directories hp .rfl .rfl hown⟩
  | recorded hfiles => exact ⟨order ++ [i], h.append hp hfiles⟩
  | discarded e => exact ⟨order, h.remove hp⟩

end Sound

/-! ## Any number of steps -/

def Calls.running (c : Calls ι) (k : Keystore) (v : World) : Running ι (Except Error Wallet) :=
  ⟨fun i => (k.createWallet (c.name i) (c.secret i)).run, v⟩

/-- A call with a bad name is refused at once. -/
def Calls.firstPhase (c : Calls ι) (i : ι) : Phase :=
  if isName (c.name i) then .begun else .ended (.error (.invalidName (c.name i)))

theorem Calls.program_firstPhase (c : Calls ι) (k : Keystore) (i : ι) :
    (c.firstPhase i).program k (c.name i) (c.secret i) =
      (k.createWallet (c.name i) (c.secret i)).run := by
  unfold firstPhase
  split
  · rfl
  · next hname =>
    rw [Keystore.createWallet, if_pos (by simpa using hname)]
    rfl

theorem sound_start (hstart : k.store.Records v₀ before) (c : Calls ι) :
    Sound c k v₀ before c.firstPhase [] v₀ := by
  have hnone (i : ι) : ¬(c.firstPhase i).Holds := by
    unfold Calls.firstPhase
    split <;> exact id
  refine ⟨(Shared.of_records hstart c).congr fun i => (iff_false_intro (hnone i)).symm, ?_, .nil, ?_⟩
  · intro i
    unfold Calls.firstPhase
    split
    · next hname => exact hname
    · trivial
  · intro i
    simpa using mt Phase.Recorded.holds (hnone i)

theorem exists_sound [DecidableEq ι] (hpure : k.protector.IsPure)
    (hrecovers : k.protector.Recovers) (hstart : k.store.Records v₀ before) (c : Calls ι)
    (schedule : List ι) :
    let r := (c.running k v₀).after schedule
    ∃ phases order, (∀ i, r.programs i = (phases i).program k (c.name i) (c.secret i)) ∧
      Sound c k v₀ before phases order r.world := by
  apply Running.after_invariant (P := fun r => ∃ phases order,
    (∀ i, r.programs i = (phases i).program k (c.name i) (c.secret i)) ∧
      Sound c k v₀ before phases order r.world)
  · rintro r i ⟨phases, order, hprograms, h⟩
    have hmove : ∃ p' v', (r.programs i).advance r.world =
        (p'.program k (c.name i) (c.secret i), v') ∧
          Move k (c.name i) (c.secret i) r.world (phases i) p' v' := by
      -- A call with a bad name has no effects, and no move is known of it.
      rw [hprograms]
      rcases (h.sound i).named_or_ended (h.shared.named i) with hname | ⟨result, hend⟩
      · exact exists_move hpure hrecovers hname (c.secret i) r.world (phases i)
      · rw [hend]
        exact ⟨.ended result, r.world, rfl, .rest result⟩
    obtain ⟨p', v', hadvance, hmove⟩ := hmove
    obtain ⟨order', h'⟩ := h.move rfl hmove
    rw [Running.advance, hadvance]
    refine ⟨Function.update phases i p', order', ?_, h'⟩
    intro j
    by_cases hj : j = i
    · subst hj
      simp
    · simp [hj, hprograms]
  · exact ⟨c.firstPhase, [], fun i => (c.program_firstPhase k i).symm, sound_start hstart c⟩

/-! ## What is there then -/

/-- The records are those of the start and one of each call that has returned its wallet, in this
order. -/
structure Consistent (c : Calls ι) (k : Keystore) (v₀ : World) (before : List Wallet)
    (r : Running ι (Except Error Wallet)) (order : List ι) : Prop where
  listed : k.list.perform r.world = (.ok (before ++ order.map c.wallet), r.world)
  nodup : order.Nodup
  recorded : ∀ i, i ∈ order ↔ ∃ w, r.result? i = some (.ok w)
  names : ∀ name, ((before ++ order.map c.wallet).map (·.name)).count name ≤
    max 1 ((before.map (·.name)).count name)
  returned : ∀ i w, r.result? i = some (.ok w) → w = c.wallet i ∧
    (before ++ order.map c.wallet).filter (·.name == c.name i) = [w] ∧
      (k.loadKey w).perform r.world = (.ok (c.secret i), r.world)
  kept : ∀ place entry, v₀.files.get? place = some entry → r.world.files.get? place = some entry ∨
    r.world.files.target r.world.start k.store.recordPath = .ok (.entry place false)
  /-- A new file is the record file or the key file of a call that has not failed. So those that have
  failed have left none, as they have left no record. -/
  files : ∀ place content mode, r.world.files.get? place = some (.file content mode) →
    v₀.files.get? place = some (.file content mode) ∨
      r.world.files.target r.world.start k.store.recordPath = .ok (.entry place false) ∨
        ∃ i, (∀ e, r.result? i ≠ some (.error e)) ∧
          r.world.files.target r.world.start (k.store.keyPath (c.wallet i)) =
            .ok (.entry place false) ∧ k.readKey (c.wallet i) content = .ok (c.secret i)

namespace Sound

variable {r : Running ι (Except Error Wallet)}

theorem name_injOn (h : Sound c k v₀ before phases order v) :
    ∀ i ∈ order, ∀ j ∈ order, c.name i = c.name j → i = j := by
  intro i hi j hj hsame
  exact h.shared.alone i j ((h.recorded i).mp hi).holds ((h.recorded j).mp hj).holds hsame

theorem names_nodup (h : Sound c k v₀ before phases order v) : (order.map c.name).Nodup :=
  h.nodup.map_on h.name_injOn

theorem count_le (h : Sound c k v₀ before phases order v) (name : String) :
    ((before ++ order.map c.wallet).map (·.name)).count name ≤
      max 1 ((before.map (·.name)).count name) := by
  have hnames : (order.map c.wallet).map (·.name) = order.map c.name := by
    rw [List.map_map]
    rfl
  rw [List.map_append, List.count_append, hnames]
  -- A name that was added was not there before, and only one call adds it.
  by_cases hadded : name ∈ order.map c.name
  · obtain ⟨i, hi, rfl⟩ := List.mem_map.mp hadded
    have hnew := (h.sound i).isNew ((h.recorded i).mp hi).holds
    have hbefore : (before.map (·.name)).count (c.name i) = 0 :=
      List.count_eq_zero.mpr (by simpa [Calls.IsNew] using hnew)
    have honce := List.nodup_iff_count_le_one.mp h.names_nodup (c.name i)
    omega
  · rw [List.count_eq_zero.mpr hadded]
    omega

theorem filter_eq [DecidableEq ι] (h : Sound c k v₀ before phases order v) (hi : i ∈ order) :
    (before ++ order.map c.wallet).filter (·.name == c.name i) = [c.wallet i] := by
  have hnew := (h.sound i).isNew ((h.recorded i).mp hi).holds
  have hbefore : before.filter (·.name == c.name i) = [] := by
    simpa [Calls.IsNew] using hnew
  have horder : order.filter (fun j => c.name j == c.name i) = [i] := by
    rw [List.filter_congr (q := fun j => j == i), List.filter_beq,
      List.count_eq_one_of_mem h.nodup hi, List.replicate_one]
    intro j hj
    rw [Bool.eq_iff_iff, beq_iff_eq, beq_iff_eq]
    exact ⟨h.name_injOn j hj i hi, fun heq => heq ▸ rfl⟩
  rw [List.filter_append, hbefore, List.nil_append, List.filter_map]
  exact congrArg (List.map c.wallet) horder

theorem consistent [DecidableEq ι] (h : Sound c k v₀ before phases order r.world)
    (hprograms : ∀ i, r.programs i = (phases i).program k (c.name i) (c.secret i)) :
    Consistent c k v₀ before r order := by
  have hresult (i : ι) (result) : r.result? i = some result ↔ phases i = .ended result := by
    rw [Running.result?, hprograms,
      Phase.result?_program ((h.sound i).named_or_ended (h.shared.named i)), Phase.result?_eq_some]
  refine ⟨?_, h.nodup, ?_, h.count_le, ?_, h.shared.kept, ?_⟩
  · rw [Keystore.list, Store.perform_list, h.shared.records.listed]
  · intro i
    simp only [h.recorded, hresult, Phase.recorded_iff]
  · intro i w hw
    rw [hresult] at hw
    have hrecorded := Phase.recorded_iff.mpr ⟨w, hw⟩
    have hown := h.sound i
    rw [hw] at hown
    obtain ⟨-, rfl⟩ := hown
    obtain ⟨q, hq⟩ := h.shared.holds i hrecorded.holds
    exact ⟨rfl, h.filter_eq ((h.recorded i).mpr hrecorded), hq.perform_loadKey⟩
  · intro q content mode hfile
    rcases h.shared.only q _ hfile with hold | hdirectory | hrecord | ⟨i, hi, hq⟩
    · exact .inl hold
    · cases hdirectory
    · exact .inr (.inl hrecord)
    · obtain ⟨stored, mode', hfind, hkey⟩ := hq.key
      obtain ⟨rfl, -⟩ := Entry.file.inj
        (Option.some.inj (hfile.symm.trans (Tree.find_eq_ok.mp hfind).2))
      refine .inr (.inr ⟨i, ?_, hq.aim, hkey⟩)
      intro e he
      rw [(hresult i _).mp he] at hi
      exact hi

end Sound

/-- However the steps of the calls alternate, no wallet is there twice and none is lost. -/
theorem consistent_after [DecidableEq ι] (hpure : k.protector.IsPure)
    (hrecovers : k.protector.Recovers) (hstart : k.store.Records v₀ before) (c : Calls ι)
    (schedule : List ι) :
    ∃ order, Consistent c k v₀ before ((c.running k v₀).after schedule) order := by
  obtain ⟨phases, order, hprograms, h⟩ := exists_sound hpure hrecovers hstart c schedule
  exact ⟨order, h.consistent hprograms⟩

def sampleTwins : Calls Bool :=
  ⟨fun _ => "alice",
    fun second => if second then ⟨3, by decide, by decide⟩ else ⟨2, by decide, by decide⟩⟩

/-- Both find the name new. The first to write the key file has it. -/
theorem consistent_after_twins :
    let k : Keystore := ⟨⟨"home"⟩, .plain⟩
    let r := (sampleTwins.running k (.atRoot {} [])).after
      [false, true, true, false, true, false, true, true, false, true, true]
    let w := sampleTwins.wallet true
    r.result? true = some (.ok w) ∧ (∃ e, r.result? false = some (.error e)) ∧
      k.list.perform r.world = (.ok [w], r.world) ∧
      (k.loadKey w).perform r.world = (.ok (sampleTwins.secret true), r.world) := by
  intro k r w
  have hstart : k.store.Records (.atRoot {} []) [] := .absent Client.fresh_home.toVacant.absent
  obtain ⟨order, h⟩ := consistent_after (c := sampleTwins) Protector.isPure_plain
    Protector.recovers_plain hstart
      [false, true, true, false, true, false, true, true, false, true, true]
  have hok : ((r.result? true).map fun result => result.toOption.isSome) = some true := by
    decide +kernel
  have herror : ((r.result? false).map fun result => result.toOption.isSome) = some false := by
    decide +kernel
  obtain ⟨result, hresult, hsome⟩ := Option.map_eq_some_iff.mp hok
  obtain ⟨result', hresult', hnone⟩ := Option.map_eq_some_iff.mp herror
  cases result with
  | error e => cases hsome
  | ok w' =>
    cases result' with
    | ok => cases hnone
    | error e =>
      obtain ⟨rfl, hone, hkey⟩ := h.returned true w' hresult
      have hall : (order.map sampleTwins.wallet).filter (·.name == sampleTwins.name true) =
          order.map sampleTwins.wallet := by
        rw [List.filter_eq_self, List.forall_mem_map]
        intro i _
        exact beq_self_eq_true "alice"
      rw [List.nil_append, hall] at hone
      have hlisted := h.listed
      rw [List.nil_append, hone] at hlisted
      exact ⟨hresult, ⟨e, hresult'⟩, hlisted, hkey⟩

end UtxoWallet.Wallet
