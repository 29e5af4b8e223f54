import UtxoWallet.Proofs.Files.Tree

/-! # What is made in a directory and what is not -/

namespace UtxoWallet.Files.Tree

open Result

variable {t t' t₁ t₂ t₃ : Tree} {start place q : Location} {path name : String}
  {paths above : List String} {e : Entry} {content : ByteArray} {mode : Nat}

/-! ## Directories that are added -/

/-- All that is new are directories to which some of these paths lead. -/
def AddsDirectories (start : Location) (paths : List String) (t t' : Tree) : Prop :=
  ∀ place, t'.get? place = t.get? place ∨
    t.get? place = none ∧ t'.get? place = some .directory ∧
      ∃ path ∈ paths, ∃ slash, t'.target start path = .ok (.entry place slash)

theorem AddsDirectories.refl (t : Tree) : AddsDirectories start paths t t := fun _ => .inl rfl

theorem AddsDirectories.extends (h : AddsDirectories start paths t t') : Extends t t' := by
  intro place e he
  rcases h place with hsame | ⟨hnone, -⟩
  · rw [hsame, he]
  · rw [hnone] at he
    cases he

theorem AddsDirectories.trans (h : AddsDirectories start paths t₁ t₂)
    (h' : AddsDirectories start paths t₂ t₃) : AddsDirectories start paths t₁ t₃ := by
  intro place
  rcases h' place with hsame | ⟨hnone, hnew⟩
  · rcases h place with hsame' | ⟨hnone, hdirectory, path, hpath, slash, haim⟩
    · exact .inl (hsame.trans hsame')
    · exact .inr ⟨hnone, hsame.trans hdirectory, path, hpath, slash,
        target_of_keepsDirectories h'.extends.keepsDirectories haim⟩
  · rcases h place with hsame' | ⟨-, hdirectory, -⟩
    · exact .inr ⟨hsame'.symm.trans hnone, hnew⟩
    · rw [hdirectory] at hnone
      cases hnone

theorem addsDirectories_makeDirectory (h : t.makeDirectory start path = .ok t')
    (hpath : path ∈ paths) : AddsDirectories start paths t t' := by
  have hkept := (extends_makeDirectory h).keepsDirectories
  obtain ⟨place, slash, haim, hnone, rfl⟩ := makeDirectory_eq_ok h
  intro q
  rw [get?_put (place_ne_nil haim)]
  split
  · next heq =>
    rw [heq]
    exact .inr ⟨hnone, rfl, path, hpath, slash, target_of_keepsDirectories hkept haim⟩
  · exact .inl rfl

theorem addsDirectories_orThere (hpath : path ∈ paths) :
    AddsDirectories start paths t (leftBy (t.orThere start path (t.makeDirectory start path))) := by
  unfold orThere
  split
  · next hmade => exact addsDirectories_makeDirectory hmade hpath
  · split
    · exact .refl t
    · exact .refl t

theorem addsDirectories_makeFirst (h : ∀ path ∈ above, path ∈ paths) :
    AddsDirectories start paths t (leftBy (t.makeFirst start above)) := by
  induction above with
  | nil => exact .refl t
  | cons path above ih =>
    rw [List.forall_mem_cons] at h
    rw [makeFirst]
    split
    · exact .refl t
    · split
      · have hfirst := ih h.2
        cases hmade : t.makeFirst start above with
        | error left =>
          rw [hmade] at hfirst
          exact hfirst
        | ok t₁ =>
          rw [hmade] at hfirst
          exact hfirst.trans (addsDirectories_orThere h.1)
      · exact addsDirectories_orThere h.1

theorem addsDirectories_withDirectories (t : Tree) (start : Location) (path : String) :
    AddsDirectories start (path :: Path.ancestors path) t (t.withDirectories start path) :=
  addsDirectories_makeFirst fun _ h => h

theorem withDirectories_of_hasDirectory (h : path = "" ∨ t.hasDirectory start path = true) :
    t.withDirectories start path = t :=
  withDirectories_of_ok (makeDirectories_of_hasDirectory h)

/-! ## Where a path leads -/

/-- There is a directory at the end of a path, and this is its place. -/
def LeadsTo (t : Tree) (start : Location) (path : String) (place : Location) : Prop :=
  t.walkDirectory (origin start path) (Path.segments path) = .ok place

theorem LeadsTo.of_keepsDirectories (hkept : KeepsDirectories t t')
    (h : t.LeadsTo start path place) : t'.LeadsTo start path place :=
  walkDirectory_of_keepsDirectories hkept h

theorem LeadsTo.unique (h : t.LeadsTo start path place) (h' : t.LeadsTo start path q) :
    place = q :=
  Except.ok.inj (h.symm.trans h')

theorem target_join_eq_ok (hname : Path.IsPlain name) (hdots : ¬(name = "." ∨ name = ".."))
    {aim : Target} :
    t.target start (Path.join path name) = .ok aim ↔
      Path.fault? (Path.join path name) = none ∧
        ∃ place, t.LeadsTo start path place ∧ aim = .entry (place ++ [name]) false := by
  unfold target LeadsTo
  split
  · next hfault => simp [hfault]
  · next hfault =>
    rw [and_iff_right hfault, targetOf_join hname hdots, Json.map_eq_ok]
    simp only [eq_comm]

/-- A file in a directory is read at its place. -/
theorem read_join_eq_ok (hname : Path.IsPlain name) (hdots : ¬(name = "." ∨ name = "..")) :
    t.read start (Path.join path name) = .ok content ↔
      Path.fault? (Path.join path name) = none ∧
        ∃ place mode, t.LeadsTo start path place ∧
          t.find (place ++ [name]) = .ok (some (.file content mode)) := by
  simp only [read_eq_ok, target_join_eq_ok hname hdots]
  constructor
  · rintro ⟨_, mode, ⟨hfault, place, hleads, heq⟩, hfind⟩
    rw [(Target.entry.inj heq).1] at hfind
    exact ⟨hfault, place, mode, hleads, hfind⟩
  · rintro ⟨hfault, place, mode, hleads, hfind⟩
    exact ⟨_, mode, ⟨hfault, place, hleads, rfl⟩, hfind⟩

theorem exists_parent_of_walkDirectory {names : List String} {found : Location}
    (hdots : ¬(name = "." ∨ name = ".."))
    (h : t.walkDirectory place (names ++ [name]) = .ok found) :
    ∃ parent, t.walkDirectory place names = .ok parent ∧
      t.isDirectory (parent ++ [name]) = true := by
  obtain ⟨hwalk, hfound⟩ := walkDirectory_eq_ok.mp h
  rw [walk_append] at hwalk
  obtain ⟨parent, hparent, hstep⟩ := bind_eq_ok.mp hwalk
  rw [not_or] at hdots
  rw [walk, if_neg hdots.1, if_neg hdots.2] at hstep
  split at hstep
  · cases hstep
  · next hdirectory =>
    split at hstep
    · cases hstep
    · cases hstep
    · rw [walk] at hstep
      obtain rfl := Except.ok.inj hstep
      exact ⟨parent, walkDirectory_eq_ok.mpr ⟨hparent, by simpa using hdirectory⟩, hfound⟩

theorem hasDirectory_of_leadsTo (hfault : Path.fault? path = none) (hne : path ≠ "")
    (h : t.LeadsTo start path place) : t.hasDirectory start path = true := by
  rw [LeadsTo] at h
  unfold hasDirectory target
  rw [hfault, targetOf_eq]
  cases hlast : (Path.segments path).getLast? with
  | none => simp [hne]
  | some last =>
    obtain ⟨front, hfront⟩ := List.getLast?_eq_some_iff.mp hlast
    by_cases hdots : last = "." ∨ last = ".."
    · simp only [if_pos hdots, h, Except.map]
    · rw [hfront] at h
      obtain ⟨parent, hparent, hdirectory⟩ := exists_parent_of_walkDirectory hdots h
      simp only [if_neg hdots, hfront, List.dropLast_concat, hparent, ok_bind]
      exact hdirectory

/-- Where a file in a directory can be read, the directory is there. -/
theorem hasDirectory_of_read_join (hname : Path.IsPlain name) (hdots : ¬(name = "." ∨ name = ".."))
    (hread : t.read start (Path.join path name) = .ok content) :
    path = "" ∨ t.hasDirectory start path = true := by
  obtain ⟨hfault, place, -, hleads, -⟩ := (read_join_eq_ok hname hdots).mp hread
  by_cases hne : path = ""
  · exact .inl hne
  · exact .inr (hasDirectory_of_leadsTo (Path.fault?_of_join hname hfault) hne hleads)

theorem get?_of_read_join (hname : Path.IsPlain name) (hdots : ¬(name = "." ∨ name = ".."))
    (hleads : t.LeadsTo start path place) (hread : t.read start (Path.join path name) = .ok content) :
    ∃ mode, t.get? (place ++ [name]) = some (.file content mode) := by
  obtain ⟨-, place', mode, hleads', hfind⟩ := (read_join_eq_ok hname hdots).mp hread
  obtain rfl := hleads.unique hleads'
  exact ⟨mode, (find_eq_ok.mp hfind).2⟩

/-! ## New files, and files that go -/

theorem find_put_of_ne (hne : place ≠ []) (hq : q ≠ place) :
    (t.put place e).find q = t.find q := by
  rw [find, find, get?_put hne, if_neg hq]

theorem create_eq_ok :
    t.create start path mode content = .ok t' ↔
      ∃ place, t.target start path = .ok (.entry place false) ∧ t.find place = .ok none ∧
        t' = t.put place (.file content mode) := by
  unfold create
  rw [bind_eq_ok]
  constructor
  · rintro ⟨aim, haim, h⟩
    split at h
    · cases h
    · cases h
    · next place =>
      obtain ⟨found, hfound, h⟩ := bind_eq_ok.mp h
      split at h
      · cases h
      · exact ⟨place, haim, hfound, (Except.ok.inj h).symm⟩
  · rintro ⟨place, haim, hfind, rfl⟩
    exact ⟨_, haim, by simp only [hfind]; rfl⟩

theorem read_create (h : t.create start path mode content = .ok t') :
    t'.read start path = .ok content := by
  obtain ⟨place, haim, hfind, rfl⟩ := create_eq_ok.mp h
  exact read_put_file haim hfind (by simp)

theorem remove_eq_ok :
    t.remove start path = .ok t' ↔
      ∃ place content mode, t.target start path = .ok (.entry place false) ∧
        t.find place = .ok (some (.file content mode)) ∧ t' = t.erase place := by
  unfold remove
  rw [bind_eq_ok]
  constructor
  · rintro ⟨aim, haim, h⟩
    split at h
    · cases h
    · next place slash =>
      obtain ⟨found, hfound, h⟩ := bind_eq_ok.mp h
      split at h
      · cases h
      · cases h
      · next content mode =>
        split at h
        · cases h
        · next hslash =>
          exact ⟨place, content, mode, by simpa [hslash] using haim, hfound,
            (Except.ok.inj h).symm⟩
  · rintro ⟨place, content, mode, haim, hfind, rfl⟩
    exact ⟨_, haim, by simp only [hfind]; rfl⟩

theorem replace_of_lookup_eq_none {entries : List (Location × Entry)}
    (h : entries.lookup place = none) (e : Entry) :
    replace place e entries = entries ++ [(place, e)] := by
  induction entries with
  | nil => rfl
  | cons p rest ih =>
    rw [List.lookup_cons] at h
    split at h
    · cases h
    · next hne =>
      rw [replace, if_neg (Ne.symm (beq_eq_false_iff_ne.mp hne)), ih h, List.cons_append]

theorem filter_ne_of_lookup_eq_none {entries : List (Location × Entry)}
    (h : entries.lookup place = none) : entries.filter (·.1 ≠ place) = entries := by
  induction entries with
  | nil => rfl
  | cons p rest ih =>
    rw [List.lookup_cons] at h
    split at h
    · cases h
    · next hne =>
      rw [List.filter_cons, if_pos (by simpa using Ne.symm (beq_eq_false_iff_ne.mp hne)), ih h]

theorem erase_put (h : t.get? place = none) (e : Entry) : (t.put place e).erase place = t := by
  have hlookup : t.entries.lookup place = none := by
    unfold get? at h
    split at h
    · cases h
    · exact h
  rw [put, erase, replace_of_lookup_eq_none hlookup, List.filter_append,
    filter_ne_of_lookup_eq_none hlookup]
  simp

/-- A new file that is removed again was never there. -/
theorem remove_create (h : t.create start path mode content = .ok t') :
    t'.remove start path = .ok t := by
  obtain ⟨place, haim, hfind, rfl⟩ := create_eq_ok.mp h
  obtain ⟨hshort, hnone⟩ := find_eq_ok.mp hfind
  refine remove_eq_ok.mpr ⟨place, content, mode, ?_, ?_, (erase_put hnone _).symm⟩
  · exact target_of_keepsDirectories (keepsDirectories_put_file haim hfind (by simp)) haim
  · rw [find_eq_ok]
    exact ⟨hshort, by rw [get?_put (place_ne_nil haim), if_pos rfl]⟩

theorem extends_create (h : t.create start path mode content = .ok t') : Extends t t' := by
  obtain ⟨place, -, hfind, rfl⟩ := create_eq_ok.mp h
  exact extends_put (find_eq_ok.mp hfind).2 _

end UtxoWallet.Files.Tree
