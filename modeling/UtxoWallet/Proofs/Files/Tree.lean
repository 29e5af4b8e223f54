import UtxoWallet.Files.Tree
import UtxoWallet.Json.Reader
import UtxoWallet.Proofs.Files.Path
import UtxoWallet.Proofs.Result

/-! # What a change of a tree leaves as it was -/

namespace UtxoWallet.Files.Tree

open Result

variable {t t' : Tree} {start place found : Location} {names : List String} {path : String}
  {e : Entry} {content more : ByteArray}

/-! ## Entries -/

theorem lookup_replace (place q : Location) (e : Entry) (entries : List (Location × Entry)) :
    (replace place e entries).lookup q = if q = place then some e else entries.lookup q := by
  induction entries with
  | nil =>
    by_cases hq : q = place
    · simp [replace, hq]
    · simp [replace, List.lookup_cons, hq, beq_eq_false_iff_ne.mpr hq]
  | cons p rest ih =>
    rw [replace]
    split
    · next h =>
      rw [List.lookup_cons, List.lookup_cons, h]
      by_cases hq : q = place
      · simp [hq]
      · simp [hq, beq_eq_false_iff_ne.mpr hq]
    · next h =>
      rw [List.lookup_cons, List.lookup_cons, ih]
      by_cases hq : q = place
      · subst hq
        simp [beq_eq_false_iff_ne.mpr (Ne.symm h)]
      · simp [hq]

theorem get?_put (hne : place ≠ []) (q : Location) :
    (t.put place e).get? q = if q = place then some e else t.get? q := by
  rw [get?, get?, put, lookup_replace]
  by_cases hq : q = place
  · simp [hq, hne]
  · simp [hq]

theorem isDirectory_iff : t.isDirectory place = true ↔ t.get? place = some .directory :=
  beq_iff_eq

/-! ## What is kept -/

/-- Every entry is still there. -/
def Extends (t t' : Tree) : Prop := ∀ place e, t.get? place = some e → t'.get? place = some e

/-- Every directory is still there. -/
def KeepsDirectories (t t' : Tree) : Prop :=
  ∀ place, t.isDirectory place = true → t'.isDirectory place = true

theorem Extends.refl (t : Tree) : Extends t t := fun _ _ h => h

theorem Extends.trans {t₁ t₂ t₃ : Tree} (h : Extends t₁ t₂) (h' : Extends t₂ t₃) :
    Extends t₁ t₃ := fun place e he => h' place e (h place e he)

theorem Extends.keepsDirectories (h : Extends t t') : KeepsDirectories t t' := by
  intro place hplace
  rw [isDirectory_iff] at *
  exact h place _ hplace

theorem extends_put (hnone : t.get? place = none) (e : Entry) : Extends t (t.put place e) := by
  have hne : place ≠ [] := by
    rintro rfl
    simp [get?] at hnone
  intro q e' he'
  rw [get?_put hne, if_neg]
  · exact he'
  · rintro rfl
    rw [hnone] at he'
    cases he'

theorem keepsDirectories_put (hne : place ≠ []) (hplace : t.isDirectory place = false) :
    KeepsDirectories t (t.put place e) := by
  intro q hq
  rw [isDirectory_iff] at *
  rw [get?_put hne, if_neg]
  · exact hq
  · rintro rfl
    rw [← isDirectory_iff, hplace] at hq
    cases hq

/-! ## Ways -/

theorem isDirectory_of_walk (h : t.walk place names = .ok found)
    (hfound : t.isDirectory found = true) : t.isDirectory place = true := by
  cases names with
  | nil =>
    rw [walk, Except.ok.injEq] at h
    rw [h]
    exact hfound
  | cons name names =>
    rw [walk] at h
    split at h
    · cases h
    · next hplace => simpa using hplace

theorem find_of_keepsDirectories (h : KeepsDirectories t t') {e : Entry}
    (hfind : t.find place = .ok (some e)) (hplace : t.isDirectory place = true) :
    t'.find place = .ok (some .directory) := by
  unfold find at *
  split at hfind
  · cases hfind
  · next hshort => rw [if_neg hshort, isDirectory_iff.mp (h place hplace)]

/-- A way to a directory stays open while no directory goes. -/
theorem walk_of_keepsDirectories (h : KeepsDirectories t t')
    (hwalk : t.walk place names = .ok found) (hfound : t.isDirectory found = true) :
    t'.walk place names = .ok found := by
  induction names generalizing place with
  | nil => exact hwalk
  | cons name names ih =>
    have hplace := isDirectory_of_walk hwalk hfound
    rw [walk, hplace, Bool.not_true, if_neg (by simp)] at hwalk
    rw [walk, h place hplace, Bool.not_true, if_neg (by simp)]
    split at hwalk
    · next hdot => rw [if_pos hdot, ih hwalk]
    · next hdot =>
      rw [if_neg hdot]
      split at hwalk
      · next hdots => rw [if_pos hdots, ih hwalk]
      · next hdots =>
        rw [if_neg hdots]
        split at hwalk
        · cases hwalk
        · cases hwalk
        · next hfind =>
          rw [find_of_keepsDirectories h hfind (isDirectory_of_walk hwalk hfound)]
          exact ih hwalk

theorem walkDirectory_eq_ok :
    t.walkDirectory place names = .ok found ↔
      t.walk place names = .ok found ∧ t.isDirectory found = true := by
  rw [walkDirectory, bind_eq_ok]
  constructor
  · rintro ⟨found', hwalk, h⟩
    split at h
    · next hdirectory =>
      obtain rfl := Except.ok.inj h
      exact ⟨hwalk, hdirectory⟩
    · cases h
  · rintro ⟨hwalk, hfound⟩
    exact ⟨found, hwalk, by rw [if_pos hfound]; rfl⟩

theorem walkDirectory_of_keepsDirectories (h : KeepsDirectories t t')
    (hwalk : t.walkDirectory place names = .ok found) :
    t'.walkDirectory place names = .ok found := by
  rw [walkDirectory_eq_ok] at *
  exact ⟨walk_of_keepsDirectories h hwalk.1 hwalk.2, h found hwalk.2⟩

/-! ## Targets -/

/-- Where a path begins. -/
def origin (start : Location) (path : String) : Location :=
  if Path.isAbsolute path then [] else start

theorem targetOf_eq (t : Tree) (start : Location) (path : String) :
    t.targetOf start path =
      match (Path.segments path).getLast? with
      | none => if path.isEmpty then .error .notFound else .ok (.directory (origin start path))
      | some last =>
        if last = "." ∨ last = ".." then
          (t.walkDirectory (origin start path) (Path.segments path)).map .directory
        else do
          let parent ← t.walkDirectory (origin start path) (Path.segments path).dropLast
          return .entry (parent ++ [last]) (Path.endsWithSlash path) := rfl

theorem target_of_keepsDirectories (h : KeepsDirectories t t') {aim : Target}
    (haim : t.target start path = .ok aim) : t'.target start path = .ok aim := by
  unfold target at *
  split at haim
  · cases haim
  · rw [targetOf_eq] at *
    split at haim
    · exact haim
    · next last hlast =>
      split at haim
      · next hdots =>
        obtain ⟨found, hfound, rfl⟩ := Json.map_eq_ok.mp haim
        rw [if_pos hdots, walkDirectory_of_keepsDirectories h hfound]
        rfl
      · next hdots =>
        obtain ⟨parent, hparent, haim⟩ := bind_eq_ok.mp haim
        rw [if_neg hdots, walkDirectory_of_keepsDirectories h hparent]
        exact haim

theorem target_eq_directory (h : t.target start path = .ok (.directory place)) :
    Path.segments path = [] ∨
      t.walkDirectory (origin start path) (Path.segments path) = .ok place := by
  unfold target at h
  split at h
  · cases h
  · rw [targetOf_eq] at h
    split at h
    · next hnone => exact .inl (List.getLast?_eq_none_iff.mp hnone)
    · split at h
      · obtain ⟨found, hfound, heq⟩ := Json.map_eq_ok.mp h
        cases heq
        exact .inr hfound
      · obtain ⟨parent, -, hparent⟩ := bind_eq_ok.mp h
        cases hparent

theorem target_eq_entry {slash : Bool} (h : t.target start path = .ok (.entry place slash)) :
    ∃ front name parent, Path.segments path = front ++ [name] ∧ ¬(name = "." ∨ name = "..") ∧
      t.walkDirectory (origin start path) front = .ok parent ∧ place = parent ++ [name] ∧
      slash = Path.endsWithSlash path := by
  unfold target at h
  split at h
  · cases h
  · rw [targetOf_eq] at h
    split at h
    · split at h <;> cases h
    · next name hlast =>
      obtain ⟨front, hfront⟩ := List.getLast?_eq_some_iff.mp hlast
      split at h
      · obtain ⟨found, -, hfound⟩ := Json.map_eq_ok.mp h
        cases hfound
      · next hdots =>
        obtain ⟨parent, hparent, hentry⟩ := bind_eq_ok.mp h
        rw [hfront, List.dropLast_concat] at hparent
        cases hentry
        exact ⟨front, name, parent, hfront, hdots, hparent, rfl, rfl⟩

theorem place_ne_nil {slash : Bool} (h : t.target start path = .ok (.entry place slash)) :
    place ≠ [] := by
  obtain ⟨_, _, _, -, -, -, rfl, -⟩ := target_eq_entry h
  simp

/-! ## Reading -/

theorem find_eq_ok {o : Option Entry} :
    t.find place = .ok o ↔
      (∀ name ∈ place, name.utf8ByteSize ≤ Path.nameLimit) ∧ t.get? place = o := by
  unfold find
  split
  · next h =>
    simp only [reduceCtorEq, false_iff, not_and]
    intro hshort
    obtain ⟨name, hname, hlong⟩ := List.any_eq_true.mp h
    exact absurd (hshort name hname) (by simpa using hlong)
  · next h =>
    have hshort : ∀ name ∈ place, name.utf8ByteSize ≤ Path.nameLimit := by simpa using h
    rw [Except.ok.injEq, and_iff_right hshort]

theorem read_eq_ok :
    t.read start path = .ok content ↔
      ∃ place mode, t.target start path = .ok (.entry place false) ∧
        t.find place = .ok (some (.file content mode)) := by
  unfold read
  rw [bind_eq_ok]
  constructor
  · rintro ⟨aim, haim, h⟩
    split at h
    · cases h
    · next place slash =>
      obtain ⟨found, hfound, h⟩ := bind_eq_ok.mp h
      split at h
      · cases h
      · cases h
      · next mode =>
        split at h
        · cases h
        · next hslash =>
          obtain rfl := Except.ok.inj h
          exact ⟨place, mode, by simpa [hslash] using haim, hfound⟩
  · rintro ⟨place, mode, haim, hfind⟩
    exact ⟨_, haim, by simp only [hfind]; rfl⟩

theorem find_ne_notFound (t : Tree) (place : Location) : t.find place ≠ .error .notFound := by
  unfold find
  split <;> simp

theorem read_eq_notFound (h : t.read start path = .error .notFound) :
    t.target start path = .error .notFound ∨
      ∃ place slash, t.target start path = .ok (.entry place slash) ∧ t.find place = .ok none := by
  unfold read at h
  cases haim : t.target start path with
  | error fault =>
    rw [haim, error_bind, Except.error.injEq] at h
    exact .inl (by rw [h])
  | ok aim =>
    rw [haim, ok_bind] at h
    cases aim with
    | directory place => cases h
    | entry place slash =>
      dsimp only at h
      cases hfind : t.find place with
      | error fault =>
        rw [hfind, error_bind, Except.error.injEq] at h
        exact absurd (h ▸ hfind) (find_ne_notFound t place)
      | ok o =>
        rw [hfind, ok_bind] at h
        split at h
        · exact .inr ⟨place, slash, rfl, hfind⟩
        · cases h
        · split at h <;> cases h

theorem read_of_extends (h : Extends t t') (hread : t.read start path = .ok content) :
    t'.read start path = .ok content := by
  rw [read_eq_ok] at *
  obtain ⟨place, mode, haim, hfind⟩ := hread
  refine ⟨place, mode, target_of_keepsDirectories h.keepsDirectories haim, ?_⟩
  rw [find_eq_ok] at *
  exact ⟨hfind.1, h place _ hfind.2⟩

/-! ## Changing a file -/

theorem modify_eq_ok {change : ByteArray → ByteArray} (h : t.modify start path change = .ok t') :
    ∃ place old mode, t.target start path = .ok (.entry place false) ∧
      t' = t.put place (.file (change old) mode) ∧
      (t.find place = .ok (some (.file old mode)) ∨
        t.find place = .ok none ∧ old = .empty ∧ mode = usualMode) := by
  unfold modify at h
  obtain ⟨aim, haim, h⟩ := bind_eq_ok.mp h
  split at h
  · cases h
  · cases h
  · next place =>
    obtain ⟨found, hfound, h⟩ := bind_eq_ok.mp h
    split at h
    · cases h
    · next old mode =>
      exact ⟨place, old, mode, haim, (Except.ok.inj h).symm, .inl hfound⟩
    · exact ⟨place, .empty, usualMode, haim, (Except.ok.inj h).symm, .inr ⟨hfound, rfl, rfl⟩⟩

variable {o : Option Entry} {mode : Nat}

theorem keepsDirectories_put_file (haim : t.target start path = .ok (.entry place false))
    (hfind : t.find place = .ok o) (ho : o ≠ some .directory) :
    KeepsDirectories t (t.put place (.file content mode)) := by
  refine keepsDirectories_put (place_ne_nil haim) ?_
  rw [← Bool.not_eq_true, isDirectory_iff, (find_eq_ok.mp hfind).2]
  exact ho

theorem read_put_file (haim : t.target start path = .ok (.entry place false))
    (hfind : t.find place = .ok o) (ho : o ≠ some .directory) :
    (t.put place (.file content mode)).read start path = .ok content := by
  rw [read_eq_ok]
  refine ⟨place, mode,
    target_of_keepsDirectories (keepsDirectories_put_file haim hfind ho) haim, ?_⟩
  rw [find_eq_ok] at *
  exact ⟨hfind.1, by rw [get?_put (place_ne_nil haim), if_pos rfl]⟩

theorem read_append (h : t.append start path more = .ok t')
    (hread : t.read start path = .ok content) : t'.read start path = .ok (content ++ more) := by
  obtain ⟨place, old, mode, haim, rfl, hfind⟩ := modify_eq_ok h
  obtain ⟨place', mode', haim', hfind'⟩ := read_eq_ok.mp hread
  rw [haim, Except.ok.injEq, Target.entry.injEq, and_iff_left rfl] at haim'
  rw [← haim'] at hfind'
  rcases hfind with hfind | ⟨hfind, -⟩
  · rw [hfind', Except.ok.injEq, Option.some.injEq, Entry.file.injEq] at hfind
    rw [hfind.1]
    exact read_put_file haim hfind' (by simp)
  · rw [hfind'] at hfind
    cases hfind

theorem read_append_of_missing (h : t.append start path more = .ok t')
    (hread : t.read start path = .error .notFound) : t'.read start path = .ok more := by
  obtain ⟨place, old, mode, haim, rfl, hfind⟩ := modify_eq_ok h
  rcases hfind with hfind | ⟨hfind, rfl, -⟩
  · rw [read_eq_ok.mpr ⟨place, mode, haim, hfind⟩] at hread
    cases hread
  · rw [ByteArray.empty_append]
    exact read_put_file haim hfind (by simp)

theorem keepsDirectories_append (h : t.append start path more = .ok t') :
    KeepsDirectories t t' := by
  obtain ⟨place, old, mode, haim, rfl, hfind⟩ := modify_eq_ok h
  rcases hfind with hfind | ⟨hfind, -⟩
  · exact keepsDirectories_put_file haim hfind (by simp)
  · exact keepsDirectories_put_file haim hfind (by simp)

/-! ## Making directories -/

theorem makeDirectory_eq_ok (h : t.makeDirectory start path = .ok t') :
    ∃ place slash, t.target start path = .ok (.entry place slash) ∧ t.get? place = none ∧
      t' = t.put place .directory := by
  unfold makeDirectory at h
  obtain ⟨aim, haim, h⟩ := bind_eq_ok.mp h
  split at h
  · cases h
  · next place slash =>
    obtain ⟨found, hfound, h⟩ := bind_eq_ok.mp h
    split at h
    · cases h
    · exact ⟨place, slash, haim, (find_eq_ok.mp hfound).2, (Except.ok.inj h).symm⟩

theorem extends_makeDirectory (h : t.makeDirectory start path = .ok t') : Extends t t' := by
  obtain ⟨place, slash, -, hnone, rfl⟩ := makeDirectory_eq_ok h
  exact extends_put hnone .directory

theorem hasDirectory_makeDirectory (h : t.makeDirectory start path = .ok t') :
    t'.hasDirectory start path = true := by
  have hkept := (extends_makeDirectory h).keepsDirectories
  obtain ⟨place, slash, haim, -, rfl⟩ := makeDirectory_eq_ok h
  rw [hasDirectory, target_of_keepsDirectories hkept haim]
  dsimp only
  rw [isDirectory_iff, get?_put (place_ne_nil haim), if_pos rfl]

/-- Either the directory is made, or it was there all along. -/
theorem orThere_makeDirectory
    (h : t.orThere start path (t.makeDirectory start path) = .ok t') :
    Extends t t' ∧ t'.hasDirectory start path = true := by
  unfold orThere at h
  split at h
  · next hmade =>
    obtain rfl := Except.ok.inj h
    exact ⟨extends_makeDirectory hmade, hasDirectory_makeDirectory hmade⟩
  · split at h
    · next hthere =>
      obtain rfl := Except.ok.inj h
      exact ⟨.refl t, hthere⟩
    · cases h

theorem makeFirst_eq_ok {paths : List String} (h : t.makeFirst start paths = .ok t') :
    Extends t t' ∧ ∀ path, paths.head? = some path → path = "" ∨ t'.hasDirectory start path := by
  induction paths generalizing t' with
  | nil => cases h
  | cons path above ih =>
    simp only [List.head?_cons, Option.some.injEq, forall_eq']
    rw [makeFirst] at h
    split at h
    · next hempty =>
      obtain rfl := Except.ok.inj h
      exact ⟨.refl t, .inl (String.isEmpty_iff.mp hempty)⟩
    · split at h
      · obtain ⟨t₁, hfirst, hlast⟩ := bind_eq_ok.mp h
        obtain ⟨hextends, hthere⟩ := orThere_makeDirectory hlast
        exact ⟨(ih hfirst).1.trans hextends, .inr hthere⟩
      · obtain ⟨hextends, hthere⟩ := orThere_makeDirectory h
        exact ⟨hextends, .inr hthere⟩

theorem extends_makeDirectories (h : t.makeDirectories start path = .ok t') : Extends t t' :=
  (makeFirst_eq_ok (mapError_eq_ok.mp h)).1

theorem hasDirectory_makeDirectories (h : t.makeDirectories start path = .ok t') :
    path = "" ∨ t'.hasDirectory start path = true :=
  (makeFirst_eq_ok (mapError_eq_ok.mp h)).2 path rfl

theorem hasDirectory_of_keepsDirectories (h : KeepsDirectories t t')
    (hthere : t.hasDirectory start path = true) : t'.hasDirectory start path = true := by
  unfold hasDirectory at *
  cases haim : t.target start path with
  | error fault =>
    rw [haim] at hthere
    cases hthere
  | ok aim =>
    rw [haim] at hthere
    rw [target_of_keepsDirectories h haim]
    cases aim with
    | directory place => rfl
    | entry place slash => exact h place hthere

theorem makeDirectory_of_hasDirectory (h : t.hasDirectory start path = true) :
    ∃ fault, t.makeDirectory start path = .error fault ∧ fault ≠ .notFound := by
  unfold hasDirectory at h
  unfold makeDirectory
  cases haim : t.target start path with
  | error fault =>
    rw [haim] at h
    cases h
  | ok aim =>
    rw [haim] at h
    cases aim with
    | directory place => exact ⟨.alreadyExists, rfl, by simp⟩
    | entry place slash =>
      rw [ok_bind]
      dsimp only at h ⊢
      unfold find
      split
      · exact ⟨.nameTooLong, rfl, by simp⟩
      · rw [isDirectory_iff.mp h]
        exact ⟨.alreadyExists, rfl, by simp⟩

/-- Nothing is made where the directory is there. -/
theorem makeDirectories_of_hasDirectory (h : path = "" ∨ t.hasDirectory start path = true) :
    t.makeDirectories start path = .ok t := by
  rw [makeDirectories, mapError_eq_ok, makeFirst]
  split
  · rfl
  · next hne =>
    have hthere : t.hasDirectory start path = true := by
      rcases h with rfl | hthere
      · exact absurd rfl hne
      · exact hthere
    obtain ⟨fault, hmade, hfault⟩ := makeDirectory_of_hasDirectory hthere
    rw [hmade]
    split
    · next heq => exact absurd (Except.error.inj heq) hfault
    · rw [orThere, if_pos hthere]

/-! ## Files in a directory -/

theorem walk_append (place : Location) (names more : List String) :
    t.walk place (names ++ more) = t.walk place names >>= fun found => t.walk found more := by
  induction names generalizing place with
  | nil => rfl
  | cons name names ih =>
    simp only [List.cons_append, walk, ih]
    repeat' split
    all_goals rfl

theorem walkDirectory_nil_ne_notFound (t : Tree) (place : Location) :
    t.walkDirectory place [] ≠ .error .notFound := by
  rw [walkDirectory, walk, ok_bind]
  split
  · simp [pure, Except.pure]
  · simp [throw, throwThe, MonadExceptOf.throw]

theorem walkDirectory_append_ne_notFound {parent : Location} {name : String}
    (hparent : t.walkDirectory place names = .ok parent)
    (hthere : t.isDirectory (parent ++ [name]) = true) (hdots : ¬(name = "." ∨ name = "..")) :
    t.walkDirectory place (names ++ [name]) ≠ .error .notFound := by
  obtain ⟨hwalk, hdirectory⟩ := walkDirectory_eq_ok.mp hparent
  rw [not_or] at hdots
  rw [walkDirectory, walk_append, hwalk, ok_bind, walk, hdirectory, if_neg (by simp),
    if_neg hdots.1, if_neg hdots.2]
  unfold find
  split
  · next hfind =>
    split at hfind
    · obtain rfl := Except.error.inj hfind
      simp
    · cases hfind
  · next hfind =>
    split at hfind
    · cases hfind
    · rw [isDirectory_iff.mp hthere] at hfind
      cases hfind
  · exact walkDirectory_nil_ne_notFound t _

theorem walkDirectory_of_hasDirectory (h : path = "" ∨ t.hasDirectory start path = true) :
    t.walkDirectory (origin start path) (Path.segments path) ≠ .error .notFound := by
  rcases h with rfl | h
  · exact walkDirectory_nil_ne_notFound t _
  · unfold hasDirectory at h
    split at h
    · next haim =>
      rcases target_eq_directory haim with hnil | hwalk
      · rw [hnil]
        exact walkDirectory_nil_ne_notFound t _
      · simp [hwalk]
    · next haim =>
      obtain ⟨front, name, parent, hfront, hdots, hparent, rfl, -⟩ := target_eq_entry haim
      rw [hfront]
      exact walkDirectory_append_ne_notFound hparent h hdots
    · cases h

theorem targetOf_join {name : String} (hname : Path.IsPlain name)
    (hdots : ¬(name = "." ∨ name = "..")) :
    t.targetOf start (Path.join path name) =
      (t.walkDirectory (origin start path) (Path.segments path)).map
        fun parent => .entry (parent ++ [name]) false := by
  have horigin : origin start (Path.join path name) = origin start path := by
    rw [origin, origin, Path.isAbsolute_join hname]
  have hlast : (Path.segments path ++ [name]).getLast? = some name := by simp
  rw [targetOf_eq, Path.segments_join hname, horigin, List.dropLast_concat,
    Path.endsWithSlash_join hname]
  simp only [hlast, if_neg hdots]
  cases t.walkDirectory (origin start path) (Path.segments path) <;> rfl

theorem target_join_ne_notFound {name : String} (hname : Path.IsPlain name)
    (hdots : ¬(name = "." ∨ name = ".."))
    (hthere : path = "" ∨ t.hasDirectory start path = true) :
    t.target start (Path.join path name) ≠ .error .notFound := by
  have hwalk := walkDirectory_of_hasDirectory hthere
  unfold target
  split
  · next hfault =>
    unfold Path.fault? at hfault
    split at hfault
    · cases hfault
      simp
    · split at hfault <;> cases hfault
      simp
  · rw [targetOf_join hname hdots]
    cases hparent : t.walkDirectory (origin start path) (Path.segments path) with
    | error fault =>
      rw [hparent] at hwalk
      exact fun heq => hwalk (congrArg Except.error (Except.error.inj heq))
    | ok parent => simp [Except.map]

/-- Where the directory is there and the file is not, a new file can be written. -/
theorem exists_append_of_missing {name : String} (hname : Path.IsPlain name)
    (hdots : ¬(name = "." ∨ name = ".."))
    (hthere : path = "" ∨ t.hasDirectory start path = true)
    (hmissing : t.read start (Path.join path name) = .error .notFound) (more : ByteArray) :
    ∃ t', t.append start (Path.join path name) more = .ok t' := by
  rcases read_eq_notFound hmissing with hnone | ⟨place, slash, haim, hfind⟩
  · exact absurd hnone (target_join_ne_notFound hname hdots hthere)
  · obtain ⟨_, _, _, -, -, -, -, rfl⟩ := target_eq_entry haim
    rw [Path.endsWithSlash_join hname] at haim
    unfold append modify
    rw [haim, ok_bind]
    simp only [hfind]
    exact ⟨_, rfl⟩

theorem exists_append_of_read (hread : t.read start path = .ok content) (more : ByteArray) :
    ∃ t', t.append start path more = .ok t' := by
  obtain ⟨place, mode, haim, hfind⟩ := read_eq_ok.mp hread
  unfold append modify
  rw [haim, ok_bind]
  simp only [hfind]
  exact ⟨_, rfl⟩

end UtxoWallet.Files.Tree
