import Mathlib.Data.List.Infix
import UtxoWallet.Node.Http
import UtxoWallet.Proofs.Result
import UtxoWallet.Proofs.Text.Blank

/-! # The normal form of a node's address

An address in its normal form is its own normal form, so it may be brought into that form as often as
one likes.
-/

namespace UtxoWallet.Node

open Text Result

variable {node bare : List Char} {text u : String} {fault : UrlFault}

/-! ## Bare addresses -/

/-- What is left of a text without the blanks around it, and then without the slashes at its end. -/
structure IsBare (node bare : List Char) : Prop where
  parts : ∃ front slashes back, node = front ++ (bare ++ slashes) ++ back ∧
    (∀ c ∈ front ++ back, isBlank c = true) ∧ (∀ c ∈ slashes, c = '/') ∧
    (∀ c ∈ (bare ++ slashes).head?, isBlank c = false) ∧
    ∀ c ∈ (bare ++ slashes).getLast?, isBlank c = false
  last : ∀ c ∈ bare.getLast?, c ≠ '/'

theorem bareUrl_of_isBare (h : IsBare node bare) : bareUrl node = bare := by
  obtain ⟨front, slashes, back, rfl, hblank, hslashes, hhead, hlast⟩ := h.parts
  rw [List.forall_mem_append] at hblank
  have hall : slashes.all (· = '/') = true := by simpa using hslashes
  rw [bareUrl, trimBlanks_of_ends hblank.1 hblank.2 hhead hlast, dropTrailing_append_of_all hall]
  exact dropTrailing_of_last (by simpa using h.last)

theorem isBare_bareUrl (node : List Char) : IsBare node (bareUrl node) := by
  obtain ⟨front, back, hnode, hfront, hback, hhead, hlast⟩ := exists_trimBlanks node
  obtain ⟨slashes, hslashes, hall, hend⟩ := exists_dropTrailing (· = '/') (trimBlanks node)
  have hparts : bareUrl node ++ slashes = trimBlanks node := hslashes.symm
  refine ⟨⟨front, slashes, back, ?_, List.forall_mem_append.mpr ⟨hfront, hback⟩, ?_, ?_, ?_⟩, ?_⟩
  · rw [hparts]
    exact hnode
  · simpa using hall
  · rw [hparts]
    exact hhead
  · rw [hparts]
    exact hlast
  · rw [bareUrl]
    simpa using hend

/-- More blanks around an address leave the same of it. -/
theorem bareUrl_append_blanks {front back : List Char} (hfront : ∀ c ∈ front, isBlank c = true)
    (hback : ∀ c ∈ back, isBlank c = true) : bareUrl (front ++ node ++ back) = bareUrl node := by
  obtain ⟨⟨front', slashes, back', hnode, hblank, hparts⟩, hlast⟩ := isBare_bareUrl node
  rw [List.forall_mem_append] at hblank
  refine bareUrl_of_isBare ⟨⟨front ++ front', slashes, back' ++ back, ?_, ?_, hparts⟩, hlast⟩
  · conv_lhs => rw [hnode]
    simp only [List.append_assoc]
  · simp only [List.forall_mem_append]
    exact ⟨⟨hfront, hblank.1⟩, hblank.2, hback⟩

/-! ## Normal addresses -/

theorem contains_eq_true_iff {part cs : List Char} : contains part cs = true ↔ part <:+: cs := by
  induction cs with
  | nil => simp [contains, List.isEmpty_iff]
  | cons c cs ih =>
    rw [contains, Bool.or_eq_true, List.isPrefixOf_iff_prefix, ih, List.infix_cons_iff]

/-- An address with a scheme and without blanks and slashes at its end. -/
structure IsNormal (u : String) : Prop where
  blank : ∀ c ∈ u.toList, isBlank c = false
  last : u.toList.getLast? ≠ some '/'
  scheme : "://".toList <:+: u.toList

/-- Why nothing can be made of what is left of an address. -/
inductive Unfit : List Char → UrlFault → Prop
  | empty : Unfit [] .empty
  | hasBlank {cs : List Char} (h : ∃ c ∈ cs, isBlank c = true) :
    Unfit cs (.hasBlank (String.ofList cs))

theorem normalUrl_eq_error_iff :
    normalUrl text = .error fault ↔ Unfit (bareUrl text.toList) fault := by
  rw [normalUrl]
  generalize bareUrl text.toList = bare
  constructor
  · intro h
    split at h
    · next hempty =>
      cases h
      rw [List.isEmpty_iff.mp hempty]
      exact .empty
    · split at h
      · next hblank =>
        cases h
        exact .hasBlank (List.any_eq_true.mp hblank)
      · split at h <;> cases h
  · rintro (_ | hblank)
    · rfl
    · obtain ⟨c, hc, -⟩ := id hblank
      have hne : bare.isEmpty = false := by
        rw [List.isEmpty_eq_false_iff]
        exact List.ne_nil_of_mem hc
      rw [if_neg (by simp [hne]), if_pos (List.any_eq_true.mpr hblank)]

/-- A scheme is added only where there is none. -/
def withScheme (bare : List Char) : List Char :=
  if contains schemeMark bare then bare else defaultScheme ++ bare

theorem normalUrl_eq_ok_iff :
    normalUrl text = .ok u ↔ bareUrl text.toList ≠ [] ∧
      (∀ c ∈ bareUrl text.toList, isBlank c = false) ∧
      u = String.ofList (withScheme (bareUrl text.toList)) := by
  rw [normalUrl, withScheme]
  generalize bareUrl text.toList = bare
  have hblank : bare.any isBlank = true ↔ ¬∀ c ∈ bare, isBlank c = false := by simp
  constructor
  · intro h
    split at h
    · cases h
    next hne =>
    split at h
    · cases h
    next hnone =>
    rw [List.isEmpty_iff] at hne
    rw [hblank, not_not] at hnone
    refine ⟨hne, hnone, ?_⟩
    split at h
    · next hscheme => rw [if_pos hscheme, Except.ok.inj h]
    · next hscheme => rw [if_neg hscheme, Except.ok.inj h]
  · rintro ⟨hne, hnone, rfl⟩
    rw [if_neg (by rwa [List.isEmpty_iff]), if_neg (by rw [hblank, not_not]; exact hnone)]
    split <;> rfl

theorem mem_withScheme {c : Char} (h : c ∈ withScheme bare) : c ∈ bare ∨ c ∈ defaultScheme := by
  unfold withScheme at h
  split at h
  · exact .inl h
  · exact (List.mem_append.mp h).symm

theorem getLast?_withScheme (hne : bare ≠ []) : (withScheme bare).getLast? = bare.getLast? := by
  unfold withScheme
  split
  · rfl
  · exact List.getLast?_append_of_ne_nil _ hne

theorem schemeMark_infix_withScheme (bare : List Char) : schemeMark <:+: withScheme bare := by
  unfold withScheme
  split
  · next hscheme => exact contains_eq_true_iff.mp hscheme
  · exact ⟨"http".toList, bare, rfl⟩

theorem isNormal_of_normalUrl (h : normalUrl text = .ok u) : IsNormal u := by
  obtain ⟨hne, hblank, rfl⟩ := normalUrl_eq_ok_iff.mp h
  refine ⟨?_, ?_, ?_⟩
  · intro c hc
    rw [String.toList_ofList] at hc
    rcases mem_withScheme hc with hc | hc
    · exact hblank c hc
    · have hplain : (defaultScheme.all fun c => !isBlank c) = true := by decide
      simpa using List.all_eq_true.mp hplain c hc
  · rw [String.toList_ofList, getLast?_withScheme hne]
    intro hslash
    exact (isBare_bareUrl text.toList).last '/' hslash rfl
  · change schemeMark <:+: (String.ofList _).toList
    rw [String.toList_ofList]
    exact schemeMark_infix_withScheme _

theorem bareUrl_of_isNormal (h : IsNormal u) : bareUrl u.toList = u.toList := by
  refine bareUrl_of_isBare ⟨⟨[], [], [], ?_, ?_, ?_, ?_, ?_⟩, ?_⟩
  · simp
  · exact fun c hc => absurd hc (List.not_mem_nil)
  · exact fun c hc => absurd hc (List.not_mem_nil)
  · rw [List.append_nil]
    exact fun c hc => h.blank c (List.mem_of_mem_head? hc)
  · rw [List.append_nil]
    exact fun c hc => h.blank c (List.mem_of_mem_getLast? hc)
  · rintro c hc rfl
    exact h.last hc

/-- Nothing is left to do for a normal address. -/
theorem normalUrl_of_isNormal (h : IsNormal u) : normalUrl u = .ok u := by
  have hne : u.toList ≠ [] := by
    intro hnil
    have hscheme := h.scheme
    rw [hnil, List.infix_nil] at hscheme
    exact absurd hscheme (by decide)
  have hscheme : withScheme u.toList = u.toList := by
    have hcontains : contains schemeMark u.toList = true := contains_eq_true_iff.mpr h.scheme
    rw [withScheme, if_pos hcontains]
  rw [normalUrl_eq_ok_iff, bareUrl_of_isNormal h, hscheme, String.ofList_toList]
  exact ⟨hne, h.blank, rfl⟩

/-! ## Clients -/

/-- The configuration of a client for the node at an address. -/
def opened (text : String) : Except Error Config := Config.ofAddress text >>= Config.normal

/-- An address has a normal form exactly if something without blanks is left of it, whatever blanks
stand around it. The normal form is its own normal form, and all that the node is asked goes there. -/
theorem normalUrl_settles (text : String) :
    (∀ u, normalUrl text = .ok u →
      IsNormal u ∧ normalUrl u = .ok u ∧ Config.ofAddress text = .ok ⟨u, none⟩ ∧
        (∀ timeout, Config.normal ⟨u, timeout⟩ = .ok ⟨u, timeout⟩) ∧ opened text = .ok ⟨u, none⟩ ∧
        ∀ call : Call, call.url u = u ++ call.endpoint ∧
          call.request u = Request.ofText call.method (u ++ call.endpoint) call.body?) ∧
    (∀ front back : String, (∀ c ∈ front.toList, isBlank c = true) →
      (∀ c ∈ back.toList, isBlank c = true) → normalUrl (front ++ text ++ back) = normalUrl text) ∧
    ∀ fault, normalUrl text = .error fault ↔
      ∃ bare, IsBare text.toList bare ∧ Unfit bare fault := by
  refine ⟨?_, ?_, ?_⟩
  · intro u hu
    have hnormal := normalUrl_of_isNormal (isNormal_of_normalUrl hu)
    have haddress : Config.ofAddress text = .ok ⟨u, none⟩ := by
      rw [Config.ofAddress, hu]
      rfl
    have hagain : ∀ timeout, Config.normal ⟨u, timeout⟩ = .ok ⟨u, timeout⟩ := by
      intro timeout
      rw [Config.normal, hnormal]
      rfl
    refine ⟨isNormal_of_normalUrl hu, hnormal, haddress, hagain, ?_, fun call => ⟨rfl, rfl⟩⟩
    rw [opened, haddress, ok_bind, hagain]
  · intro front back hfront hback
    rw [normalUrl, normalUrl, String.toList_append, String.toList_append,
      bareUrl_append_blanks hfront hback]
  · intro fault
    rw [normalUrl_eq_error_iff]
    constructor
    · intro hunfit
      exact ⟨_, isBare_bareUrl _, hunfit⟩
    · rintro ⟨bare, hbare, hunfit⟩
      rwa [bareUrl_of_isBare hbare]

/-- The scheme goes with the slashes behind it, so another one is put before what is left. -/
example : normalUrl " http:// " = .ok "http://http:" ∧ normalUrl "host /" = .error (.hasBlank "host ") := by
  decide +kernel

end UtxoWallet.Node
