import UtxoWallet.Files.Fault
import UtxoWallet.Files.Path

/-! # A tree of files

Files and directories by their names from the root down. The entries are kept in the order in which
they came.
-/

namespace UtxoWallet.Files

-- The comparison of byte arrays themselves, whatever else is imported.
instance (priority := 1100) decEqContent : DecidableEq ByteArray := ByteArray.instDecidableEq

/-- The names from the root down. The root itself has none. -/
abbrev Location := List String

inductive Entry where
  | directory
  | file (content : ByteArray) (mode : Nat)
deriving DecidableEq

/-- What may be done with a file unless someone says otherwise. -/
def usualMode : Nat := 0o644

structure Tree where
  entries : List (Location × Entry) := []
deriving DecidableEq

namespace Tree

/-! ## Entries -/

def get? (t : Tree) (place : Location) : Option Entry :=
  if place.isEmpty then some .directory else t.entries.lookup place

def isDirectory (t : Tree) (place : Location) : Bool := t.get? place == some .directory

def replace (place : Location) (e : Entry) : List (Location × Entry) → List (Location × Entry)
  | [] => [(place, e)]
  | (place', e') :: rest =>
    if place' = place then (place, e) :: rest else (place', e') :: replace place e rest

def put (t : Tree) (place : Location) (e : Entry) : Tree := ⟨replace place e t.entries⟩

def erase (t : Tree) (place : Location) : Tree := ⟨t.entries.filter (·.1 ≠ place)⟩

/-! ## Ways -/

/-- What is at a place, if anything is. A name that is too long is not even looked for. -/
def find (t : Tree) (place : Location) : Except Fault (Option Entry) :=
  if place.any (Path.nameLimit < ·.utf8ByteSize) then .error .nameTooLong
  else .ok (t.get? place)

/-- Goes down through directories that exist. -/
def walk (t : Tree) (place : Location) : List String → Except Fault Location
  | [] => .ok place
  | name :: names =>
    if !t.isDirectory place then .error .notDirectory
    else if name = "." then walk t place names
    else if name = ".." then walk t place.dropLast names
    else
      match t.find (place ++ [name]) with
      | .error fault => .error fault
      | .ok none => .error .notFound
      | .ok (some _) => walk t (place ++ [name]) names

def walkDirectory (t : Tree) (place : Location) (names : List String) : Except Fault Location := do
  let found ← t.walk place names
  if t.isDirectory found then return found else throw .notDirectory

inductive Target where
  /-- A place in a directory that exists. The place itself may be empty. -/
  | entry (place : Location) (slash : Bool)
  /-- A directory that exists, by a path that can name nothing else. -/
  | directory (place : Location)
deriving DecidableEq, Repr

/-- Finds the way through a path that the system takes. -/
def targetOf (t : Tree) (start : Location) (path : String) : Except Fault Target :=
  let origin := if Path.isAbsolute path then [] else start
  match (Path.segments path).getLast? with
  | none => if path.isEmpty then .error .notFound else .ok (.directory origin)
  | some last =>
    if last = "." ∨ last = ".." then
      (t.walkDirectory origin (Path.segments path)).map .directory
    else do
      let parent ← t.walkDirectory origin (Path.segments path).dropLast
      return .entry (parent ++ [last]) (Path.endsWithSlash path)

def target (t : Tree) (start : Location) (path : String) : Except Fault Target :=
  match Path.fault? path with
  | some fault => .error fault
  | none => t.targetOf start path

/-! ## Operations

Each starts from the directory in which relative paths begin.
-/

def hasDirectory (t : Tree) (start : Location) (path : String) : Bool :=
  match t.target start path with
  | .ok (.directory _) => true
  | .ok (.entry place _) => t.isDirectory place
  | .error _ => false

def read (t : Tree) (start : Location) (path : String) : Except Fault ByteArray := do
  match ← t.target start path with
  | .directory _ => throw .isDirectory
  | .entry place slash =>
    match ← t.find place with
    | none => throw .notFound
    | some .directory => throw .isDirectory
    | some (.file content _) => if slash then throw .notDirectory else return content

def makeDirectory (t : Tree) (start : Location) (path : String) : Except Fault Tree := do
  match ← t.target start path with
  | .directory _ => throw .alreadyExists
  | .entry place _ =>
    match ← t.find place with
    | some _ => throw .alreadyExists
    | none => return t.put place .directory

/-- A failure to make a directory is none if it is there. It comes with the tree as it then is. -/
def orThere (t : Tree) (start : Location) (path : String) :
    Except Fault Tree → Except (Fault × Tree) Tree
  | .ok t' => .ok t'
  | .error fault => if t.hasDirectory start path then .ok t else .error (fault, t)

/-- The first of these directories. Where something above it is missing, that is made first, and
stays if the rest fails. -/
def makeFirst (t : Tree) (start : Location) : List String → Except (Fault × Tree) Tree
  | [] => .error (.notFound, t)
  | path :: above =>
    if path.isEmpty then .ok t
    else
      match t.makeDirectory start path with
      | .error .notFound => do
        let t ← t.makeFirst start above
        t.orThere start path (t.makeDirectory start path)
      | made => t.orThere start path made

def makeDirectories (t : Tree) (start : Location) (path : String) : Except Fault Tree :=
  (t.makeFirst start (path :: Path.ancestors path)).mapError (·.1)

/-- What an attempt to make directories leaves, however it ends. -/
def leftBy : Except (Fault × Tree) Tree → Tree
  | .ok t => t
  | .error (_, t) => t

/-- The tree after an attempt to make a directory and those above it. -/
def withDirectories (t : Tree) (start : Location) (path : String) : Tree :=
  leftBy (t.makeFirst start (path :: Path.ancestors path))

theorem withDirectories_of_ok {t t' : Tree} {start : Location} {path : String}
    (h : t.makeDirectories start path = .ok t') : t.withDirectories start path = t' := by
  unfold makeDirectories at h
  unfold withDirectories
  cases hfirst : t.makeFirst start (path :: Path.ancestors path) with
  | error e =>
    rw [hfirst] at h
    cases h
  | ok made =>
    rw [hfirst] at h
    exact Except.ok.inj h

/-- A file that must not be there yet. A slash at the end is refused before anything is looked for. -/
def create (t : Tree) (start : Location) (path : String) (mode : Nat) (content : ByteArray) :
    Except Fault Tree := do
  match ← t.target start path with
  | .directory _ => throw .alreadyExists
  | .entry _ true => throw .isDirectory
  | .entry place false =>
    match ← t.find place with
    | some _ => throw .alreadyExists
    | none => return t.put place (.file content mode)

/-- Changes what is in a file, or in a new one. A slash at the end is refused here too. -/
def modify (t : Tree) (start : Location) (path : String) (change : ByteArray → ByteArray) :
    Except Fault Tree := do
  match ← t.target start path with
  | .directory _ => throw .isDirectory
  | .entry _ true => throw .isDirectory
  | .entry place false =>
    match ← t.find place with
    | some .directory => throw .isDirectory
    | some (.file content mode) => return t.put place (.file (change content) mode)
    | none => return t.put place (.file (change ByteArray.empty) usualMode)

def append (t : Tree) (start : Location) (path : String) (more : ByteArray) : Except Fault Tree :=
  t.modify start path (· ++ more)

def write (t : Tree) (start : Location) (path : String) (content : ByteArray) :
    Except Fault Tree :=
  t.modify start path fun _ => content

def remove (t : Tree) (start : Location) (path : String) : Except Fault Tree := do
  match ← t.target start path with
  | .directory _ => throw .isDirectory
  | .entry place slash =>
    match ← t.find place with
    | none => throw .notFound
    | some .directory => throw .isDirectory
    | some (.file _ _) => if slash then throw .notDirectory else return t.erase place

end Tree

end UtxoWallet.Files
