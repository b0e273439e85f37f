import NetActivation.Entity.Basic
import NetActivation.Store.File

set_option autoImplicit false

/-! # Stores

A store keeps the condition sets of many entities in one file. It is saved by writing another file
beside it, which then takes its place, so that the file always holds either the old entries or the
new ones. That the other file could not be removed after a failure is only logged, and log output is
left out. -/

namespace NetActivation

/-- A store: the path of its file, and its entries in the order in which they were added. -/
structure Store where
  path : String
  entries : List Entry
  deriving DecidableEq, Repr

/-- How an operation on a store went: its outcome, the store and the file system after it, and the
    file systems on the way there, the latest first. -/
structure StoreRun (σ ε α : Type) where
  outcome : Except ε α
  store : Store
  disk : σ
  passed : List σ

/-- An operation with its outcome told in other words. -/
def StoreRun.mapOutcome {σ ε ε' α β : Type} (f : Except ε α → Except ε' β) (r : StoreRun σ ε α) :
    StoreRun σ ε' β :=
  ⟨f r.outcome, r.store, r.disk, r.passed⟩

namespace Store

/-! ## Entries -/

def find? (s : Store) (kind : EntityKind) (name : String) : Option Entry :=
  s.entries.find? fun e => e.key == (kind, name)

/-- The place of the entry of a kind and name. -/
def indexOf? (s : Store) (kind : EntityKind) (name : String) : Option Nat :=
  s.entries.findIdx? fun e => e.key == (kind, name)

def contains (s : Store) (kind : EntityKind) (name : String) : Bool := (s.find? kind name).isSome

/-- The set of an entity; one that is not stored is active at the user's request alone. -/
def setOf (s : Store) (kind : EntityKind) (name : String) : ConditionSet :=
  match s.find? kind name with
  | some e => e.set
  | none => .manual

/-- The names of the entries of a kind, in order. -/
def names (s : Store) (kind : EntityKind) : List String :=
  (s.entries.filter (·.kind == kind)).map (·.name)

/-- Puts an entry in the place of the one with its key, or at the end. What was in its place is
    given back. -/
def upsert (s : Store) (e : Entry) : Option Entry × Store :=
  match s.indexOf? e.kind e.name with
  | some i => (s.entries[i]?, { s with entries := s.entries.set i e })
  | none => (none, { s with entries := s.entries ++ [e] })

/-- Undoes the last `upsert` of an entry of a kind and name, given what it gave back. -/
def restore (s : Store) (kind : EntityKind) (name : String) (previous : Option Entry) : Store :=
  match s.indexOf? kind name, previous with
  | none, _ => s
  | some i, some e => { s with entries := s.entries.set i e }
  | some i, none => { s with entries := s.entries.eraseIdx i }

/-- What a store offers to pickers. It knows of no wireless networks. -/
def catalog (s : Store) : Catalog :=
  ⟨s.names .ncu, s.names .location, s.names .enm, []⟩

/-! ## The file -/

variable {σ : Type} [FileSystem σ]

/-- Opens the store at a path. A missing file is an empty store. -/
def openAt (disk : σ) (path : String) : Except StoreError Store :=
  match FileSystem.read disk path with
  | .ok file => (StoreFile.decode file).map fun entries => ⟨path, entries⟩
  | .error .notFound => .ok ⟨path, []⟩
  | .error e => .error (.file e)

/-- Saves a store, step by step. If its file cannot be replaced, the other one is removed. -/
def saveRun (s : Store) (disk : σ) : StoreRun σ StoreError Unit :=
  match FileSystem.write disk (FileSystem.staging s.path) (StoreFile.encode s.entries) with
  | (.error e, staged) => ⟨.error (.file e), s, staged, [disk]⟩
  | (.ok (), staged) =>
    match FileSystem.rename staged (FileSystem.staging s.path) s.path with
    | (.ok (), replaced) => ⟨.ok (), s, replaced, [staged, disk]⟩
    | (.error e, refused) =>
      -- That the other file could not be removed is no failure of its own.
      let cleared := (FileSystem.remove refused (FileSystem.staging s.path)).2
      ⟨.error (.file e), s, cleared, [refused, staged, disk]⟩

def save (s : Store) (disk : σ) : Except StoreError Unit × σ :=
  let run := s.saveRun disk
  (run.outcome, run.disk)

/-- Stores an entry, step by step. If the store cannot be saved, the entry is taken out again, or
    the one that it replaced is put back. -/
def putRun (s : Store) (disk : σ) (e : Entry) : StoreRun σ StoreError Unit :=
  let (previous, next) := s.upsert e
  let run := next.saveRun disk
  match run.outcome with
  | .ok () => run
  | .error _ => { run with store := run.store.restore e.kind e.name previous }

/-- Removes an entity, step by step, and tells whether it was there. If the store cannot be saved,
    its entry is put back where it was. -/
def removeRun (s : Store) (disk : σ) (kind : EntityKind) (name : String) :
    StoreRun σ StoreError Bool :=
  match s.indexOf? kind name, s.find? kind name with
  | some i, some removed =>
    let run := { s with entries := s.entries.eraseIdx i : Store }.saveRun disk
    match run.outcome with
    | .ok () => ⟨.ok true, run.store, run.disk, run.passed⟩
    | .error error =>
      let store := { run.store with entries := run.store.entries.insertIdx i removed }
      ⟨.error error, store, run.disk, run.passed⟩
  | _, _ => ⟨.ok false, s, disk, []⟩

def remove (s : Store) (disk : σ) (kind : EntityKind) (name : String) :
    Except StoreError Bool × Store × σ :=
  let run := s.removeRun disk kind name
  (run.outcome, run.store, run.disk)

end Store

end NetActivation
