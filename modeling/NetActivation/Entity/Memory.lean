import NetActivation.Entity.Basic

set_option autoImplicit false

/-! # Entities in memory

An entity that keeps its staged and its committed set side by side. A commit can be made to fail
in advance; what was staged is then discarded. -/

namespace NetActivation

/-- An entity in memory. It counts how often conditions were staged and how often a commit went
    through. -/
structure MemoryEntity where
  kind : EntityKind
  name : String
  staged : ConditionSet := .manual
  committed : ConditionSet := .manual
  rejection : Option CommitError := none
  setConditionsCalls : Nat := 0
  commits : Nat := 0
  deriving DecidableEq, Repr

namespace MemoryEntity

/-- An entity that holds a set, as if it had just been loaded. -/
def withSet (e : MemoryEntity) (set : ConditionSet) : MemoryEntity :=
  { e with staged := set, committed := set }

/-- Makes the next commit fail, and only that one. -/
def rejectNext (e : MemoryEntity) (error : CommitError) : MemoryEntity :=
  { e with rejection := some error }

def setConditions (e : MemoryEntity) (conditions : List Condition) : MemoryEntity :=
  { e with
    staged := { e.staged with conditions }
    setConditionsCalls := e.setConditionsCalls + 1 }

def setMode (e : MemoryEntity) (mode : Mode) : MemoryEntity :=
  { e with staged := { e.staged with mode } }

/-- Commits what is staged, or discards it if a rejection is waiting. -/
def commit (e : MemoryEntity) : Except CommitError Unit × MemoryEntity :=
  match e.rejection with
  | some error => (.error error, { e with staged := e.committed, rejection := none })
  | none => (.ok (), { e with committed := e.staged, commits := e.commits + 1 })

instance : Entity MemoryEntity where
  view e := ⟨e.kind, e.name, e.staged⟩
  setConditions := setConditions
  setMode := setMode
  commit := commit

end MemoryEntity

end NetActivation
