import NetActivation.Store.StoredEntity

set_option autoImplicit false

/-! # Operations on a store

The operations on a store as data, and runs of them. Every operation may fail, and a run goes on
after one that did. -/

namespace NetActivation

inductive StoreOperation where
  /-- stages a set on a handle on an entity, and commits it -/
  | commit (kind : EntityKind) (name : String) (staged : ConditionSet)
  | remove (kind : EntityKind) (name : String)
  | save
  deriving DecidableEq, Repr

inductive StoreFailure where
  | commit (e : CommitError)
  | store (e : StoreError)
  deriving DecidableEq, Repr

/-- A step of a run: the store and the file system before it, the operation, and how it went. -/
structure StoreStep (σ : Type) where
  store : Store
  disk : σ
  operation : StoreOperation
  run : StoreRun σ StoreFailure Unit

namespace Store

variable {σ : Type} [FileSystem σ]

def perform (s : Store) (disk : σ) : StoreOperation → StoreRun σ StoreFailure Unit
  | .commit kind name staged =>
    let x := Entity.setMode (Entity.setConditions (s.entity disk kind name) staged.conditions)
      staged.mode
    x.commitRun.mapOutcome (·.mapError .commit)
  | .remove kind name =>
    (s.removeRun disk kind name).mapOutcome fun r => (r.map fun _ => ()).mapError .store
  | .save => (s.saveRun disk).mapOutcome (·.mapError .store)

/-- Carries out operations in order, and tells each step. -/
def trace (s : Store) (disk : σ) : List StoreOperation → List (StoreStep σ)
  | [] => []
  | op :: ops =>
    let run := s.perform disk op
    ⟨s, disk, op, run⟩ :: run.store.trace run.disk ops

end Store

end NetActivation
