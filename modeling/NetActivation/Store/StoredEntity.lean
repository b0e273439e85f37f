import NetActivation.Entity.Basic
import NetActivation.Store.Basic
import NetActivation.Text.WhiteSpace

set_option autoImplicit false

/-! # Stored entities

A handle on one entity of a store. What is staged on it is checked when it is committed; a commit
saves the whole store. A handle on an entity that is not stored adds it with its first commit. -/

namespace NetActivation

/-- A handle on an entity, with the store and the file system behind it. -/
structure StoredEntity (σ : Type) where
  disk : σ
  store : Store
  kind : EntityKind
  name : String
  staged : ConditionSet

/-- A handle on the entity of a kind and name, with its set staged. -/
def Store.entity {σ : Type} (s : Store) (disk : σ) (kind : EntityKind) (name : String) :
    StoredEntity σ :=
  ⟨disk, s, kind, name, s.setOf kind name⟩

namespace StoredEntity

variable {σ : Type} [FileSystem σ]

/-- Commits what is staged, step by step. The name must not be blank, and the set has to be
    valid. -/
def commitRun (x : StoredEntity σ) : StoreRun σ CommitError Unit :=
  if (Text.trim x.name.toList).isEmpty then
    ⟨.error ⟨some "name", "must not be empty"⟩, x.store, x.disk, []⟩
  else match ConditionSet.build x.staged.mode x.staged.conditions with
    | .error e => ⟨.error ⟨some "conditions", e.message⟩, x.store, x.disk, []⟩
    | .ok set =>
      (x.store.putRun x.disk ⟨x.kind, x.name, set⟩).mapOutcome
        (·.mapError fun e => ⟨none, e.message⟩)

def commit (x : StoredEntity σ) : Except CommitError Unit × StoredEntity σ :=
  let run := x.commitRun
  (run.outcome, { x with store := run.store, disk := run.disk })

instance : Entity (StoredEntity σ) where
  view x := ⟨x.kind, x.name, x.staged⟩
  setConditions x conditions := { x with staged := { x.staged with conditions } }
  setMode x mode := { x with staged := { x.staged with mode } }
  commit := commit

end StoredEntity

end NetActivation
