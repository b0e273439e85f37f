import NetActivation.Store.Operation

set_option autoImplicit false

/-! # The history of a store

What happened to the entities of a store, told without its entries. A history lists the changes that
went through, the latest first; which set an entity has, and since when it is there, is read off the
history alone. -/

namespace NetActivation

/-- A change of what a store holds. -/
inductive StoreChange where
  /-- the entity of a kind and name got a set -/
  | stored (key : EntityKind × String) (set : ConditionSet)
  /-- the entity of a kind and name was removed -/
  | removed (key : EntityKind × String)
  deriving DecidableEq, Repr

namespace StoreChange

/-- The kind and name of the entity that a change is about. -/
def key : StoreChange → EntityKind × String
  | stored key _ => key
  | removed key => key

/-- The set that an entity got last, if it was not removed since. -/
def lastSet? (key : EntityKind × String) : List StoreChange → Option ConditionSet
  | [] => none
  | .stored k set :: older => if k = key then some set else lastSet? key older
  | .removed k :: older => if k = key then none else lastSet? key older

/-- How many changes there had been when an entity was stored for the first time since it was
    removed last. There is no such time for one that was never stored or has been removed since. -/
def since? (key : EntityKind × String) : List StoreChange → Option Nat
  | [] => none
  | .stored k _ :: older =>
    if k = key then some ((since? key older).getD older.length) else since? key older
  | .removed k :: older => if k = key then none else since? key older

/-- Whether both of two entities are there, and the first came before the second. -/
def InOrder (history : List StoreChange) (first second : EntityKind × String) : Prop :=
  ∃ i j, since? first history = some i ∧ since? second history = some j ∧ i < j

end StoreChange

/-- The kind and name of the entity that an operation is about. -/
def StoreOperation.key? : StoreOperation → Option (EntityKind × String)
  | .commit kind name _ => some (kind, name)
  | .remove kind name => some (kind, name)
  | .save => none

/-- The change that an operation makes if it goes well. -/
def StoreOperation.change? : StoreOperation → Option StoreChange
  | .commit kind name staged => some (.stored (kind, name) staged)
  | .remove kind name => some (.removed (kind, name))
  | .save => none

/-- The change that a step made. One that failed made none. -/
def StoreStep.change? {σ : Type} (t : StoreStep σ) : Option StoreChange :=
  match t.run.outcome with
  | .ok () => t.operation.change?
  | .error _ => none

/-- A step changes nothing but the entity that its operation is about. -/
theorem StoreStep.key?_of_change? {σ : Type} {t : StoreStep σ} {change : StoreChange}
    (h : t.change? = some change) : t.operation.key? = some change.key := by
  rw [StoreStep.change?] at h
  split at h
  · cases hop : t.operation with
    | commit kind name staged | remove kind name =>
        rw [hop] at h
        obtain rfl := Option.some.inj h
        rfl
    | save =>
        rw [hop] at h
        exact absurd h (by simp [StoreOperation.change?])
  · exact absurd h (by simp)

namespace Store

variable {σ : Type} [FileSystem σ]

/-- The store and the file system after operations. -/
def after (s : Store) (disk : σ) : List StoreOperation → Store × σ
  | [] => (s, disk)
  | op :: ops =>
    let run := s.perform disk op
    run.store.after run.disk ops

/-- The entries of a store as changes, as if they had been stored one by one. -/
def loaded (s : Store) : List StoreChange :=
  (s.entries.map fun e => .stored e.key e.set).reverse

/-- What happened to the entities of a store from its opening on. -/
def history (s : Store) (disk : σ) (ops : List StoreOperation) : List StoreChange :=
  ((s.trace disk ops).filterMap StoreStep.change?).reverse ++ s.loaded

end Store

end NetActivation
