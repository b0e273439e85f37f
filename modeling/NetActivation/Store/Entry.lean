import NetActivation.Store.Error
import NetActivation.Store.Payload

set_option autoImplicit false

/-! # The entries of a store

An entry holds the condition set of the entity with a kind and a name. In a list of entries no two
are of the same kind and name. -/

namespace NetActivation

structure Entry where
  kind : EntityKind
  name : String
  set : ConditionSet
  deriving DecidableEq, Repr

namespace Entry

/-- What tells entries apart. -/
def key (e : Entry) : EntityKind × String := (e.kind, e.name)

/-- An entry as it is stored. -/
def toRecord (e : Entry) : Record := ⟨e.kind, e.name, e.set.mode, e.set.texts⟩

/-- The entry that a record stands for. -/
def ofRecord (r : Record) : Except StoreError Entry :=
  match ConditionSet.ofTexts r.mode r.conditions with
  | .ok set => .ok ⟨r.kind, r.name, set⟩
  | .error e => .error (.badRecord r.kind r.name e)

/-- The entries that records stand for. A record with the kind and name of one among `seen` is
    refused. -/
def ofRecords (seen : List (EntityKind × String)) : List Record → Except StoreError (List Entry)
  | [] => .ok []
  | r :: rs =>
    if (r.kind, r.name) ∈ seen then .error (.duplicate r.kind r.name)
    else do
      let e ← ofRecord r
      let es ← ofRecords ((r.kind, r.name) :: seen) rs
      return e :: es

/-- The payload that holds entries. -/
def toPayload (es : List Entry) : Payload := ⟨es.length, es.map toRecord⟩

/-- The entries that a payload holds. -/
def ofPayload (p : Payload) : Except StoreError (List Entry) :=
  if p.count = p.records.length then ofRecords [] p.records
  else .error (.recordCount p.count p.records.length)

/-- What makes a list of entries fit to be stored: their keys differ, and their sets are valid. -/
def WellFormed (es : List Entry) : Prop :=
  (es.map key).Nodup ∧ ∀ e ∈ es, e.set.Valid

end Entry

end NetActivation
