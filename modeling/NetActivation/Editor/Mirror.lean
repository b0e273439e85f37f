import Mathlib.Data.Finset.Basic
import NetActivation.Editor.Session

set_option autoImplicit false

/-! # What observers know

An observer sees none of the rows, only events. Here is what it can make of them: a set of handles
that it takes to be shown, and whether several rows are. The set is undefined from the first event
on that does not fit it, so an observer with a set has followed every event. -/

namespace NetActivation

namespace Session

/-! ## Runs of sessions -/

/-- What can happen to a session. -/
inductive Step where
  | subscribe
  /-- the system has changed, and with it what the catalog says -/
  | setCatalog (catalog : Catalog)
  | perform (edit : Edit)
  deriving DecidableEq, Repr

def step (s : Session) : Step → Session
  | .subscribe => s.subscribe
  | .setCatalog catalog => { s with catalog }
  | .perform edit => s.perform edit

def run (s : Session) : List Step → Session
  | [] => s
  | x :: rest => (s.step x).run rest

/-- The events that reach an observer in a step, the earliest first. -/
def heard (s : Session) (observer : Nat) (x : Step) : List Event :=
  ((s.step x).received observer).drop (s.received observer).length

end Session

/-! ## Events as observers read them -/

namespace Event

/-- What an event says about whether several rows are shown. -/
def multiRow? : Event → Option Bool
  | .multiRow entered => some entered
  | .rowAdded _ | .rowRemoved _ | .conditionChanged _ | .reloaded => none

/-- The handles that an observer takes to be shown, after an event. A row that is added must be new
    to it and one that is removed must not. After a reload it looks at the rows, which are
    `current` then. -/
def mirror (current : List RowId) (shown : Finset RowId) : Event → Option (Finset RowId)
  | .rowAdded id => if id ∈ shown then none else some (insert id shown)
  | .rowRemoved id => if id ∈ shown then some (shown.erase id) else none
  | .reloaded => some current.toFinset
  | .multiRow _ | .conditionChanged _ => some shown

end Event

/-- The handles that an observer takes to be shown after a run, given those at its start. -/
def Session.mirror (s : Session) (observer : Nat) (shown : Finset RowId) :
    List Session.Step → Option (Finset RowId)
  | [] => some shown
  | x :: rest => do
    let shown ← (s.heard observer x).foldlM (Event.mirror (s.step x).editor.rows) shown
    (s.step x).mirror observer shown rest

/-- Whether an operation replaces all rows by those of an entity. -/
def Edit.Reloads (e : Editor) : Edit → Prop
  | .refresh x force => force = true ∨ e.bound ≠ some (x.kind, x.name)
  | .addAfter _ | .remove _ | .setField _ _ | .setOperator _ _ | .setValue _ _ | .setMode _ => False

end NetActivation
