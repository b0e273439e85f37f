import NetActivation.Editor.Edit

set_option autoImplicit false

/-! # Sessions

An editor with the catalog that it consults and with its observers. Observers are numbered in the
order in which they subscribed. Every event reaches every observer that has subscribed by then, and
an event has reached all of them before the next one reaches the first. -/

namespace NetActivation

structure Delivery where
  observer : Nat
  event : Event
  deriving DecidableEq, Repr

structure Session where
  catalog : Catalog
  editor : Editor
  /-- how many observers have subscribed -/
  observers : Nat := 0
  /-- what reached the observers, the earliest first -/
  deliveries : List Delivery := []
  deriving DecidableEq, Repr

namespace Session

/-- A session with a new editor, which nobody observes yet. -/
def new (catalog : Catalog) (config : EditorConfig) : Session :=
  { catalog, editor := Editor.new config }

def subscribe (s : Session) : Session := { s with observers := s.observers + 1 }

/-- What one event amounts to for the observers. -/
def deliver (s : Session) (event : Event) : List Delivery :=
  (List.range s.observers).map fun i => ⟨i, event⟩

/-- Takes over a change and tells the observers about it. -/
def accept (s : Session) (c : Change) : Session :=
  { s with editor := c.editor, deliveries := s.deliveries ++ c.events.flatMap s.deliver }

def perform (s : Session) (edit : Edit) : Session :=
  s.accept (s.editor.perform s.catalog edit)

/-- The events that reached an observer, the earliest first. -/
def received (s : Session) (observer : Nat) : List Event :=
  (s.deliveries.filter (·.observer == observer)).map (·.event)

def clearDeliveries (s : Session) : Session := { s with deliveries := [] }

end Session

end NetActivation
