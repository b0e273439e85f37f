import NetActivation.Editor.Basic

set_option autoImplicit false

/-! # Edits

The operations on an editor as data, and runs of them. A run also tells what cannot be read off the
editor any more: how many rows it showed at most, and which conditions the last loading put into its
rows. Applying what an editor shows is no edit, as it leaves the editor as it is. -/

namespace NetActivation

inductive Edit where
  | addAfter (after : RowId)
  | remove (id : RowId)
  | setField (id : RowId) (field : Field)
  | setOperator (id : RowId) (op : Operator)
  | setValue (id : RowId) (value : String)
  | setMode (mode : Mode)
  | refresh (x : EntityView) (force : Bool)
  deriving DecidableEq, Repr

namespace Editor

def perform (catalog : Catalog) (e : Editor) : Edit → Change
  | .addAfter after => e.addAfter after
  | .remove id => e.remove id
  | .setField id field => e.setField catalog id field
  | .setOperator id op => e.setOperator id op
  | .setValue id value => e.setValue id value
  | .setMode mode => e.setMode mode
  | .refresh x force => e.refresh catalog x force

/-- Carries out operations in order, each with the catalog as it is by then. -/
def run (e : Editor) : List (Catalog × Edit) → Editor
  | [] => e
  | (catalog, edit) :: rest => (e.perform catalog edit).editor.run rest

theorem run_append (e : Editor) (before after : List (Catalog × Edit)) :
    e.run (before ++ after) = (e.run before).run after := by
  induction before generalizing e with
  | nil => rfl
  | cons step before ih => exact ih _

end Editor

/-! ## Editors that come about -/

/-- An editor that a new one can become. -/
def Editor.Reachable (e : Editor) : Prop :=
  ∃ (config : EditorConfig) (steps : List (Catalog × Edit)), (Editor.new config).run steps = e

theorem Editor.Reachable.perform {e : Editor} (h : e.Reachable) (catalog : Catalog) (edit : Edit) :
    (e.perform catalog edit).editor.Reachable := by
  obtain ⟨config, steps, rfl⟩ := h
  exact ⟨config, steps ++ [(catalog, edit)], Editor.run_append _ steps _⟩

/-! ## Rows shown -/

/-- The largest number of rows shown during a run, the start included. -/
def Editor.peak (e : Editor) : List (Catalog × Edit) → Nat
  | [] => e.rows.length
  | (catalog, edit) :: rest => max e.rows.length ((e.perform catalog edit).editor.peak rest)

/-! ## Conditions loaded -/

/-- The conditions that an operation loads, if it loads any. -/
def Edit.conditions : Edit → List Condition
  | .refresh x _ => x.staged.conditions
  | .addAfter _ | .remove _ | .setField _ _ | .setOperator _ _ | .setValue _ _ | .setMode _ => []

/-- What was loaded into each row, after an event. A row that was added holds nothing that was
    loaded, even if its handle did. A reload puts the conditions into the rows in order. -/
def Event.loaded (rows : List RowId) (conditions : List Condition)
    (loaded : RowId → Option Condition) : Event → RowId → Option Condition
  | .reloaded => fun id => (rows.idxOf? id).bind (conditions[·]?)
  | .rowAdded added => fun id => if id = added then none else loaded id
  | .multiRow _ | .rowRemoved _ | .conditionChanged _ => loaded

/-- What was loaded into each row, after an operation. -/
def Change.loaded (change : Change) (edit : Edit) (loaded : RowId → Option Condition) :
    RowId → Option Condition :=
  change.events.foldl (Event.loaded change.editor.rows edit.conditions) loaded

/-- What was loaded into each row, after a run. -/
def Editor.loaded (e : Editor) (loaded : RowId → Option Condition) :
    List (Catalog × Edit) → RowId → Option Condition
  | [] => loaded
  | (catalog, edit) :: rest =>
    let change := e.perform catalog edit
    change.editor.loaded (change.loaded edit loaded) rest

end NetActivation
