import NetActivation.Editor.Edit

set_option autoImplicit false

/-! # The plain editor

An editor that keeps nothing but what it shows: a mode and a list of rows. It knows no handles and
names a row by its place on display. A row that is removed is gone, and a blank row is made afresh
whenever one is needed, so nothing of an old row can come back. It says what an editor with recycled
rows has to show and to tell its observers. -/

namespace NetActivation

/-! ## Places -/

/-- An operation with its rows named by their places. A row that is not shown has none. -/
inductive PlainEdit where
  | addAfter (after : Option Nat)
  | remove (place : Option Nat)
  | setField (place : Option Nat) (field : Field)
  | setOperator (place : Option Nat) (op : Operator)
  | setValue (place : Option Nat) (value : String)
  | setMode (mode : Mode)
  | refresh (x : EntityView) (force : Bool)
  deriving DecidableEq, Repr

/-- What observers are told, with rows named by their places: a row that was added or changed by its
    place after the operation, one that was removed by its place before it. -/
inductive PlainEvent where
  | multiRow (entered : Bool)
  | rowAdded (place : Option Nat)
  | rowRemoved (place : Option Nat)
  | conditionChanged (place : Option Nat)
  | reloaded
  deriving DecidableEq, Repr

/-- An operation with its handles replaced by the places of the rows on display. -/
def Edit.placed (rows : List RowId) : Edit → PlainEdit
  | .addAfter after => .addAfter (rows.idxOf? after)
  | .remove id => .remove (rows.idxOf? id)
  | .setField id field => .setField (rows.idxOf? id) field
  | .setOperator id op => .setOperator (rows.idxOf? id) op
  | .setValue id value => .setValue (rows.idxOf? id) value
  | .setMode mode => .setMode mode
  | .refresh x force => .refresh x force

/-- An event with its handle replaced by a place, given the rows before and after the operation. -/
def Event.placed (before after : List RowId) : Event → PlainEvent
  | .multiRow entered => .multiRow entered
  | .rowAdded id => .rowAdded (after.idxOf? id)
  | .rowRemoved id => .rowRemoved (before.idxOf? id)
  | .conditionChanged id => .conditionChanged (after.idxOf? id)
  | .reloaded => .reloaded

/-! ## The editor -/

structure PlainEditor where
  mode : Mode
  /-- the rows shown, in order -/
  rows : List Row
  /-- the kind and the name of the entity that was last loaded -/
  bound : Option (EntityKind × String)
  deriving DecidableEq, Repr

/-- A plain editor after an operation, and the events that the operation emitted. -/
structure PlainChange where
  editor : PlainEditor
  events : List PlainEvent
  deriving DecidableEq, Repr

namespace PlainEditor

/-- A plain editor that shows one blank row. -/
def new : PlainEditor := ⟨.manual, [Row.blank], none⟩

/-- Rows each of which can be removed exactly if there are several. -/
def withControls (rows : List Row) : List Row :=
  rows.map fun r => { r with removeEnabled := decide (1 < rows.length) }

def unchanged (e : PlainEditor) : PlainChange := ⟨e, []⟩

/-- Where a row goes that is added after another: behind it, or at the end if it is not shown. -/
def placeAfter (e : PlainEditor) : Option Nat → Nat
  | some i => i + 1
  | none => e.rows.length

/-- Adds a blank row after another. -/
def addAfter (e : PlainEditor) (after : Option Nat) : PlainChange :=
  let place := e.placeAfter after
  let rows := e.rows.insertIdx place Row.blank
  ⟨{ e with rows := withControls rows },
    .rowAdded (some place) :: if rows.length = 2 then [.multiRow true] else []⟩

/-- Removes the row at a place. A blank row takes the place of the only one. -/
def remove (e : PlainEditor) : Option Nat → PlainChange
  | none => e.unchanged
  | some i =>
    let rows := e.rows.eraseIdx i
    if rows.isEmpty then
      ⟨{ e with rows := withControls [Row.blank] }, [.rowRemoved (some i), .rowAdded (some 0)]⟩
    else
      ⟨{ e with rows := withControls rows },
        .rowRemoved (some i) :: if rows.length = 1 then [.multiRow false] else []⟩

/-- Edits the row at a place, if the row takes the edit. -/
def edit (e : PlainEditor) (f : Row → Option Row) : Option Nat → PlainChange
  | none => e.unchanged
  | some i =>
    match e.rows[i]?.bind f with
    | some r => ⟨{ e with rows := e.rows.set i r }, [.conditionChanged (some i)]⟩
    | none => e.unchanged

/-- Shows an entity: its mode, and a row for each of its conditions or a blank one if there are
    none. Unless it is forced, nothing happens if the entity is the one shown. -/
def refresh (catalog : Catalog) (policy : BssidPolicy) (e : PlainEditor) (x : EntityView)
    (force : Bool) : PlainChange :=
  if !force && e.bound == some (x.kind, x.name) then e.unchanged
  else
    let conditions := x.staged.conditions
    let rows := if conditions.isEmpty then [Row.blank]
      else conditions.map fun c => Row.blank.bind catalog policy c
    let before := decide (1 < e.rows.length)
    let after := decide (1 < rows.length)
    ⟨⟨x.staged.mode, withControls rows, some (x.kind, x.name)⟩,
      .reloaded :: if before = after then [] else [.multiRow after]⟩

def perform (catalog : Catalog) (policy : BssidPolicy) (e : PlainEditor) : PlainEdit → PlainChange
  | .addAfter after => e.addAfter after
  | .remove place => e.remove place
  | .setField place field => e.edit (Row.chooseField? catalog policy field) place
  | .setOperator place op => e.edit (Row.chooseOperator? op) place
  | .setValue place value => e.edit (Row.enterValue? value) place
  | .setMode mode => ⟨{ e with mode }, []⟩
  | .refresh x force => e.refresh catalog policy x force

end PlainEditor

/-! ## Runs as they are seen -/

/-- What is seen after an operation: the mode, the rows in order, and what observers were told. -/
structure Sight where
  mode : Mode
  rows : List Row
  events : List PlainEvent
  deriving DecidableEq, Repr

/-- What is seen of a plain editor after each of several operations, each with the catalog as it is
    by then. -/
def PlainEditor.sights (policy : BssidPolicy) (e : PlainEditor) :
    List (Catalog × PlainEdit) → List Sight
  | [] => []
  | (catalog, edit) :: steps =>
    let change := e.perform catalog policy edit
    ⟨change.editor.mode, change.editor.rows, change.events⟩ :: change.editor.sights policy steps

namespace Editor

/-- What is seen of an editor after each of several operations. -/
def sights (e : Editor) : List (Catalog × Edit) → List Sight
  | [] => []
  | (catalog, edit) :: steps =>
    let change := e.perform catalog edit
    ⟨change.editor.mode, change.editor.shown.map (·.2),
      change.events.map (Event.placed e.rows change.editor.rows)⟩ :: change.editor.sights steps

/-- Operations with each handle replaced by the place of its row by then. -/
def placed (e : Editor) : List (Catalog × Edit) → List (Catalog × PlainEdit)
  | [] => []
  | (catalog, edit) :: steps =>
    (catalog, edit.placed e.rows) :: (e.perform catalog edit).editor.placed steps

/-- Whatever is done with one editor can be done with the other to the rows at the same places, and
    then the same is seen of both. -/
def Indistinguishable (e e' : Editor) : Prop :=
  ∀ steps, (∃ steps', e'.placed steps' = e.placed steps) ∧
    ∀ steps', e'.placed steps' = e.placed steps → e'.sights steps' = e.sights steps

end Editor

end NetActivation
