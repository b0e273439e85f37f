import NetActivation.Editor.RowPool
import NetActivation.Entity.Basic

set_option autoImplicit false

/-! # The rule editor

An editor shows a mode and conditions, one in each row, and at least one row. The only row cannot
be removed for good: a blank one takes its place. Every operation gives the editor after it and the
events that tell observers what happened.

A row that is added after a handle that no row has is added at the end. To remove or to edit a row
by such a handle is a mistake of the caller, at which a build with debug assertions stops. This is
the build without them, in which nothing happens and observers are told nothing. Log output is left
out, here and in the other modules. -/

namespace NetActivation

/-- What observers of an editor are told. -/
inductive Event where
  /-- the editor came to show several rows, or ceased to -/
  | multiRow (entered : Bool)
  | rowAdded (id : RowId)
  | rowRemoved (id : RowId)
  /-- the field, the operator or the value of a row changed -/
  | conditionChanged (id : RowId)
  /-- all rows were replaced -/
  | reloaded
  deriving DecidableEq, Repr

/-- An editor. The catalog is not part of it, but given to the operations that consult it. -/
structure Editor where
  config : EditorConfig
  mode : Mode
  pool : RowPool
  /-- the rows shown, in order -/
  rows : List RowId
  /-- the kind and the name of the entity that was last loaded -/
  bound : Option (EntityKind × String)
  deriving DecidableEq, Repr

/-- An editor after an operation, and the events that the operation emitted. -/
structure Change where
  editor : Editor
  events : List Event
  deriving DecidableEq, Repr

namespace Editor

/-! ## Views -/

/-- The row with a handle, if it is shown. -/
def row? (e : Editor) (id : RowId) : Option Row :=
  if id ∈ e.rows then e.pool.get? id else none

/-- The rows shown with their handles, in order. -/
def shown (e : Editor) : List (RowId × Row) :=
  e.rows.filterMap fun id => (e.row? id).map fun r => (id, r)

/-- The conditions of the rows shown, in order. -/
def conditions (e : Editor) : List Condition := e.shown.map (·.2.condition)

def isMultiRow (e : Editor) : Bool := decide (1 < e.rows.length)

/-! ## Making an editor -/

/-- Lets rows be removed exactly if several are shown. -/
def syncRemoveControls (e : Editor) : Editor :=
  { e with pool := e.pool.modifyAll e.rows fun r => { r with removeEnabled := e.isMultiRow } }

/-- An editor that shows one blank row. -/
def new (config : EditorConfig) : Editor :=
  let (id, pool) := RowPool.alloc {}
  ⟨config, .manual, pool, [id], none⟩

/-! ## Rows -/

/-- The handle that the next row will have. -/
def nextRow (e : Editor) : RowId := (e.pool.alloc).1

/-- Where a row goes that is added after another: behind it, or at the end if it is not shown. -/
def placeAfter (e : Editor) (after : RowId) : Nat :=
  match e.rows.idxOf? after with
  | some i => i + 1
  | none => e.rows.length

/-- Adds a blank row after another. -/
def addAfter (e : Editor) (after : RowId) : Change :=
  let (id, pool) := e.pool.alloc
  let e' := { e with pool, rows := e.rows.insertIdx (e.placeAfter after) id }
  ⟨e'.syncRemoveControls,
    .rowAdded id :: if e'.rows.length = 2 then [.multiRow true] else []⟩

/-- Removes a row. A blank row takes the place of the only one. -/
def remove (e : Editor) (id : RowId) : Change :=
  if id ∈ e.rows then
    let rows := e.rows.erase id
    let pool := e.pool.release e.config.rowCacheLimit id
    if rows.isEmpty then
      let (fresh, pool) := pool.alloc
      ⟨{ e with pool, rows := [fresh] }.syncRemoveControls, [.rowRemoved id, .rowAdded fresh]⟩
    else
      ⟨{ e with pool, rows }.syncRemoveControls,
        .rowRemoved id :: if rows.length = 1 then [.multiRow false] else []⟩
  else ⟨e, []⟩

/-! ## Conditions -/

def unchanged (e : Editor) : Change := ⟨e, []⟩

/-- Puts another row in the place of one that is shown. -/
def update (e : Editor) (id : RowId) (r : Row) : Change :=
  ⟨{ e with pool := e.pool.put id r }, [.conditionChanged id]⟩

/-- Edits a row that is shown, if the row takes the edit. -/
def edit (e : Editor) (id : RowId) (f : Row → Option Row) : Change :=
  match (e.row? id).bind f with
  | some r => e.update id r
  | none => e.unchanged

def setField (catalog : Catalog) (e : Editor) (id : RowId) (field : Field) : Change :=
  e.edit id (Row.chooseField? catalog e.config.bssidPolicy field)

def setOperator (e : Editor) (id : RowId) (op : Operator) : Change :=
  e.edit id (Row.chooseOperator? op)

def setValue (e : Editor) (id : RowId) (value : String) : Change :=
  e.edit id (Row.enterValue? value)

def setMode (e : Editor) (mode : Mode) : Change := ⟨{ e with mode }, []⟩

/-! ## Loading an entity -/

/-- Hands out rows that show conditions: one for each, or a blank one if there are none. -/
def rowsFor (catalog : Catalog) (policy : BssidPolicy) (pool : RowPool)
    (conditions : List Condition) : List RowId × RowPool :=
  let (rows, pool) := pool.bindAll catalog policy conditions
  if rows.isEmpty then
    let (fresh, pool) := pool.alloc
    ([fresh], pool)
  else (rows, pool)

/-- Replaces mode and rows by those of an entity. -/
def load (catalog : Catalog) (e : Editor) (x : EntityView) : Change :=
  -- All rows are given back before the first is handed out, so that they can be used again.
  let released := e.rows.foldl (RowPool.release e.config.rowCacheLimit) e.pool
  let (rows, pool) := rowsFor catalog e.config.bssidPolicy released x.staged.conditions
  let e' := { e with mode := x.staged.mode, pool, rows, bound := some (x.kind, x.name) }
  ⟨e'.syncRemoveControls,
    .reloaded :: if e.isMultiRow = e'.isMultiRow then [] else [.multiRow e'.isMultiRow]⟩

/-- Shows an entity. Unless it is forced, nothing happens if the entity is the one shown. -/
def refresh (catalog : Catalog) (e : Editor) (x : EntityView) (force : Bool) : Change :=
  if !force && e.bound == some (x.kind, x.name) then e.unchanged else e.load catalog x

/-! ## Applying -/

/-- The set that an editor shows. Under the manual mode it has no conditions, else rows that were
    left unset are skipped. -/
def conditionSet (e : Editor) : Except ValidationError ConditionSet :=
  ConditionSet.build e.mode <|
    if e.mode = .manual then []
    else (e.shown.filter fun (_, r) => !r.isUnset).map (·.2.condition)

/-- Gives the set that an editor shows to an entity, and commits it. The editor stays as it is. -/
def apply {ε : Type} [Entity ε] (e : Editor) (x : ε) : Except ApplyError Unit × ε :=
  match e.conditionSet with
  | .error error => (.error (.validation error), x)
  | .ok set =>
    let (result, x) := Entity.commit (Entity.setMode (Entity.setConditions x set.conditions)
      set.mode)
    (result.mapError .commit, x)

end Editor

end NetActivation
