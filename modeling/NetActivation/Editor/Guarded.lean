import NetActivation.Editor.Edit

set_option autoImplicit false

/-! # Guarded operations

A write to a slot that is not there is lost without a trace. Here are the operations on a pool and
on an editor once more, in a form that fails at such a write. -/

namespace NetActivation

namespace RowPool

/-- Writes to a slot, if it is there. -/
def write? (p : RowPool) (id : RowId) (slot : Option Row) : Option RowPool :=
  if id.index < p.slots.length then some { p with slots := p.slots.set id.index slot } else none

def allocSlot? (p : RowPool) : Option (RowId × RowPool) :=
  match p.vacant with
  | id :: vacant => (p.write? id (some Row.blank)).map fun p => (id, { p with vacant })
  | [] => some (⟨p.slots.length⟩, { p with slots := p.slots ++ [some Row.blank] })

def alloc? (p : RowPool) : Option (RowId × RowPool) :=
  match p.cache with
  | id :: cache =>
    match p.get? id with
    | some r => (p.write? id (some r.reset)).map fun p => (id, { p with cache })
    | none => allocSlot? { p with cache }
  | [] => p.allocSlot?

def bindAll? (catalog : Catalog) (policy : BssidPolicy) (p : RowPool) :
    List Condition → Option (List RowId × RowPool)
  | [] => some ([], p)
  | c :: cs =>
    p.alloc?.bind fun (id, p) =>
      ((p.modify id (Row.bind catalog policy c)).bindAll? catalog policy cs).map fun (ids, p) =>
        (id :: ids, p)

def release? (limit : Nat) (p : RowPool) (id : RowId) : Option RowPool :=
  if p.cache.length < limit then some { p with cache := id :: p.cache }
  else (p.write? id none).map fun p => { p with vacant := id :: p.vacant }

/-- Takes several handles back. -/
def releaseAll? (limit : Nat) (p : RowPool) : List RowId → Option RowPool
  | [] => some p
  | id :: ids => (p.release? limit id).bind fun p => p.releaseAll? limit ids

end RowPool

namespace Editor

def new? (config : EditorConfig) : Option Editor :=
  (RowPool.alloc? {}).map fun (id, pool) => ⟨config, .manual, pool, [id], none⟩

def addAfter? (e : Editor) (after : RowId) : Option Change :=
  e.pool.alloc?.map fun (id, pool) =>
    let e' := { e with pool, rows := e.rows.insertIdx (e.placeAfter after) id }
    ⟨e'.syncRemoveControls,
      .rowAdded id :: if e'.rows.length = 2 then [.multiRow true] else []⟩

def remove? (e : Editor) (id : RowId) : Option Change :=
  if id ∈ e.rows then
    let rows := e.rows.erase id
    (e.pool.release? e.config.rowCacheLimit id).bind fun pool =>
      if rows.isEmpty then
        pool.alloc?.map fun (fresh, pool) =>
          ⟨{ e with pool, rows := [fresh] }.syncRemoveControls, [.rowRemoved id, .rowAdded fresh]⟩
      else
        some ⟨{ e with pool, rows }.syncRemoveControls,
          .rowRemoved id :: if rows.length = 1 then [.multiRow false] else []⟩
  else some ⟨e, []⟩

def rowsFor? (catalog : Catalog) (policy : BssidPolicy) (pool : RowPool)
    (conditions : List Condition) : Option (List RowId × RowPool) :=
  (pool.bindAll? catalog policy conditions).bind fun (rows, pool) =>
    if rows.isEmpty then pool.alloc?.map fun (fresh, pool) => ([fresh], pool)
    else some (rows, pool)

def load? (catalog : Catalog) (e : Editor) (x : EntityView) : Option Change :=
  (e.pool.releaseAll? e.config.rowCacheLimit e.rows).bind fun released =>
    (rowsFor? catalog e.config.bssidPolicy released x.staged.conditions).map fun (rows, pool) =>
      let e' := { e with mode := x.staged.mode, pool, rows, bound := some (x.kind, x.name) }
      ⟨e'.syncRemoveControls,
        .reloaded :: if e.isMultiRow = e'.isMultiRow then [] else [.multiRow e'.isMultiRow]⟩

/-- Carries out an operation. Those that hand out no row and take none back write only to slots that
    hold a row. -/
def perform? (catalog : Catalog) (e : Editor) : Edit → Option Change
  | .addAfter after => e.addAfter? after
  | .remove id => e.remove? id
  | .refresh x force =>
    if !force && e.bound == some (x.kind, x.name) then some e.unchanged else e.load? catalog x
  | .setField id field => some (e.setField catalog id field)
  | .setOperator id op => some (e.setOperator id op)
  | .setValue id value => some (e.setValue id value)
  | .setMode mode => some (e.setMode mode)

/-- Carries out operations in order, up to the first that fails. -/
def run? (e : Editor) : List (Catalog × Edit) → Option Editor
  | [] => some e
  | (catalog, edit) :: rest => (e.perform? catalog edit).bind fun change => change.editor.run? rest

end Editor

end NetActivation
