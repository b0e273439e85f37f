import NetActivation.Editor.Row

set_option autoImplicit false

/-! # The pool of rows

Rows live in numbered slots, and a row's handle is the number of its slot. Released rows are handed
out again: up to a limit their records are kept, beyond it only their slots. -/

namespace NetActivation

/-- The slots of an editor with the handles that are free. -/
structure RowPool where
  slots : List (Option Row) := []
  /-- released rows whose records are kept, the last released first -/
  cache : List RowId := []
  /-- released slots without a record, the last released first -/
  vacant : List RowId := []
  deriving DecidableEq, Repr

namespace RowPool

def get? (p : RowPool) (id : RowId) : Option Row := (p.slots[id.index]?).join

/-- Puts a row in the place of the one with a handle. -/
def put (p : RowPool) (id : RowId) (r : Row) : RowPool :=
  { p with slots := p.slots.set id.index (some r) }

def modify (p : RowPool) (id : RowId) (f : Row → Row) : RowPool :=
  { p with slots := p.slots.modify id.index (·.map f) }

/-- Hands out a blank row without looking at the kept records: a vacant slot first, then a new
    slot. -/
def allocSlot (p : RowPool) : RowId × RowPool :=
  match p.vacant with
  | id :: vacant => (id, { p.put id Row.blank with vacant })
  | [] => (⟨p.slots.length⟩, { p with slots := p.slots ++ [some Row.blank] })

/-- Hands out a blank row: the record that was kept last, if there is one. -/
def alloc (p : RowPool) : RowId × RowPool :=
  match p.cache with
  | id :: cache =>
    match p.get? id with
    | some r => (id, { p.put id r.reset with cache })
    -- A handle that was kept has a record; if not, the next source is tried.
    | none => allocSlot { p with cache }
  | [] => p.allocSlot

/-- Hands out a row for each of several conditions, in order, and lets it show that condition. -/
def bindAll (catalog : Catalog) (policy : BssidPolicy) (p : RowPool) :
    List Condition → List RowId × RowPool
  | [] => ([], p)
  | c :: cs =>
    let (id, p) := p.alloc
    let (ids, p) := (p.modify id (Row.bind catalog policy c)).bindAll catalog policy cs
    (id :: ids, p)

/-- Takes a handle back. -/
def release (limit : Nat) (p : RowPool) (id : RowId) : RowPool :=
  if p.cache.length < limit then { p with cache := id :: p.cache }
  else { p with slots := p.slots.set id.index none, vacant := id :: p.vacant }

/-- Changes the rows with the given handles. -/
def modifyAll (p : RowPool) (ids : List RowId) (f : Row → Row) : RowPool :=
  { p with slots := p.slots.mapIdx fun i slot => if ⟨i⟩ ∈ ids then slot.map f else slot }

end RowPool

end NetActivation
