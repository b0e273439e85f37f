import NetActivation.Entity.Basic

set_option autoImplicit false

/-! # Rows

A row of an editor shows one condition: its field, the operators to choose from, and an input for
its value. A picker keeps the names that it offered when it was made. What can be tuned about an
editor decides how many rows it keeps and which operators they offer. -/

namespace NetActivation

/-- What can be tuned about an editor: how many released rows it keeps for reuse, and which
    operators conditions on hardware addresses offer. -/
structure EditorConfig where
  rowCacheLimit : Nat := 16
  bssidPolicy : BssidPolicy := .likeEssid
  deriving DecidableEq, Repr, Inhabited

/-- The handle of a row. A handle that was released may later name another row. -/
structure RowId where
  index : Nat
  deriving DecidableEq, Repr

/-! ## The input for a value -/

/-- How the value of a row is entered. -/
inductive ValueInput where
  | disabled
  | freeText
  | completion (suggestions : List String)
  /-- a picker, with the place of the selected choice -/
  | picker (kind : EntityKind) (choices : List String) (selected : Option Nat)
  deriving DecidableEq, Repr

namespace ValueInput

/-- A fresh input, with nothing selected. -/
def of (catalog : Catalog) : ValueKind → ValueInput
  | .disabled => .disabled
  | .freeText => .freeText
  | .completion => .completion catalog.knownNetworks
  | .reference kind => .picker kind (catalog.references kind) none

/-- Points a picker at the first choice that is `value`, if there is one. -/
def select (value : String) : ValueInput → ValueInput
  | .picker kind choices _ => .picker kind choices (choices.idxOf? value)
  | input => input

/-- Whether a value can be entered. Pickers take only their choices. -/
def accepts (value : String) : ValueInput → Bool
  | .picker _ choices _ => choices.contains value
  | .disabled | .freeText | .completion _ => true

def isPicker : ValueInput → Bool
  | .picker _ _ _ => true
  | .disabled | .freeText | .completion _ => false

/-- The value of an input that takes the place of another: text is kept if the other was for text
    too, and a name is kept if it can be picked, failing which the first choice is taken. -/
def carryOver (old : String) (wasText : Bool) : ValueInput → String
  | .picker _ choices _ => if choices.contains old then old else choices.headD ""
  | .freeText | .completion _ => if wasText then old else ""
  | .disabled => ""

end ValueInput

/-! ## Rows -/

/-- A row: its condition, the operators it offers, its input, and whether it can be removed. -/
structure Row where
  condition : Condition
  operators : List Operator
  input : ValueInput
  removeEnabled : Bool
  deriving DecidableEq, Repr

namespace Row

/-- A row in which nothing was chosen. -/
def blank : Row := ⟨Condition.blank, [], .disabled, false⟩

/-- A row that was used before, as it is handed out again: each of its parts is cleared. -/
def reset (r : Row) : Row :=
  { r with
    condition := { r.condition with field := .blank, op := .is, value := "" }
    operators := []
    input := .disabled
    removeEnabled := false }

/-- The row after it came to show a condition as it is, sensible or not. -/
def bind (catalog : Catalog) (policy : BssidPolicy) (c : Condition) (r : Row) : Row :=
  { r with
    condition := c
    operators := c.field.operators policy
    input := (ValueInput.of catalog c.field.valueKind).select c.value }

/-- A row that was used before is handed out as a new one. -/
@[simp] theorem reset_eq_blank (r : Row) : r.reset = blank := rfl

/-- Whether a row adds nothing to a set: no field is chosen, or its picker has no value. -/
def isUnset (r : Row) : Bool :=
  r.condition.isBlank || (r.input.isPicker && r.condition.value.isEmpty)

def withField (catalog : Catalog) (policy : BssidPolicy) (field : Field) (r : Row) : Row :=
  let input := ValueInput.of catalog field.valueKind
  let value := input.carryOver r.condition.value r.condition.field.valueKind.isText
  { condition := ⟨field, (field.defaultOperator? policy).getD .is, value⟩
    operators := field.operators policy
    input := input.select value
    removeEnabled := r.removeEnabled }

def withOperator (op : Operator) (r : Row) : Row :=
  { r with condition := { r.condition with op } }

def withValue (value : String) (r : Row) : Row :=
  { r with condition := { r.condition with value }, input := r.input.select value }

/-! ## Edits of a row

An edit that a row does not take gives none. -/

/-- Chooses a field. Choosing the field that the row has is no edit. -/
def chooseField? (catalog : Catalog) (policy : BssidPolicy) (field : Field) (r : Row) :
    Option Row :=
  if r.condition.field = field then none else some (r.withField catalog policy field)

/-- Chooses an operator, if it is offered and not the one that the row has. -/
def chooseOperator? (op : Operator) (r : Row) : Option Row :=
  if r.operators.contains op && r.condition.op != op then some (r.withOperator op) else none

/-- Enters a value. A row without a field takes none, and a picker only its choices. -/
def enterValue? (value : String) (r : Row) : Option Row :=
  if !r.condition.isBlank && r.input.accepts value then some (r.withValue value) else none

theorem chooseField?_eq_some_iff {catalog : Catalog} {policy : BssidPolicy} {field : Field}
    {r r' : Row} : r.chooseField? catalog policy field = some r' ↔
      r.condition.field ≠ field ∧ r.withField catalog policy field = r' := by
  rw [chooseField?]
  split
  · next h => simp [h]
  · next h => simp [h]

theorem chooseOperator?_eq_some_iff {op : Operator} {r r' : Row} :
    r.chooseOperator? op = some r' ↔
      (op ∈ r.operators ∧ r.condition.op ≠ op) ∧ r.withOperator op = r' := by
  simp [chooseOperator?]

theorem enterValue?_eq_some_iff {value : String} {r r' : Row} :
    r.enterValue? value = some r' ↔
      (r.condition.isBlank = false ∧ r.input.accepts value = true) ∧ r.withValue value = r' := by
  simp [enterValue?]

end Row

end NetActivation
