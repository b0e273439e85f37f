import NetActivation.Proofs.ObservedChanges
import NetActivation.Proofs.RowConsistency

set_option autoImplicit false

/-! # Choosing a field

The field of a row decides how its value is entered, so that choosing another one turns the whole
row over. `Row.Chosen` says what the row is then: the first operator on offer is selected, and the
value stays if it makes sense for the new field, or else gives way to the first name that can be
picked. `Editor.ChangedOnly` says that all the rest of the editor stays as it is. Main statement:
`Editor.chosen_field_outcome`. -/

namespace NetActivation

/-! ## Rows -/

/-- Whether the value of a row makes sense for another field: it is text and text is asked for, or
    it is one of the names that can be picked. -/
def Row.Keeps (catalog : Catalog) (field : Field) (r : Row) : Prop :=
  (r.condition.field.valueKind.isText = true ∧ field.valueKind.isText = true) ∨
    ∃ kind, field.valueKind = .reference kind ∧ r.condition.value ∈ catalog.references kind

/-- An input of a kind as the catalog makes it by now. A picker has something selected unless there
    is nothing to pick. -/
def ValueInput.IsFresh (catalog : Catalog) (input : ValueInput) : ValueKind → Prop
  | .disabled => input = .disabled
  | .freeText => input = .freeText
  | .completion => input = .completion catalog.knownNetworks
  | .reference kind => ∃ selected, input = .picker kind (catalog.references kind) selected ∧
      (selected = none ↔ catalog.references kind = [])

/-- What a row is after a field was chosen that it did not have. -/
structure Row.Chosen (catalog : Catalog) (policy : BssidPolicy) (field : Field) (old new : Row) :
    Prop where
  field_eq : new.condition.field = field
  operators_eq : new.operators = field.operators policy
  /-- the first operator on offer is selected -/
  op_eq : field ≠ .blank → new.operators.head? = some new.condition.op
  op_eq_of_blank : field = .blank → new.condition.op = .is
  /-- the value stays if it makes sense -/
  value_kept : old.Keeps catalog field → new.condition.value = old.condition.value
  /-- else the first name is picked -/
  value_picked : ¬old.Keeps catalog field → ∀ kind, field.valueKind = .reference kind →
    ∀ name ∈ (catalog.references kind).head?, new.condition.value = name
  /-- and if there is none to pick, there is no value -/
  value_cleared : ¬old.Keeps catalog field →
    (∀ kind, field.valueKind = .reference kind → catalog.references kind = []) →
    new.condition.value = ""
  input_fresh : new.input.IsFresh catalog field.valueKind
  /-- a picker points at the first choice that is the value -/
  pointsAt : new.input.PointsAt new.condition.value
  removeEnabled_eq : new.removeEnabled = old.removeEnabled

/-- The first operator that a field offers is the one that is selected with it. -/
theorem Field.head?_operators (policy : BssidPolicy) {f : Field} (hf : f ≠ .blank) :
    (f.operators policy).head? = some ((f.defaultOperator? policy).getD .is) := by
  cases f with
  | blank => exact absurd rfl hf
  | ncu | loc | enm | ipAddress | advertisedDomain | systemDomain | essid => rfl
  | bssid => cases policy <;> rfl

namespace ValueInput

/-- A fresh input that points at what it carried over has something selected, if it can. -/
theorem isFresh_select (catalog : Catalog) (kind : ValueKind) (old : String) (wasText : Bool) :
    ((of catalog kind).select ((of catalog kind).carryOver old wasText)).IsFresh catalog kind := by
  cases kind with
  | disabled => rfl
  | freeText => rfl
  | completion => rfl
  | reference kind =>
      refine ⟨_, rfl, ?_, ?_⟩
      · intro hnone
        have hselect : (of catalog (.reference kind)).select
            ((of catalog (.reference kind)).carryOver old wasText) =
              .picker kind (catalog.references kind) none :=
          congrArg (ValueInput.picker kind (catalog.references kind)) hnone
        exact (carryOver_of_select_eq hselect).1
      · intro hnil
        rw [hnil]
        rfl

end ValueInput

namespace Row

variable {catalog : Catalog} {policy : BssidPolicy} {field : Field} {r : Row}

/-- The value of a row for which another field is chosen. -/
theorem value_withField (catalog : Catalog) (policy : BssidPolicy) (field : Field) (r : Row) :
    (r.withField catalog policy field).condition.value =
      (ValueInput.of catalog field.valueKind).carryOver r.condition.value
        r.condition.field.valueKind.isText := rfl

theorem value_withField_of_keeps (h : r.Keeps catalog field) :
    (r.withField catalog policy field).condition.value = r.condition.value := by
  rw [value_withField]
  rcases h with ⟨hold, hnew⟩ | ⟨kind, hkind, hmem⟩
  · rw [hold]
    cases hkind : field.valueKind with
    | freeText => rfl
    | completion => rfl
    | reference kind => rw [hkind] at hnew; cases hnew
    | disabled => rw [hkind] at hnew; cases hnew
  · rw [hkind]
    exact if_pos (List.contains_iff_mem.2 hmem)

/-- A picker that does not have the value takes its first choice instead. -/
theorem value_withField_of_reference {kind : EntityKind} (hkind : field.valueKind = .reference kind)
    (h : ¬r.Keeps catalog field) :
    (r.withField catalog policy field).condition.value =
      (catalog.references kind).headD "" := by
  have hmem : r.condition.value ∉ catalog.references kind := fun hmem =>
    h (Or.inr ⟨kind, hkind, hmem⟩)
  rw [value_withField, hkind]
  exact if_neg (mt List.contains_iff_mem.1 hmem)

theorem value_withField_of_not_keeps (h : ¬r.Keeps catalog field)
    (hnone : ∀ kind, field.valueKind = .reference kind → catalog.references kind = []) :
    (r.withField catalog policy field).condition.value = "" := by
  cases hkind : field.valueKind with
  | reference kind =>
      rw [value_withField_of_reference hkind h, hnone kind hkind]
      rfl
  | disabled =>
      rw [value_withField, hkind]
      rfl
  | freeText | completion =>
      have hold : ¬r.condition.field.valueKind.isText = true := fun hold =>
        h (Or.inl ⟨hold, by rw [hkind]; rfl⟩)
      rw [value_withField, hkind]
      exact if_neg hold

theorem chosen_withField (catalog : Catalog) (policy : BssidPolicy) (field : Field) (r : Row) :
    r.Chosen catalog policy field (r.withField catalog policy field) where
  field_eq := rfl
  operators_eq := rfl
  op_eq := Field.head?_operators policy
  op_eq_of_blank hblank := by rw [hblank]; rfl
  value_kept := value_withField_of_keeps
  value_picked h kind hkind name hname := by
    rw [value_withField_of_reference hkind h, List.headD_eq_head?_getD, Option.mem_def.1 hname,
      Option.getD_some]
  value_cleared := value_withField_of_not_keeps
  input_fresh := ValueInput.isFresh_select catalog field.valueKind _ _
  pointsAt := ValueInput.pointsAt_select _ _
  removeEnabled_eq := rfl

end Row

/-! ## Editors -/

namespace Editor

/-- Two editors differ in one row at most. The handles are the same, on display, kept and vacant,
    and so are the rows under all of them but one. -/
structure ChangedOnly (e : Editor) (id : RowId) (e' : Editor) : Prop where
  config_eq : e'.config = e.config
  mode_eq : e'.mode = e.mode
  bound_eq : e'.bound = e.bound
  rows_eq : e'.rows = e.rows
  cache_eq : e'.pool.cache = e.pool.cache
  vacant_eq : e'.pool.vacant = e.pool.vacant
  slots_length_eq : e'.pool.slots.length = e.pool.slots.length
  /-- a row that is not on display does not change either -/
  get?_eq : ∀ k, k ≠ id → e'.pool.get? k = e.pool.get? k
  row?_eq : ∀ k, k ≠ id → e'.row? k = e.row? k

theorem changedOnly_update {e : Editor} (h : e.pool.Partition e.rows) {id : RowId}
    (hid : id ∈ e.rows) (r : Row) : e.ChangedOnly id (e.update id r).editor where
  config_eq := rfl
  mode_eq := rfl
  bound_eq := rfl
  rows_eq := rfl
  cache_eq := rfl
  vacant_eq := rfl
  slots_length_eq := List.length_set
  get?_eq _ hk := RowPool.get?_put_of_ne hk
  row?_eq k hk := by rw [row?_update h hid, if_neg hk]

theorem setField_of_ne {e : Editor} {id : RowId} {r : Row} (hr : e.row? id = some r)
    (catalog : Catalog) {field : Field} (hfield : r.condition.field ≠ field) :
    e.setField catalog id field =
      e.update id (r.withField catalog e.config.bssidPolicy field) := by
  rw [setField, edit, hr, Option.bind_some, Row.chooseField?, if_neg hfield]

theorem setField_of_eq {e : Editor} {id : RowId} {r : Row} (hr : e.row? id = some r)
    (catalog : Catalog) : e.setField catalog id r.condition.field = e.unchanged := by
  rw [setField, edit, hr, Option.bind_some, Row.chooseField?, if_pos rfl]

/-- **What choosing a field does.** Of every row on display it makes what `Row.Chosen` says, going
    by what the catalog has at that moment, and one event tells of it; nothing else of the editor
    changes. But choosing the field that the row has does nothing at all, even if the row has an
    operator that the field does not offer. -/
theorem chosen_field_outcome {e : Editor} (h : e.Reachable) (catalog : Catalog) {id : RowId}
    (hid : id ∈ e.rows) :
    ∃ r, e.row? id = some r ∧
      (∀ field, r.condition.field ≠ field →
        (e.setField catalog id field).events = [.conditionChanged id] ∧
          e.ChangedOnly id (e.setField catalog id field).editor ∧
          ∃ r', (e.setField catalog id field).editor.row? id = some r' ∧
            r.Chosen catalog e.config.bssidPolicy field r') ∧
      e.setField catalog id r.condition.field = ⟨e, []⟩ := by
  obtain ⟨s, hs, -⟩ := h.exists_simulates
  have hpart := hs.partition
  obtain ⟨r, hr⟩ := hpart.exists_row hid
  rw [← row?_of_mem hid] at hr
  refine ⟨r, hr, ?_, setField_of_eq hr catalog⟩
  intro field hfield
  rw [setField_of_ne hr catalog hfield]
  refine ⟨rfl, changedOnly_update hpart hid _, _, ?_, Row.chosen_withField catalog _ field r⟩
  rw [row?_update hpart hid, if_pos rfl]

/-- An editor that shows two conditions with operators that their fields do not offer. The text of
    the first happens to be the name of an interface. -/
def mismatchedEditor : Editor :=
  (new {}).run [({ interfaces := ["net0"] }, .refresh ⟨.location, "work", .all,
    [⟨.essid, .is, "net1"⟩, ⟨.ncu, .contains, "gone"⟩]⟩ true)]

/-- A catalog that by now has that name, and twice. -/
def laterCatalog : Catalog := { interfaces := ["net0", "net1", "net1"] }

theorem mismatchedEditor_row?_zero : mismatchedEditor.row? ⟨0⟩ =
    some ⟨⟨.essid, .is, "net1"⟩, [.contains, .lacks], .completion [], true⟩ := by
  decide

theorem mismatchedEditor_row?_one : mismatchedEditor.row? ⟨1⟩ =
    some ⟨⟨.ncu, .contains, "gone"⟩, [.is, .isNot], .picker .ncu ["net0"] none, true⟩ := by
  decide

/-- The text is kept as a name, and the first of the two is selected. Choosing the field that the
    second row has does not mend its operator. -/
theorem chosen_field_outcome_mismatched :
    mismatchedEditor.Reachable ∧ ⟨0⟩ ∈ mismatchedEditor.rows ∧ ⟨1⟩ ∈ mismatchedEditor.rows ∧
      (mismatchedEditor.setField laterCatalog ⟨0⟩ .ncu).events = [.conditionChanged ⟨0⟩] ∧
      (mismatchedEditor.setField laterCatalog ⟨0⟩ .ncu).editor.row? ⟨1⟩ =
        mismatchedEditor.row? ⟨1⟩ ∧
      (∃ r, (mismatchedEditor.setField laterCatalog ⟨0⟩ .ncu).editor.row? ⟨0⟩ = some r ∧
        r.condition.value = "net1" ∧ r.operators.head? = some r.condition.op ∧
        r.input = .picker .ncu ["net0", "net1", "net1"] (some 1)) ∧
      mismatchedEditor.setField laterCatalog ⟨1⟩ .ncu = ⟨mismatchedEditor, []⟩ := by
  have hreachable : mismatchedEditor.Reachable := ⟨{}, _, rfl⟩
  have hzero : ⟨0⟩ ∈ mismatchedEditor.rows := mem_rows_of_row? mismatchedEditor_row?_zero
  have hone : ⟨1⟩ ∈ mismatchedEditor.rows := mem_rows_of_row? mismatchedEditor_row?_one
  obtain ⟨first, hfirst, hchosen, -⟩ := chosen_field_outcome hreachable laterCatalog hzero
  obtain ⟨second, hsecond, -, hsame⟩ := chosen_field_outcome hreachable laterCatalog hone
  obtain rfl := Option.some.inj (mismatchedEditor_row?_zero.symm.trans hfirst)
  obtain rfl := Option.some.inj (mismatchedEditor_row?_one.symm.trans hsecond)
  obtain ⟨hevents, hothers, r, hr, hrow⟩ := hchosen .ncu (by decide)
  have hvalue : r.condition.value = "net1" :=
    hrow.value_kept (Or.inr ⟨.ncu, rfl, by decide⟩)
  obtain ⟨selected, hinput, -⟩ := hrow.input_fresh
  have hpoints := hrow.pointsAt
  rw [hinput, hvalue] at hpoints
  obtain rfl : selected = some 1 := (hpoints.1 1).2 (by decide)
  exact ⟨hreachable, hzero, hone, hevents, hothers.row?_eq ⟨1⟩ (by decide),
    ⟨r, hr, hvalue, hrow.op_eq (by decide), hinput⟩, hsame⟩

end Editor

end NetActivation
