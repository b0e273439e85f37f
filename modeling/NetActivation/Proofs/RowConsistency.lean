import NetActivation.Proofs.EditorSlots
import NetActivation.Proofs.RowOrigin

set_option autoImplicit false

/-! # The parts of a row agree

A row stores its condition, the operators it offers, its input and the place of the selected choice,
and each edit rewrites some of them. `Row.Consistent` says how they agree. A row that was loaded
shows a condition as it is, sensible or not, so part of it has to mention what was loaded. Every
origin of a row gives a consistent one (`consistent_of_origin`), hence so does every run. -/

namespace NetActivation

/-! ## Inputs -/

namespace ValueInput

/-- How a value is entered, as its input shows. -/
def kind : ValueInput → ValueKind
  | .disabled => .disabled
  | .freeText => .freeText
  | .completion _ => .completion
  | .picker kind _ _ => .reference kind

/-- A picker points at the first of its choices that is `value`, and at none exactly if the value is
    not among them. -/
def PointsAt (value : String) : ValueInput → Prop
  | .picker _ choices selected =>
    (∀ i, selected = some i ↔
      choices[i]? = some value ∧ ∀ j, j < i → choices[j]? ≠ some value) ∧
    (selected = none ↔ value ∉ choices)
  | .disabled | .freeText | .completion _ => True

@[simp] theorem kind_of (catalog : Catalog) (kind : ValueKind) : (of catalog kind).kind = kind := by
  cases kind <;> rfl

@[simp] theorem kind_select (value : String) (input : ValueInput) :
    (input.select value).kind = input.kind := by
  cases input <;> rfl

theorem pointsAt_select (value : String) (input : ValueInput) :
    (input.select value).PointsAt value := by
  cases input with
  | disabled => trivial
  | freeText => trivial
  | completion suggestions => trivial
  | picker kind choices selected =>
      refine ⟨fun i => ?_, List.idxOf?_eq_none_iff⟩
      rw [List.idxOf?_eq_some_iff]
      constructor
      · rintro ⟨hi, hget, hfirst⟩
        refine ⟨by rw [List.getElem?_eq_getElem hi, hget], fun j hj hsame => ?_⟩
        obtain ⟨hlt, hget'⟩ := List.getElem?_eq_some_iff.1 hsame
        exact hfirst j hj hget'
      · rintro ⟨hi, hfirst⟩
        obtain ⟨hlt, hget⟩ := List.getElem?_eq_some_iff.1 hi
        refine ⟨hlt, hget, fun j hj hsame => ?_⟩
        exact hfirst j hj (List.getElem?_eq_some_iff.2 ⟨by omega, hsame⟩)

/-- A picker that points at nothing does not take the value. -/
theorem accepts_of_select_eq {value : String} {input : ValueInput} {kind : EntityKind}
    {choices : List String} (h : input.select value = .picker kind choices none) :
    input.accepts value = false := by
  cases input with
  | picker kind' choices' selected =>
      simp only [select, picker.injEq] at h
      obtain ⟨-, -, hnone⟩ := h
      rw [accepts, List.contains_eq_mem, decide_eq_false_iff_not]
      exact List.idxOf?_eq_none_iff.1 hnone
  | disabled => exact absurd h (by simp [select])
  | freeText => exact absurd h (by simp [select])
  | completion suggestions => exact absurd h (by simp [select])

/-- A picker that takes the place of another input points at nothing only if it has no choices. -/
theorem carryOver_of_select_eq {old : String} {wasText : Bool} {input : ValueInput}
    {kind : EntityKind} {choices : List String}
    (h : input.select (input.carryOver old wasText) = .picker kind choices none) :
    choices = [] ∧ input.carryOver old wasText = "" := by
  cases input with
  | picker kind' choices' selected =>
      simp only [select, picker.injEq] at h
      obtain ⟨-, rfl, hnone⟩ := h
      rw [List.idxOf?_eq_none_iff] at hnone
      simp only [carryOver] at hnone ⊢
      split at hnone
      · next hold => exact absurd (List.contains_iff_mem.1 hold) hnone
      · next hold =>
          rw [if_neg hold]
          cases choices' with
          | nil => exact ⟨rfl, rfl⟩
          | cons choice choices' => exact absurd (List.mem_cons_self ..) hnone
  | disabled => exact absurd h (by simp [select])
  | freeText => exact absurd h (by simp [select])
  | completion suggestions => exact absurd h (by simp [select])

end ValueInput

/-- The operator that is selected with a field is one that the field offers. -/
theorem Field.eq_blank_or_defaultOperator_mem (policy : BssidPolicy) (f : Field) :
    f = .blank ∨ (f.defaultOperator? policy).getD .is ∈ f.operators policy := by
  cases f <;> cases policy <;> decide

/-! ## Rows -/

namespace Row

/-- The parts of a row agree, where `loaded` is what the last loading put into the row. -/
structure Consistent (policy : BssidPolicy) (loaded : Option Condition) (r : Row) : Prop where
  /-- the operators on offer are those of the field -/
  operators_eq : r.operators = r.condition.field.operators policy
  /-- the input is the one that the field asks for -/
  kind_eq : r.input.kind = r.condition.field.valueKind
  /-- a picker points at the value -/
  pointsAt : r.input.PointsAt r.condition.value
  /-- a picker points at nothing because it has no choices, and then the value is empty, or because
      field and value were loaded -/
  unselected : ∀ kind choices, r.input = .picker kind choices none →
    (choices = [] ∧ r.condition.value = "") ∨
      ∃ c, loaded = some c ∧ r.condition.field = c.field ∧ r.condition.value = c.value
  /-- the operator is on offer, unless no field is chosen, or field and operator were loaded -/
  op_mem : r.condition.op ∈ r.operators ∨ r.condition.isBlank = true ∨
    ∃ c, loaded = some c ∧ r.condition.field = c.field ∧ r.condition.op = c.op

variable {policy : BssidPolicy} {loaded : Option Condition} {r r' : Row}

theorem consistent_blank : Consistent policy loaded blank where
  operators_eq := rfl
  kind_eq := rfl
  pointsAt := trivial
  unselected kind choices h := by simp [blank] at h
  op_mem := Or.inr (Or.inl rfl)

theorem consistent_bind (catalog : Catalog) (c : Condition) :
    Consistent policy (some c) (blank.bind catalog policy c) where
  operators_eq := rfl
  kind_eq := by simp [bind]
  pointsAt := ValueInput.pointsAt_select _ _
  unselected _ _ _ := Or.inr ⟨c, rfl, rfl, rfl⟩
  op_mem := Or.inr (Or.inr ⟨c, rfl, rfl, rfl⟩)

theorem consistent_of_chooseField? {catalog : Catalog} {field : Field}
    (hr : r.chooseField? catalog policy field = some r') : Consistent policy loaded r' := by
  obtain ⟨-, rfl⟩ := chooseField?_eq_some_iff.1 hr
  refine ⟨rfl, by simp [withField], ValueInput.pointsAt_select _ _, ?_, ?_⟩
  · intro kind choices hnone
    exact Or.inl (ValueInput.carryOver_of_select_eq hnone)
  · rcases Field.eq_blank_or_defaultOperator_mem policy field with rfl | hmem
    · exact Or.inr (Or.inl rfl)
    · exact Or.inl hmem

namespace Consistent

theorem chooseOperator? {op : Operator} (h : Consistent policy loaded r)
    (hr : r.chooseOperator? op = some r') : Consistent policy loaded r' := by
  obtain ⟨⟨hoffered, -⟩, rfl⟩ := chooseOperator?_eq_some_iff.1 hr
  exact ⟨h.operators_eq, h.kind_eq, h.pointsAt, h.unselected, Or.inl hoffered⟩

theorem enterValue? {value : String} (h : Consistent policy loaded r)
    (hr : r.enterValue? value = some r') : Consistent policy loaded r' := by
  obtain ⟨⟨-, htaken⟩, rfl⟩ := enterValue?_eq_some_iff.1 hr
  refine ⟨h.operators_eq, ?_, ValueInput.pointsAt_select _ _, ?_, h.op_mem⟩
  · simp only [withValue, ValueInput.kind_select, h.kind_eq]
  · intro kind choices hnone
    rw [ValueInput.accepts_of_select_eq hnone] at htaken
    exact absurd htaken (by simp)

theorem controls (h : Consistent policy loaded r) (enabled : Bool) :
    Consistent policy loaded { r with removeEnabled := enabled } :=
  ⟨h.operators_eq, h.kind_eq, h.pointsAt, h.unselected, h.op_mem⟩

end Consistent

/-- A row whose origin is a consistent row, if it is a row, is consistent. -/
theorem consistent_of_origin {catalog : Catalog} {edit : Edit}
    {old : Option (Row × Option Condition)}
    (hold : ∀ k l, old = some (k, l) → Consistent policy l k)
    (h : RowOrigin catalog policy edit old r loaded) : Consistent policy loaded r := by
  induction h with
  | blank => exact consistent_blank
  | bound => exact consistent_bind catalog _
  | kept heq => exact hold _ _ heq
  | field _ hr => exact consistent_of_chooseField? hr
  | operator heq hr => exact (hold _ _ heq).chooseOperator? hr
  | value heq hr => exact (hold _ _ heq).enterValue? hr
  | controls enabled _ ih => exact ih.controls enabled

/-- A row is blank, or its field offers its operator. -/
def Settled (policy : BssidPolicy) (r : Row) : Prop :=
  r.condition.isBlank = true ∨ r.condition.isCompatible policy = true

/-- Only a loading makes a row that is not settled out of one that is. -/
theorem settled_of_origin {catalog : Catalog} {edit : Edit}
    {old : Option (Row × Option Condition)} (hedit : ∀ x force, edit ≠ .refresh x force)
    (hold : ∀ k l, old = some (k, l) → Consistent policy l k ∧ k.Settled policy)
    (h : RowOrigin catalog policy edit old r loaded) : r.Settled policy := by
  induction h with
  | blank => exact Or.inl rfl
  | bound hrefresh => exact absurd hrefresh (hedit _ _)
  | kept heq => exact (hold _ _ heq).2
  | @field _ _ _ field _ hr =>
      obtain ⟨-, rfl⟩ := chooseField?_eq_some_iff.1 hr
      rcases Field.eq_blank_or_defaultOperator_mem policy field with rfl | hmem
      · exact Or.inl rfl
      · exact Or.inr (List.contains_iff_mem.2 hmem)
  | operator heq hr =>
      obtain ⟨⟨hoffered, -⟩, rfl⟩ := chooseOperator?_eq_some_iff.1 hr
      rw [(hold _ _ heq).1.operators_eq] at hoffered
      exact Or.inr (List.contains_iff_mem.2 hoffered)
  | value heq hr =>
      obtain ⟨-, rfl⟩ := enterValue?_eq_some_iff.1 hr
      exact (hold _ _ heq).2
  | controls enabled _ ih => exact ih

end Row

/-! ## Editors -/

namespace Editor

/-- The rows that an editor shows are consistent. -/
def RowsConsistent (e : Editor) (loaded : RowId → Option Condition) : Prop :=
  ∀ id r, e.row? id = some r → r.Consistent e.config.bssidPolicy (loaded id)

theorem rowsConsistent_new (config : EditorConfig) :
    (new config).RowsConsistent fun _ => none := by
  intro id r hr
  have hid := List.mem_singleton.1 (mem_rows_of_row? hr)
  have hblank := (RowPool.alloc_spec RowPool.Partition.empty).2.1
  rw [row?_of_mem (mem_rows_of_row? hr), hid] at hr
  rw [show r = Row.blank from Option.some.inj (hr.symm.trans hblank)]
  exact Row.consistent_blank

theorem RowsConsistent.perform {e : Editor} {s : PlainEditor} {loaded : RowId → Option Condition}
    (h : e.RowsConsistent loaded) (hs : Simulates e s) (catalog : Catalog) (edit : Edit) :
    (e.perform catalog edit).editor.RowsConsistent
      ((e.perform catalog edit).loaded edit loaded) := by
  intro id r hr
  rw [perform_config]
  refine Row.consistent_of_origin ?_ (rowOrigin_perform hs loaded hr)
  intro k l hk
  obtain ⟨old, hold, heq⟩ := Option.map_eq_some_iff.1 hk
  obtain ⟨rfl, rfl⟩ := Prod.mk.inj heq
  exact h id old hold

theorem RowsConsistent.run {e : Editor} {s : PlainEditor} {loaded : RowId → Option Condition}
    (h : e.RowsConsistent loaded) (hs : Simulates e s) (steps : List (Catalog × Edit)) :
    (e.run steps).RowsConsistent (e.loaded loaded steps) := by
  induction steps generalizing e s loaded with
  | nil => exact h
  | cons step steps ih =>
      obtain ⟨catalog, edit⟩ := step
      exact ih (h.perform hs catalog edit) (hs.perform catalog edit).simulates

/-- The rows of an editor are consistent after every run from a new one. -/
theorem rowsConsistent_run (config : EditorConfig) (steps : List (Catalog × Edit)) :
    ((new config).run steps).RowsConsistent ((new config).loaded (fun _ => none) steps) :=
  (rowsConsistent_new config).run (simulates_new config) steps

/-- **The parts of every row that is shown agree.** This holds after every run, whatever was loaded
    and whatever the catalog said by then. And an operation that loads nothing leaves a row blank or
    with an operator that its field offers, if it was so before or was not shown. -/
theorem rows_stay_consistent (config : EditorConfig) (steps : List (Catalog × Edit)) :
    (∀ id ∈ ((new config).run steps).rows, ∃ r, ((new config).run steps).row? id = some r ∧
      r.Consistent config.bssidPolicy ((new config).loaded (fun _ => none) steps id)) ∧
    ∀ catalog edit, (∀ x force, edit ≠ Edit.refresh x force) →
      ∀ id, (∀ r, ((new config).run steps).row? id = some r → r.Settled config.bssidPolicy) →
        ∀ r, (((new config).run steps).perform catalog edit).editor.row? id = some r →
          r.Settled config.bssidPolicy := by
  obtain ⟨s, hs, -⟩ := exists_simulates config steps
  have hrows := rowsConsistent_run config steps
  have hconfig : ((new config).run steps).config = config := run_config _ steps
  rw [RowsConsistent, hconfig] at hrows
  refine ⟨?_, ?_⟩
  · intro id hid
    obtain ⟨r, hr⟩ := hs.partition.exists_row hid
    rw [← row?_of_mem hid] at hr
    exact ⟨r, hr, hrows id r hr⟩
  · intro catalog edit hedit id hsettled r hr
    have horigin := rowOrigin_perform hs ((new config).loaded (fun _ => none) steps) hr
    rw [hconfig] at horigin
    refine Row.settled_of_origin hedit ?_ horigin
    intro k l hk
    obtain ⟨old, hold, heq⟩ := Option.map_eq_some_iff.1 hk
    obtain ⟨rfl, rfl⟩ := Prod.mk.inj heq
    exact ⟨hrows id old hold, hsettled old hold⟩

/-- Three conditions are loaded, two of them with operators that their fields do not offer and one
    with a name that the catalog has twice. One of the operators is mended after the catalog has
    become empty, and the last row is made to name an interface that can no longer be picked. -/
def mendingSteps : List (Catalog × Edit) :=
  let x : EntityView := ⟨.enm, "vpn", .all,
    [⟨.ncu, .contains, "gone"⟩, ⟨.ncu, .is, "net1"⟩, ⟨.essid, .is, "café"⟩]⟩
  [({ interfaces := ["net0", "net1", "net1"] }, .refresh x false),
    ({}, .setOperator ⟨0⟩ .isNot), ({}, .setField ⟨2⟩ .ncu)]

/-- The first row still shows the name that was loaded, though no choice has it, and another field
    is then chosen for it. -/
theorem rows_stay_consistent_mending :
    ((new {}).run mendingSteps).row? ⟨0⟩ = some ⟨⟨.ncu, .isNot, "gone"⟩, [.is, .isNot],
      .picker .ncu ["net0", "net1", "net1"] none, true⟩ ∧
    (∃ r, ((new {}).run mendingSteps).row? ⟨0⟩ = some r ∧
      r.Consistent .likeEssid (some ⟨.ncu, .contains, "gone"⟩)) ∧
    (∀ r, (((new {}).run mendingSteps).perform {} (.setField ⟨0⟩ .bssid)).editor.row? ⟨0⟩ = some r →
      r.Settled .likeEssid) := by
  have hrow : ((new {}).run mendingSteps).row? ⟨0⟩ = some ⟨⟨.ncu, .isNot, "gone"⟩, [.is, .isNot],
      .picker .ncu ["net0", "net1", "net1"] none, true⟩ := by decide
  have hloaded : (new {}).loaded (fun _ => none) mendingSteps ⟨0⟩ =
      some ⟨.ncu, .contains, "gone"⟩ := by decide
  obtain ⟨hconsistent, hstep⟩ := rows_stay_consistent {} mendingSteps
  refine ⟨hrow, hloaded ▸ hconsistent ⟨0⟩ (by decide), ?_⟩
  refine hstep {} (.setField ⟨0⟩ .bssid) (fun _ _ => by simp) ⟨0⟩ fun r hr => ?_
  rw [← Option.some.inj (hrow.symm.trans hr)]
  exact Or.inr (by decide)

end Editor

end NetActivation
