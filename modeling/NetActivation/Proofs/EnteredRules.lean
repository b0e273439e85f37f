import NetActivation.Proofs.Application
import NetActivation.Proofs.DefiniteConditions
import NetActivation.Proofs.RowConsistency

set_option autoImplicit false

/-! # Rules that were entered by hand

In an editor that never loaded anything, a row is blank or its operator is one that its field
offers, so the conditions of its set follow the table of offers. Evaluation decides all of them but
the ones that `Condition.definite_iff_of_isCompatible` names. Main statement:
`entered_rules_decided`. -/

namespace NetActivation.Editor

/-! ## Rows -/

/-- Every row that is shown is blank, or its field offers its operator. -/
def RowsSettled (e : Editor) : Prop :=
  ∀ id r, e.row? id = some r → r.Settled e.config.bssidPolicy

theorem rowsSettled_new (config : EditorConfig) : (new config).RowsSettled := by
  intro id r hr
  have hblank := (RowPool.alloc_spec RowPool.Partition.empty).2.1
  have hid := mem_rows_of_row? hr
  rw [row?_of_mem hid, List.mem_singleton.1 hid] at hr
  obtain rfl : r = Row.blank := Option.some.inj (hr.symm.trans hblank)
  exact Or.inl rfl

variable {e : Editor} {s : PlainEditor} {loaded : RowId → Option Condition}

theorem RowsSettled.perform (h : e.RowsSettled) (hrows : e.RowsConsistent loaded)
    (hs : Simulates e s) (catalog : Catalog) {edit : Edit}
    (hedit : ∀ x force, edit ≠ .refresh x force) :
    (e.perform catalog edit).editor.RowsSettled := by
  intro id r hr
  rw [perform_config]
  refine Row.settled_of_origin hedit ?_ (rowOrigin_perform hs loaded hr)
  intro k l hk
  obtain ⟨old, hold, heq⟩ := Option.map_eq_some_iff.1 hk
  obtain ⟨rfl, rfl⟩ := Prod.mk.inj heq
  exact ⟨hrows id old hold, h id old hold⟩

theorem RowsSettled.run (h : e.RowsSettled) (hrows : e.RowsConsistent loaded) (hs : Simulates e s)
    {steps : List (Catalog × Edit)}
    (hsteps : ∀ step ∈ steps, ∀ x force, step.2 ≠ .refresh x force) :
    (e.run steps).RowsSettled := by
  induction steps generalizing e s loaded with
  | nil => exact h
  | cons step steps ih =>
      obtain ⟨catalog, edit⟩ := step
      have hedit := hsteps (catalog, edit) (List.mem_cons_self ..)
      exact ih (h.perform hrows hs catalog hedit) (hrows.perform hs catalog edit)
        (hs.perform catalog edit).simulates fun later hlater =>
          hsteps later (List.mem_cons_of_mem _ hlater)

/-! ## Sets -/

/-- A condition of an editor's set is that of a row on display, and has a field. -/
theorem exists_row_of_mem_conditionSet (hs : Simulates e s) {set : ConditionSet}
    (hset : e.conditionSet = .ok set) {c : Condition} (hc : c ∈ set.conditions) :
    c.isBlank = false ∧ ∃ id r, e.row? id = some r ∧ r.condition = c := by
  rw [hs.conditionSet_eq] at hset
  split at hset
  · exact absurd hset (by simp)
  · obtain rfl := Except.ok.inj hset
    simp only [ConditionSet.ofRows] at hc
    split at hc
    · exact absurd hc List.not_mem_nil
    · refine ⟨Row.isBlank_of_mem_entered hc, ?_⟩
      obtain ⟨r, hr, rfl⟩ := List.mem_map.1 hc
      have hshown : some r ∈ e.rows.map e.row? := by
        rw [hs.map_row?_eq]
        exact List.mem_map_of_mem (List.mem_of_mem_filter hr)
      obtain ⟨id, -, hid⟩ := List.mem_map.1 hshown
      exact ⟨id, r, hid, rfl⟩

/-- The conditions of an editor's set follow the table of offers if the rows do. -/
theorem RowsSettled.isCompatible (h : e.RowsSettled) (hs : Simulates e s) {set : ConditionSet}
    (hset : e.conditionSet = .ok set) {c : Condition} (hc : c ∈ set.conditions) :
    c.isCompatible e.config.bssidPolicy = true := by
  obtain ⟨hfield, id, r, hr, rfl⟩ := exists_row_of_mem_conditionSet hs hset hc
  rcases h id r hr with hblank | hcompatible
  · rw [hfield] at hblank
    exact absurd hblank (by simp)
  · exact hcompatible

/-- **Rules that were entered by hand can be decided, with two exceptions.** In the set of an editor
    that never loaded anything, a condition cannot be decided exactly if it compares addresses with
    what is neither an address nor a network, or if it asks whether a hardware address is in a
    range, which only the unrestricted policy offers. -/
theorem entered_rules_decided (config : EditorConfig) (steps : List (Catalog × Edit))
    (hsteps : ∀ step ∈ steps, ∀ x force, step.2 ≠ .refresh x force) (set : ConditionSet)
    (hset : ((new config).run steps).conditionSet = .ok set) (s : Snapshot) :
    ∀ c ∈ set.conditions, c.eval s = none ↔
      (c.field = .ipAddress ∧ Network.readSlash? (Text.trim c.value.toList) = none ∧
        Address.read? .alone (Text.trim c.value.toList) = none) ∨
      (config.bssidPolicy = .unrestricted ∧ c.field = .bssid ∧
        (c.op = .inRange ∨ c.op = .notInRange)) := by
  intro c hc
  obtain ⟨plain, hs, -⟩ := exists_simulates config steps
  have hsettled := (rowsSettled_new config).run (rowsConsistent_new config)
    (simulates_new config) hsteps
  have hcompatible := hsettled.isCompatible hs hset hc
  rw [run_config] at hcompatible
  have hdefinite := Condition.definite_iff_of_isCompatible hcompatible
  rw [← Condition.isSome_eval_iff (s := s), Network.read?_eq_none_iff, ← not_or] at hdefinite
  rw [← Option.not_isSome_iff_eq_none, hdefinite, not_not]
  rfl

/-- Three rows are filled in by hand. The first two compare addresses, one with a network between
    spaces and one with a name; the third asks whether a hardware address is in a range. -/
def enteredSteps : List (Catalog × Edit) :=
  [.setMode .any, .setField ⟨0⟩ .ipAddress, .setValue ⟨0⟩ " 10.0.0.0/8 ", .addAfter ⟨0⟩,
    .setField ⟨1⟩ .ipAddress, .setValue ⟨1⟩ "office", .addAfter ⟨1⟩, .setField ⟨2⟩ .bssid,
    .setOperator ⟨2⟩ .inRange, .setValue ⟨2⟩ "00:1B"].map (({} : Catalog), ·)

theorem entered_rules_decided_three :
    (∀ step ∈ enteredSteps, ∀ x force, step.2 ≠ .refresh x force) ∧
      ((new { bssidPolicy := .unrestricted }).run enteredSteps).conditionSet =
        .ok ⟨.any, [⟨.ipAddress, .inRange, " 10.0.0.0/8 "⟩, ⟨.ipAddress, .inRange, "office"⟩,
          ⟨.bssid, .inRange, "00:1B"⟩]⟩ ∧
      (⟨.ipAddress, .inRange, " 10.0.0.0/8 "⟩ : Condition).eval Snapshot.empty ≠ none ∧
      (⟨.ipAddress, .inRange, "office"⟩ : Condition).eval Snapshot.empty = none ∧
      (⟨.bssid, .inRange, "00:1B"⟩ : Condition).eval Snapshot.empty = none := by
  have hsteps : ∀ step ∈ enteredSteps, ∀ x force, step.2 ≠ .refresh x force := by
    simp [enteredSteps]
  have hset : ((new { bssidPolicy := .unrestricted }).run enteredSteps).conditionSet =
      .ok ⟨.any, [⟨.ipAddress, .inRange, " 10.0.0.0/8 "⟩, ⟨.ipAddress, .inRange, "office"⟩,
        ⟨.bssid, .inRange, "00:1B"⟩]⟩ := by rfl
  have hdecided := entered_rules_decided _ _ hsteps _ hset Snapshot.empty
  refine ⟨hsteps, hset, ?_, ?_, ?_⟩
  · rw [Ne, hdecided _ (by simp)]
    decide
  · rw [hdecided _ (by simp)]
    decide
  · rw [hdecided _ (by simp)]
    decide

/-- A range is chosen for a hardware address, as the unrestricted policy allows. -/
def hardwareRangeSteps : List (Catalog × Edit) :=
  [.setMode .all, .setField ⟨0⟩ .bssid, .setOperator ⟨0⟩ .inRange].map (({} : Catalog), ·)

/-- Values that name no addresses are not the only reason why a rule that was entered by hand
    cannot be decided. -/
theorem hardware_range_undecided :
    (∀ step ∈ hardwareRangeSteps, ∀ x force, step.2 ≠ .refresh x force) ∧
      ((new { bssidPolicy := .unrestricted }).run hardwareRangeSteps).conditionSet =
        .ok ⟨.all, [⟨.bssid, .inRange, ""⟩]⟩ ∧
      ¬∀ c ∈ [(⟨.bssid, .inRange, ""⟩ : Condition)], c.eval Snapshot.empty = none →
        c.field = .ipAddress ∧ Network.readSlash? (Text.trim c.value.toList) = none ∧
          Address.read? .alone (Text.trim c.value.toList) = none := by
  refine ⟨by simp [hardwareRangeSteps], rfl, fun hdecided => ?_⟩
  have hfield := (hdecided _ (List.mem_singleton_self _) rfl).1
  exact absurd hfield (by decide)

end NetActivation.Editor
