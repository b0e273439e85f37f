import NetActivation.Dialog.Steps
import NetActivation.Proofs.ObserverMirror
import NetActivation.Proofs.Reload

set_option autoImplicit false

/-! # Sets on display

An editor displays a set if it shows its mode and exactly its conditions, or a blank row for none.
Loading an entity puts its staged set on display, whatever was there before
(`Editor.Reachable.displays_refresh`), so a page that is cancelled displays what is staged on its
entity (`ConditionsPage.displays_cancel`). Sets without blank conditions can be told apart by their
display (`Editor.Displays.unique`). -/

namespace NetActivation

/-! ## Rows -/

theorem Row.map_condition_ofConditions (catalog : Catalog) (policy : BssidPolicy)
    {cs : List Condition} (h : cs ≠ []) :
    (ofConditions catalog policy cs).map (·.condition) = cs := by
  unfold ofConditions PlainEditor.withControls
  rw [if_neg (mt List.isEmpty_iff.1 h), List.map_map, List.map_map]
  exact List.map_id' cs

namespace Editor

/-! ## Editors -/

/-- What an editor shows of a set that it displays. -/
structure Displays (e : Editor) (set : ConditionSet) : Prop where
  mode_eq : e.mode = set.mode
  /-- the conditions in order, one in each row -/
  conditions_eq : set.conditions ≠ [] → e.conditions = set.conditions
  /-- a blank row if there are none -/
  rows_eq : set.conditions = [] → e.shown.map (·.2) = [Row.blank]

variable {e : Editor} {set set' : ConditionSet}

theorem conditions_eq_map (e : Editor) :
    e.conditions = (e.shown.map (·.2)).map (·.condition) := by
  rw [conditions, List.map_map]
  rfl

/-- **Loading an entity puts its staged set on display.** -/
theorem Reachable.displays_refresh (h : e.Reachable) (catalog : Catalog) (x : EntityView) :
    (e.refresh catalog x true).editor.Displays x.staged := by
  obtain ⟨s, hs, -⟩ := h.exists_simulates
  have hloaded := hs.refresh_force catalog x
  have hrows := hloaded.shown_eq
  refine ⟨hloaded.mode_eq, ?_, ?_⟩
  · intro hsome
    rw [conditions_eq_map, hrows]
    exact Row.map_condition_ofConditions _ _ hsome
  · intro hnone
    rw [hrows, hnone]
    rfl

/-- The conditions of a set on display are those that are not blank, if the set has no others. -/
theorem Displays.filter_conditions (h : e.Displays set)
    (hset : ∀ c ∈ set.conditions, c.isBlank = false) :
    e.conditions.filter (fun c => !c.isBlank) = set.conditions := by
  by_cases hnone : set.conditions = []
  · rw [conditions_eq_map, h.rows_eq hnone, hnone]
    rfl
  · rw [h.conditions_eq hnone, List.filter_eq_self]
    intro c hc
    rw [hset c hc, Bool.not_false]

/-- An editor displays one set without blank conditions at most. -/
theorem Displays.unique (h : e.Displays set) (h' : e.Displays set')
    (hset : ∀ c ∈ set.conditions, c.isBlank = false)
    (hset' : ∀ c ∈ set'.conditions, c.isBlank = false) : set = set' := by
  have hmode := h.mode_eq.symm.trans h'.mode_eq
  have hconditions := (h.filter_conditions hset).symm.trans (h'.filter_conditions hset')
  cases set
  cases set'
  cases hmode
  cases hconditions
  rfl

end Editor

/-! ## Pages -/

namespace ConditionsPage

variable {ε : Type} [Entity ε] {p : ConditionsPage ε}

theorem reachable_new (entity : ε) (catalog : Catalog) (config : EditorConfig) :
    (new entity catalog config).session.editor.Reachable :=
  ⟨config, [(catalog, .refresh (Entity.view entity) true)], rfl⟩

theorem reachable_step (h : p.session.editor.Reachable) (x : PageStep) :
    (p.step x).session.editor.Reachable := by
  cases x with
  | refresh force => exact h.perform p.session.catalog (.refresh (Entity.view p.entity) force)
  | apply => exact h
  | cancel => exact h.perform p.session.catalog (.refresh (Entity.view p.entity) true)
  | session x => exact Session.reachable_step h x

theorem reachable_run (h : p.session.editor.Reachable) (steps : List PageStep) :
    (p.run steps).session.editor.Reachable := by
  induction steps generalizing p with
  | nil => exact h
  | cons x steps ih => exact ih (reachable_step h x)

/-- A page that is refreshed by force displays what is staged on its entity. -/
theorem displays_refresh (h : p.session.editor.Reachable) :
    (Page.refresh p true).session.editor.Displays (Entity.view p.entity).staged :=
  h.displays_refresh p.session.catalog (Entity.view p.entity)

/-- So does a page that is cancelled. -/
theorem displays_cancel (h : p.session.editor.Reachable) :
    (Page.cancel p).session.editor.Displays (Entity.view p.entity).staged :=
  displays_refresh h

end ConditionsPage

end NetActivation
