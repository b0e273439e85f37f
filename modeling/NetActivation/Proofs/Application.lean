import NetActivation.Dialog.ConditionsPage
import NetActivation.Entity.Memory
import NetActivation.Proofs.ConditionSetText
import NetActivation.Proofs.EditorSlots
import NetActivation.Proofs.RowOrigin

set_option autoImplicit false

/-! # Applying what an editor shows

The rows on display and the mode describe a condition set. Rows that are unset add nothing to it, so
it has no blank condition, and the only way in which it can fail to be valid is that a conditional
mode is left without a condition. Then the entity is not touched; else the set is staged once and
committed. Main statement: `apply_outcome`. -/

namespace NetActivation

/-! ## The set that rows describe -/

/-- The conditions that rows add to a set: those of the rows that are not unset, in order. -/
def Row.entered (rows : List Row) : List Condition :=
  (rows.filter fun r => !r.isUnset).map (·.condition)

/-- The set that rows describe under a mode. The manual mode has no conditions. -/
def ConditionSet.ofRows (mode : Mode) (rows : List Row) : ConditionSet :=
  ⟨mode, if mode = .manual then [] else Row.entered rows⟩

/-- Whether rows make no valid set: the mode is conditional, and no row adds a condition. -/
def LacksRules (mode : Mode) (rows : List Row) : Prop :=
  mode.isConditional = true ∧ ∀ r ∈ rows, r.isUnset = true

instance (mode : Mode) (rows : List Row) : Decidable (LacksRules mode rows) :=
  inferInstanceAs (Decidable (_ ∧ _))

namespace Row

theorem isBlank_of_mem_entered {rows : List Row} {c : Condition} (hc : c ∈ entered rows) :
    c.isBlank = false := by
  obtain ⟨r, hr, rfl⟩ := List.mem_map.1 hc
  have hset := (List.mem_filter.1 hr).2
  rw [Bool.not_eq_true', isUnset, Bool.or_eq_false_iff] at hset
  exact hset.1

theorem entered_eq_nil_iff {rows : List Row} :
    entered rows = [] ↔ ∀ r ∈ rows, r.isUnset = true := by
  simp [entered]

end Row

namespace ConditionSet

/-- The set that rows describe is valid unless a conditional mode is left without a condition. -/
theorem valid_ofRows {mode : Mode} {rows : List Row}
    (h : ¬LacksRules mode rows) :
    (ofRows mode rows).Valid := by
  refine ⟨?_, ?_⟩
  · intro c hc
    simp only [ofRows] at hc
    split at hc
    · exact absurd hc List.not_mem_nil
    · exact Row.isBlank_of_mem_entered hc
  · intro hconditional hnil
    simp only [ofRows] at hconditional hnil
    split at hnil
    · next hmanual => exact Mode.ne_manual_of_isConditional hconditional hmanual
    · exact h ⟨hconditional, Row.entered_eq_nil_iff.1 hnil⟩

/-- A conditional mode without conditions is all that can be wrong with a set of rows. -/
theorem build_ofRows (mode : Mode) (rows : List Row) :
    build mode (ofRows mode rows).conditions =
      if LacksRules mode rows then .error .noRules else .ok (ofRows mode rows) := by
  split
  · next h =>
      rw [ofRows, if_neg (Mode.ne_manual_of_isConditional h.1), Row.entered_eq_nil_iff.2 h.2]
      simp [build, h.1]
  · next h => exact build_eq_ok_iff.2 ⟨rfl, valid_ofRows h⟩

end ConditionSet

/-- The rows on display, and nothing but them, make the set of an editor. -/
theorem Editor.conditionSet_eq (e : Editor) :
    e.conditionSet =
      if LacksRules e.mode (e.shown.map (·.2)) then .error .noRules
      else .ok (.ofRows e.mode (e.shown.map (·.2))) := by
  have hentered : Row.entered (e.shown.map (·.2)) =
      (e.shown.filter fun shown => !shown.2.isUnset).map (·.2.condition) := by
    rw [Row.entered, List.filter_map, List.map_map]
    rfl
  have hset : e.conditionSet =
      ConditionSet.build e.mode (ConditionSet.ofRows e.mode (e.shown.map (·.2))).conditions := by
    rw [ConditionSet.ofRows, hentered]
    rfl
  rw [hset, ConditionSet.build_ofRows]

theorem Simulates.conditionSet_eq {e : Editor} {s : PlainEditor} (h : Simulates e s) :
    e.conditionSet =
      if LacksRules s.mode s.rows then .error .noRules else .ok (.ofRows s.mode s.rows) := by
  rw [e.conditionSet_eq, h.shown_eq, h.mode_eq]

/-! ## Entities in memory -/

namespace MemoryEntity

/-- An entity after a set was staged and took effect. -/
def accepted (x : MemoryEntity) (set : ConditionSet) : MemoryEntity :=
  { x with
    staged := set
    committed := set
    setConditionsCalls := x.setConditionsCalls + 1
    commits := x.commits + 1 }

/-- An entity after a set was staged and discarded by a rejection, which is then used up. -/
def refused (x : MemoryEntity) : MemoryEntity :=
  { x with
    staged := x.committed
    rejection := none
    setConditionsCalls := x.setConditionsCalls + 1 }

theorem commit_of_rejection {x : MemoryEntity} {error : CommitError}
    (h : x.rejection = some error) (set : ConditionSet) :
    ((x.setConditions set.conditions).setMode set.mode).commit = (.error error, x.refused) := by
  simp only [commit, setMode, setConditions, h, refused]

theorem commit_of_no_rejection {x : MemoryEntity} (h : x.rejection = none) (set : ConditionSet) :
    ((x.setConditions set.conditions).setMode set.mode).commit = (.ok (), x.accepted set) := by
  simp only [commit, setMode, setConditions, h, accepted]

end MemoryEntity

/-! ## Applying -/

/-- What comes of applying rows under a mode to an entity: a result, and the entity after it. -/
structure ApplyOutcome (mode : Mode) (rows : List Row) (x : MemoryEntity)
    (result : Except ApplyError Unit) (after : MemoryEntity) : Prop where
  /-- validation fails exactly if the rows lack rules -/
  invalid_iff : (∃ error, result = .error (.validation error)) ↔ LacksRules mode rows
  /-- it fails for no other reason, and then the entity is not touched -/
  untouched : ∀ error, result = .error (.validation error) → error = .noRules ∧ after = x
  /-- else the set that the rows describe is valid -/
  valid : ¬LacksRules mode rows →
    ConditionSet.build mode (ConditionSet.ofRows mode rows).conditions =
      .ok (ConditionSet.ofRows mode rows)
  /-- its conditions and its mode are staged once, and then committed -/
  committed : ¬LacksRules mode rows →
    ∃ outcome, result = outcome.mapError ApplyError.commit ∧
      ((x.setConditions (ConditionSet.ofRows mode rows).conditions).setMode mode).commit =
        (outcome, after)
  /-- a rejection that waits is the result, and is used up -/
  rejected : ¬LacksRules mode rows → ∀ error, x.rejection = some error →
    result = .error (.commit error) ∧ after = x.refused
  /-- without one, the set takes effect -/
  accepted : ¬LacksRules mode rows → x.rejection = none →
    result = .ok () ∧ after = x.accepted (ConditionSet.ofRows mode rows)

namespace Editor

variable {e : Editor} {ε : Type} [Entity ε]

theorem apply_of_invalid {error : ValidationError} (h : e.conditionSet = .error error) (x : ε) :
    e.apply x = (.error (.validation error), x) := by
  rw [apply, h]

theorem apply_of_commit {set : ConditionSet} (h : e.conditionSet = .ok set) {x after : ε}
    {outcome : Except CommitError Unit}
    (hcommit : Entity.commit (Entity.setMode (Entity.setConditions x set.conditions) set.mode) =
      (outcome, after)) :
    e.apply x = (outcome.mapError .commit, after) := by
  simp only [apply, h, hcommit]

end Editor

theorem mapError_commit_ne_validation (outcome : Except CommitError Unit)
    (error : ValidationError) :
    outcome.mapError ApplyError.commit ≠ .error (.validation error) := by
  cases outcome <;> exact nofun

namespace Simulates

variable {e : Editor} {s : PlainEditor}

theorem apply_of_lacksRules (h : Simulates e s) (hlacks : LacksRules s.mode s.rows)
    (x : MemoryEntity) : e.apply x = (.error (.validation .noRules), x) := by
  refine Editor.apply_of_invalid ?_ x
  rw [h.conditionSet_eq, if_pos hlacks]

theorem apply_of_not_lacksRules (h : Simulates e s) (hrules : ¬LacksRules s.mode s.rows)
    {x after : MemoryEntity} {outcome : Except CommitError Unit}
    (hcommit : ((x.setConditions (ConditionSet.ofRows s.mode s.rows).conditions).setMode
      s.mode).commit = (outcome, after)) :
    e.apply x = (outcome.mapError .commit, after) := by
  refine Editor.apply_of_commit ?_ hcommit
  rw [h.conditionSet_eq, if_neg hrules]

theorem applyOutcome (h : Simulates e s) (x : MemoryEntity) :
    ApplyOutcome s.mode s.rows x (e.apply x).1 (e.apply x).2 := by
  by_cases hlacks : LacksRules s.mode s.rows
  · rw [h.apply_of_lacksRules hlacks]
    refine ⟨⟨fun _ => hlacks, fun _ => ⟨_, rfl⟩⟩, ?_, ?_, ?_, ?_, ?_⟩
    · intro error herror
      cases herror
      exact ⟨rfl, rfl⟩
    all_goals exact fun hrules => absurd hlacks hrules
  · have hvalid := ConditionSet.build_ofRows s.mode s.rows
    rw [if_neg hlacks] at hvalid
    generalize hcommit : ((x.setConditions (ConditionSet.ofRows s.mode s.rows).conditions).setMode
      s.mode).commit = committed
    obtain ⟨outcome, after⟩ := committed
    have hnever := mapError_commit_ne_validation outcome
    rw [h.apply_of_not_lacksRules hlacks hcommit]
    refine ⟨?_, ?_, fun _ => hvalid, fun _ => ⟨outcome, rfl, hcommit⟩, ?_, ?_⟩
    · constructor
      · rintro ⟨error, herror⟩
        exact absurd herror (hnever error)
      · exact fun hlacks' => absurd hlacks' hlacks
    · intro error herror
      exact absurd herror (hnever error)
    · intro _ error herror
      have hrefused := MemoryEntity.commit_of_rejection herror (.ofRows s.mode s.rows)
      obtain ⟨rfl, rfl⟩ := Prod.mk.inj (hcommit.symm.trans hrefused)
      exact ⟨rfl, rfl⟩
    · intro _ hnone
      have haccepted := MemoryEntity.commit_of_no_rejection hnone (.ofRows s.mode s.rows)
      obtain ⟨rfl, rfl⟩ := Prod.mk.inj (hcommit.symm.trans haccepted)
      exact ⟨rfl, rfl⟩

end Simulates

/-- The rows of the plain editor are those under the handles on display. -/
theorem Simulates.map_row?_eq {e : Editor} {s : PlainEditor} (h : Simulates e s) :
    e.rows.map e.row? = s.rows.map some := by
  rw [← h.shows]
  apply List.map_congr_left
  intro id hid
  exact Editor.row?_of_mem hid

/-- **What applying does.** It leaves the editor as it is and tells observers nothing. The entity
    takes one of three ways out, by the rows on display and by whether a rejection waits. -/
theorem apply_outcome {p : ConditionsPage MemoryEntity} (h : p.session.editor.Reachable) :
    p.apply.2.session = p.session ∧
      ∃ rows, p.session.editor.rows.map p.session.editor.row? = rows.map some ∧
        ApplyOutcome p.session.editor.mode rows p.entity p.apply.1 p.apply.2.entity := by
  obtain ⟨s, hs, -⟩ := h.exists_simulates
  refine ⟨rfl, s.rows, hs.map_row?_eq, ?_⟩
  rw [hs.mode_eq]
  exact hs.applyOutcome p.entity

/-- A page for an entity with three conditions, of which one has no field and one names no object,
    and with a rejection that waits. -/
def refusedPage : ConditionsPage MemoryEntity :=
  .new
    { kind := .enm
      name := "vpn"
      staged := ⟨.any, [⟨.enm, .is, ""⟩, ⟨.bssid, .lacks, ""⟩, ⟨.blank, .is, "x"⟩]⟩
      rejection := some ⟨some "start", "not executable"⟩ }
    {} {}

theorem apply_outcome_refused :
    refusedPage.session.editor.Reachable ∧
      refusedPage.apply.1 = .error (.commit ⟨some "start", "not executable"⟩) ∧
      refusedPage.apply.2.entity = { kind := .enm, name := "vpn", setConditionsCalls := 1 } ∧
      refusedPage.apply.2.session = refusedPage.session ∧
      ∃ rows, refusedPage.session.editor.rows.map refusedPage.session.editor.row? =
          rows.map some ∧
        ApplyOutcome .any rows refusedPage.entity refusedPage.apply.1
          refusedPage.apply.2.entity := by
  have hreachable : refusedPage.session.editor.Reachable :=
    ⟨{}, [({}, .refresh (Entity.view refusedPage.entity) true)], rfl⟩
  exact ⟨hreachable, rfl, rfl, apply_outcome hreachable⟩

end NetActivation
