import NetActivation.Proofs.Application

set_option autoImplicit false

/-! # Loading an entity and applying it again

An editor shows each condition of an entity as it is, so applying what was just loaded gives the
entity its own set again, less the conditions that say nothing: those whose field is not chosen, and
those that ought to name an object and name none. Nothing else is lost, whether the catalog knows
the values or not and whether the fields offer the operators or not. Main statement:
`reapply_outcome`. -/

namespace NetActivation

/-- Whether a condition says nothing: no field is chosen, or its field asks for the name of a
    configured object and its value is empty. -/
def Condition.isVoid (c : Condition) : Bool :=
  c.isBlank || (([.ncu, .loc, .enm] : List Field).contains c.field && c.value == "")

/-- What is left of a set after its conditions were shown in an editor. -/
def ConditionSet.kept (set : ConditionSet) : ConditionSet :=
  ⟨set.mode, if set.mode = .manual then [] else set.conditions.filter fun c => !c.isVoid⟩

/-- Whether a conditional mode is left without a condition. -/
def ConditionSet.LosesRules (set : ConditionSet) : Prop :=
  set.mode.isConditional = true ∧ (set.conditions.filter fun c => !c.isVoid) = []

instance (set : ConditionSet) : Decidable set.LosesRules :=
  inferInstanceAs (Decidable (_ ∧ _))

/-- Loads an entity into an editor, and applies what is shown to the entity. -/
def Editor.reapply (catalog : Catalog) (e : Editor) (x : MemoryEntity) :
    Except ApplyError Unit × MemoryEntity :=
  (e.refresh catalog (Entity.view x) true).editor.apply x

/-! ## What is left of a set -/

namespace ConditionSet

theorem kept_eq_self_iff {set : ConditionSet} :
    set.kept = set ↔ (∀ c ∈ set.conditions, c.isVoid = false) ∧
      (set.mode = .manual → set.conditions = []) := by
  obtain ⟨mode, conditions⟩ := set
  simp only [kept, ConditionSet.mk.injEq, true_and]
  split
  · next hmanual =>
      constructor
      · rintro rfl
        exact ⟨fun c hc => absurd hc List.not_mem_nil, fun _ => rfl⟩
      · rintro ⟨-, hnil⟩
        exact (hnil hmanual).symm
  · next hmanual =>
      rw [List.filter_eq_self]
      simp only [Bool.not_eq_true']
      exact ⟨fun h => ⟨h, fun h' => absurd h' hmanual⟩, fun h => h.1⟩

theorem kept_kept (set : ConditionSet) : set.kept.kept = set.kept := by
  rw [kept_eq_self_iff]
  refine ⟨?_, fun hmanual => if_pos hmanual⟩
  intro c hc
  simp only [kept] at hc
  split at hc
  · exact absurd hc List.not_mem_nil
  · simpa using (List.mem_filter.1 hc).2

/-- A set whose conditions all say something loses its rules only if it has none. -/
theorem not_losesRules {set : ConditionSet} (hsome : ∀ c ∈ set.conditions, c.isVoid = false)
    (hne : set.mode.isConditional = true → set.conditions ≠ []) : ¬set.LosesRules := by
  rintro ⟨hconditional, hnil⟩
  apply hne hconditional
  rw [List.eq_nil_iff_forall_not_mem] at hnil ⊢
  intro c hc
  exact hnil c (List.mem_filter.2 ⟨hc, by rw [hsome c hc, Bool.not_false]⟩)

theorem not_losesRules_of_manual {set : ConditionSet} (h : set.mode = .manual) :
    ¬set.LosesRules := by
  rintro ⟨hconditional, -⟩
  exact Mode.ne_manual_of_isConditional hconditional h

/-- What was kept of a set is not lost the next time. -/
theorem losesRules_kept {set : ConditionSet} (h : ¬set.LosesRules) : ¬set.kept.LosesRules := by
  obtain ⟨hsome, -⟩ := kept_eq_self_iff.1 (kept_kept set)
  refine not_losesRules hsome fun hconditional hnil => h ⟨hconditional, ?_⟩
  simp only [kept] at hconditional hnil
  split at hnil
  · next hmanual => exact absurd hmanual (Mode.ne_manual_of_isConditional hconditional)
  · exact hnil

end ConditionSet

/-! ## Rows that were just loaded -/

namespace Row

theorem isPicker_of_valueKind (catalog : Catalog) (field : Field) (value : String) :
    ((ValueInput.of catalog field.valueKind).select value).isPicker =
      ([.ncu, .loc, .enm] : List Field).contains field := by
  cases field <;> rfl

theorem isUnset_bind (catalog : Catalog) (policy : BssidPolicy) (c : Condition) :
    (blank.bind catalog policy c).isUnset = c.isVoid := by
  have hempty : c.value.isEmpty = (c.value == "") := by
    rw [Bool.eq_iff_iff, String.isEmpty_iff, beq_iff_eq]
  simp only [isUnset, bind, isPicker_of_valueKind, hempty]
  rfl

theorem entered_withControls (rows : List Row) :
    entered (PlainEditor.withControls rows) = entered rows := by
  rw [entered, PlainEditor.withControls, List.filter_map, List.map_map]
  rfl

/-- Of the rows that show loaded conditions, those are unset whose conditions say nothing. -/
theorem entered_bind (catalog : Catalog) (policy : BssidPolicy) (cs : List Condition) :
    entered (cs.map fun c => blank.bind catalog policy c) = cs.filter fun c => !c.isVoid := by
  have hunset : (fun r : Row => !r.isUnset) ∘ (fun c => blank.bind catalog policy c) =
      fun c : Condition => !c.isVoid := by
    funext c
    rw [Function.comp_apply, isUnset_bind]
  have hcondition : (fun r : Row => r.condition) ∘ (fun c => blank.bind catalog policy c) = id :=
    rfl
  rw [entered, List.filter_map, List.map_map, hunset, hcondition, List.map_id]

/-- The rows on display after a loading. -/
def ofConditions (catalog : Catalog) (policy : BssidPolicy) (cs : List Condition) : List Row :=
  PlainEditor.withControls
    (if cs.isEmpty then [blank] else cs.map fun c => blank.bind catalog policy c)

theorem entered_ofConditions (catalog : Catalog) (policy : BssidPolicy) (cs : List Condition) :
    entered (ofConditions catalog policy cs) = cs.filter fun c => !c.isVoid := by
  rw [ofConditions, entered_withControls]
  cases cs with
  | nil => rfl
  | cons c cs => exact entered_bind catalog policy (c :: cs)

end Row

theorem ConditionSet.ofRows_ofConditions (catalog : Catalog) (policy : BssidPolicy)
    (set : ConditionSet) :
    ofRows set.mode (Row.ofConditions catalog policy set.conditions) = set.kept := by
  rw [ofRows, Row.entered_ofConditions, kept]

/-- A set that was just loaded lacks rules if its mode is conditional and nothing is left of it. -/
theorem lacksRules_ofConditions (catalog : Catalog) (policy : BssidPolicy) (set : ConditionSet) :
    LacksRules set.mode (Row.ofConditions catalog policy set.conditions) ↔ set.LosesRules := by
  rw [LacksRules, ConditionSet.LosesRules, ← Row.entered_eq_nil_iff, Row.entered_ofConditions]

/-! ## Applying them -/

theorem Simulates.refresh_force {e : Editor} {s : PlainEditor} (h : Simulates e s)
    (catalog : Catalog) (x : EntityView) :
    Simulates (e.refresh catalog x true).editor
      ⟨x.staged.mode, Row.ofConditions catalog e.config.bssidPolicy x.staged.conditions,
        some (x.kind, x.name)⟩ :=
  (h.refresh catalog x true).simulates

/-- What comes of loading an entity and applying it again is told by its staged set alone. -/
theorem Simulates.reapply_eq {e : Editor} {s : PlainEditor} (h : Simulates e s)
    (catalog : Catalog) {x : MemoryEntity} (hx : x.rejection = none) :
    e.reapply catalog x =
      if x.staged.LosesRules then (.error (.validation .noRules), x)
      else (.ok (), x.accepted x.staged.kept) := by
  have hsim := h.refresh_force catalog (Entity.view x)
  have hlacks := lacksRules_ofConditions catalog e.config.bssidPolicy x.staged
  split
  · next hnone => exact hsim.apply_of_lacksRules (hlacks.2 hnone) x
  · next hsome =>
      have hkept := ConditionSet.ofRows_ofConditions catalog e.config.bssidPolicy x.staged
      have hcommit := MemoryEntity.commit_of_no_rejection hx x.staged.kept
      rw [← hkept] at hcommit
      have happly := hsim.apply_of_not_lacksRules (mt hlacks.1 hsome) hcommit
      rw [hkept] at happly
      exact happly

/-- The set comes back as it was exactly if nothing of it is lost and the builder takes it. -/
theorem Simulates.reapply_restores_iff {e : Editor} {s : PlainEditor} (h : Simulates e s)
    (catalog : Catalog) {x : MemoryEntity} (hx : x.rejection = none) :
    (e.reapply catalog x).1 = .ok () ∧ (e.reapply catalog x).2.committed = x.staged ↔
      (∀ c ∈ x.staged.conditions, c.isVoid = false) ∧
      (x.staged.mode = .manual → x.staged.conditions = []) ∧
      (x.staged.mode.isConditional = true → x.staged.conditions ≠ []) := by
  rw [h.reapply_eq catalog hx]
  constructor
  · split
    · next hloses => exact fun hok => nomatch hok.1
    · next hrules =>
        rintro ⟨-, hkept⟩
        obtain ⟨hsome, hmanual⟩ := ConditionSet.kept_eq_self_iff.1 hkept
        refine ⟨hsome, hmanual, fun hconditional hnil => hrules ⟨hconditional, ?_⟩⟩
        rw [hnil, List.filter_nil]
  · rintro ⟨hsome, hmanual, hne⟩
    rw [if_neg (ConditionSet.not_losesRules hsome hne)]
    exact ⟨rfl, ConditionSet.kept_eq_self_iff.2 ⟨hsome, hmanual⟩⟩

/-- An entity that holds what was kept of a set loses nothing more. -/
theorem Simulates.reapply_accepted_kept {e : Editor} {s : PlainEditor} (h : Simulates e s)
    (catalog : Catalog) {x : MemoryEntity} (hx : x.rejection = none) {set : ConditionSet}
    (hrules : ¬set.LosesRules) :
    e.reapply catalog (x.accepted set.kept) =
      (.ok (), (x.accepted set.kept).accepted set.kept) := by
  have hkept : (x.accepted set.kept).staged = set.kept := rfl
  have hnone : (x.accepted set.kept).rejection = none := hx
  rw [h.reapply_eq catalog hnone, hkept, if_neg (ConditionSet.losesRules_kept hrules),
    ConditionSet.kept_kept]

/-- **Loading and applying gives an entity its own set, less what says nothing.** The set comes back
    as it was exactly if each condition says something and their number suits the mode. Else the
    manual mode loses its conditions, and the other modes lose the conditions that say nothing,
    except that a conditional mode which would be left without any is refused. Neither the catalog
    nor the editor and what it showed before have a say in that, and a second time nothing more is
    lost. -/
theorem reapply_outcome {e : Editor} (he : e.Reachable) (catalog : Catalog) {x : MemoryEntity}
    (hx : x.rejection = none) :
    ((e.reapply catalog x).1 = .ok () ∧ (e.reapply catalog x).2.committed = x.staged ↔
      (∀ c ∈ x.staged.conditions, c.isVoid = false) ∧
      (x.staged.mode = .manual → x.staged.conditions = []) ∧
      (x.staged.mode.isConditional = true → x.staged.conditions ≠ [])) ∧
    (x.staged.mode = .manual → e.reapply catalog x = (.ok (), x.accepted ⟨.manual, []⟩)) ∧
    (x.staged.mode ≠ .manual → e.reapply catalog x =
      if x.staged.LosesRules then (.error (.validation .noRules), x)
      else (.ok (), x.accepted
        ⟨x.staged.mode, x.staged.conditions.filter fun c => !c.isVoid⟩)) ∧
    (∀ (e' : Editor) (catalog' : Catalog), e'.Reachable →
      e'.reapply catalog' x = e.reapply catalog x) ∧
    ((e.reapply catalog x).1 = .ok () → ∀ (e' : Editor) (catalog' : Catalog), e'.Reachable →
      e'.reapply catalog' (e.reapply catalog x).2 =
        (.ok (), (e.reapply catalog x).2.accepted (e.reapply catalog x).2.committed)) := by
  obtain ⟨s, hs, -⟩ := he.exists_simulates
  have heq := hs.reapply_eq catalog hx
  refine ⟨hs.reapply_restores_iff catalog hx, ?_, ?_, ?_, ?_⟩
  · intro hmanual
    rw [heq, if_neg (ConditionSet.not_losesRules_of_manual hmanual), ConditionSet.kept,
      if_pos hmanual, hmanual]
  · intro hmanual
    rw [heq, ConditionSet.kept, if_neg hmanual]
  · intro e' catalog' he'
    obtain ⟨s', hs', -⟩ := he'.exists_simulates
    rw [heq, hs'.reapply_eq catalog' hx]
  · intro hok e' catalog' he'
    obtain ⟨s', hs', -⟩ := he'.exists_simulates
    rw [heq] at hok ⊢
    split at hok
    · cases hok
    · next hrules =>
        rw [if_neg hrules]
        exact hs'.reapply_accepted_kept catalog' hx hrules

/-- An entity with a condition whose operator its field does not offer, between conditions that say
    nothing. -/
def voidsEntity : MemoryEntity :=
  { kind := .enm
    name := "vpn"
    staged := ⟨.any, [⟨.blank, .is, "x"⟩, ⟨.ncu, .contains, "gone"⟩, ⟨.loc, .is, ""⟩]⟩ }

/-- An editor in which a row was added and a field chosen for another. -/
def editedEditor : Editor :=
  (Editor.new {}).run [({}, .addAfter ⟨0⟩), ({}, .setField ⟨0⟩ .essid)]

/-- What the entity is left with is also what any editor makes of it from then on. -/
theorem reapply_outcome_voids :
    voidsEntity.rejection = none ∧ editedEditor.Reachable ∧
      editedEditor.reapply {} voidsEntity =
        (.ok (), voidsEntity.accepted ⟨.any, [⟨.ncu, .contains, "gone"⟩]⟩) ∧
      (∀ (e : Editor) (catalog : Catalog), e.Reachable →
        (e.reapply catalog (voidsEntity.accepted ⟨.any, [⟨.ncu, .contains, "gone"⟩]⟩)).2.committed =
          ⟨.any, [⟨.ncu, .contains, "gone"⟩]⟩) := by
  have hreachable : editedEditor.Reachable := ⟨_, _, rfl⟩
  obtain ⟨-, -, hkept, -, hagain⟩ := reapply_outcome hreachable {} (x := voidsEntity) rfl
  have honce : editedEditor.reapply {} voidsEntity =
      (.ok (), voidsEntity.accepted ⟨.any, [⟨.ncu, .contains, "gone"⟩]⟩) := hkept (by decide)
  rw [honce] at hagain
  refine ⟨rfl, hreachable, honce, ?_⟩
  intro e catalog he
  rw [hagain rfl e catalog he]
  rfl

end NetActivation
