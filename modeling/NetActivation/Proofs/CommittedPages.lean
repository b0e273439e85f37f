import NetActivation.Proofs.DisplayedSets

set_option autoImplicit false

/-! # Pages for entities in memory

A page gives its entity a set only to have it committed at once, and an entity in memory discards
what it refuses, so nothing is ever left staged (`Settled`). Hence what the page loads when it is
cancelled is what was committed last, however many attempts have failed since. The entity's counters
tell how the attempts went (`attempt_step`). Main statement: `page_stays_committed`. -/

namespace NetActivation

/-! ## The entity that is loaded -/

namespace Editor

/-- Only loading an entity changes which one is loaded. -/
theorem bound_perform (catalog : Catalog) (e : Editor) {edit : Edit}
    (hedit : ∀ x force, edit ≠ .refresh x force) :
    (e.perform catalog edit).editor.bound = e.bound := by
  have hrow (id : RowId) (f : Row → Option Row) : (e.edit id f).editor.bound = e.bound := by
    unfold Editor.edit
    split <;> rfl
  cases edit with
  | addAfter after => rfl
  | remove id =>
      simp only [Editor.perform, Editor.remove]
      split
      · split <;> rfl
      · rfl
  | setField id field => exact hrow id _
  | setOperator id op => exact hrow id _
  | setValue id value => exact hrow id _
  | setMode mode => rfl
  | refresh x force => exact absurd rfl (hedit x force)

theorem bound_refresh (catalog : Catalog) (e : Editor) (x : EntityView) (force : Bool) :
    (e.refresh catalog x force).editor.bound = some (x.kind, x.name) := by
  unfold Editor.refresh
  split
  · next hsame =>
      rw [Bool.and_eq_true, beq_iff_eq] at hsame
      exact hsame.2
  · rfl

/-- An entity that is loaded is not loaded again unless that is forced. -/
theorem refresh_of_bound {e : Editor} {x : EntityView} (h : e.bound = some (x.kind, x.name))
    (catalog : Catalog) : e.refresh catalog x false = e.unchanged := by
  unfold Editor.refresh
  rw [if_pos]
  rw [h, Bool.not_false, Bool.true_and, beq_self_eq_true]

end Editor

theorem Session.bound_step (s : Session) {x : Session.Step}
    (hx : ∀ y force, x ≠ .perform (.refresh y force)) :
    (s.step x).editor.bound = s.editor.bound := by
  cases x with
  | subscribe => rfl
  | setCatalog catalog => rfl
  | perform edit =>
      exact Editor.bound_perform s.catalog s.editor fun y force hedit =>
        hx y force (congrArg Session.Step.perform hedit)

namespace ConditionsPage

variable {p : ConditionsPage MemoryEntity}

/-! ## Attempts -/

/-- How applying a page can go: the rows make no set and the entity is not touched, or the entity
    refuses the set, or it accepts it. -/
theorem apply_cases (h : p.session.editor.Reachable) :
    (Page.apply p).1 = .error (.validation .noRules) ∧ (Page.apply p).2.entity = p.entity ∨
    (∃ error, (Page.apply p).1 = .error (.commit error) ∧
      (Page.apply p).2.entity = p.entity.refused) ∨
    (Page.apply p).1 = .ok () ∧ ∃ set, (Page.apply p).2.entity = p.entity.accepted set := by
  obtain ⟨s, hs, -⟩ := h.exists_simulates
  have houtcome := hs.applyOutcome p.entity
  by_cases hlacks : LacksRules s.mode s.rows
  · obtain ⟨error, herror⟩ := houtcome.invalid_iff.2 hlacks
    obtain ⟨rfl, hsame⟩ := houtcome.untouched error herror
    exact Or.inl ⟨herror, hsame⟩
  · rcases hrejection : p.entity.rejection with _ | error
    · obtain ⟨hok, haccepted⟩ := houtcome.accepted hlacks hrejection
      exact Or.inr (Or.inr ⟨hok, _, haccepted⟩)
    · obtain ⟨herror, hrefused⟩ := houtcome.rejected hlacks error hrejection
      exact Or.inr (Or.inl ⟨error, herror, hrefused⟩)

/-- What a step with a result, if it has one, makes of an entity. -/
structure Attempt (x : MemoryEntity) (result? : Option (Except ApplyError Unit))
    (after : MemoryEntity) : Prop where
  kind_eq : after.kind = x.kind
  name_eq : after.name = x.name
  /-- nothing is left staged if nothing was -/
  staged_eq : x.staged = x.committed → after.staged = after.committed
  /-- only an attempt that goes well changes what is committed -/
  committed_eq : result? ≠ some (.ok ()) → after.committed = x.committed
  commits_eq : after.commits = x.commits + result?.toList.countP Except.isOk
  calls_eq : after.setConditionsCalls = x.setConditionsCalls + result?.toList.countP wasStaged

theorem attempt_none (x : MemoryEntity) : Attempt x none x :=
  ⟨rfl, rfl, id, fun _ => rfl, rfl, rfl⟩

theorem attempt_apply (h : p.session.editor.Reachable) :
    Attempt p.entity (some (Page.apply p).1) (Page.apply p).2.entity := by
  rcases apply_cases h with ⟨hresult, hentity⟩ | ⟨error, hresult, hentity⟩ | ⟨hresult, set, hentity⟩
  · rw [hresult, hentity]
    exact ⟨rfl, rfl, id, fun _ => rfl, rfl, rfl⟩
  · rw [hresult, hentity]
    exact ⟨rfl, rfl, fun _ => rfl, fun _ => rfl, rfl, rfl⟩
  · rw [hresult, hentity]
    exact ⟨rfl, rfl, fun _ => rfl, fun hnever => absurd rfl hnever, rfl, rfl⟩

/-- Of all steps, only applying does anything to the entity. -/
theorem attempt_step (h : p.session.editor.Reachable) (x : PageStep) :
    Attempt p.entity (p.result? x) (p.step x).entity := by
  cases x with
  | refresh force => exact attempt_none p.entity
  | apply => exact attempt_apply h
  | cancel => exact attempt_none p.entity
  | session x => exact attempt_none p.entity

/-- The counters of the entity count the attempts of a run. -/
theorem counters_run (h : p.session.editor.Reachable) (steps : List PageStep) :
    (p.run steps).entity.commits =
        p.entity.commits + (p.results steps).countP Except.isOk ∧
      (p.run steps).entity.setConditionsCalls =
        p.entity.setConditionsCalls + (p.results steps).countP wasStaged := by
  induction steps generalizing p with
  | nil => exact ⟨rfl, rfl⟩
  | cons x steps ih =>
      obtain ⟨hcommits, hcalls⟩ := ih (reachable_step h x)
      have hattempt := attempt_step h x
      simp only [run, results, List.countP_append]
      rw [hcommits, hcalls, hattempt.commits_eq, hattempt.calls_eq]
      exact ⟨Nat.add_assoc .., Nat.add_assoc ..⟩

/-! ## Pages with nothing left staged -/

/-- A page whose editor has its entity loaded, and on whose entity nothing is staged but what is
    committed. -/
structure Settled (p : ConditionsPage MemoryEntity) : Prop where
  reachable : p.session.editor.Reachable
  bound_eq : p.session.editor.bound = some (p.entity.kind, p.entity.name)
  staged_eq : p.entity.staged = p.entity.committed

theorem settled_new {x : MemoryEntity} (hx : x.staged = x.committed) (catalog : Catalog)
    (config : EditorConfig) : Settled (new x catalog config) where
  reachable := reachable_new x catalog config
  bound_eq := Editor.bound_refresh catalog (Editor.new config) (Entity.view x) true
  staged_eq := hx

theorem Settled.step (h : Settled p) {x : PageStep}
    (hx : ∀ y force, x ≠ .session (.perform (.refresh y force))) : Settled (p.step x) := by
  have hattempt := attempt_step h.reachable x
  refine ⟨reachable_step h.reachable x, ?_, hattempt.staged_eq h.staged_eq⟩
  rw [hattempt.kind_eq, hattempt.name_eq]
  cases x with
  | refresh force => exact Editor.bound_refresh p.session.catalog _ (Entity.view p.entity) force
  | apply => exact h.bound_eq
  | cancel => exact Editor.bound_refresh p.session.catalog _ (Entity.view p.entity) true
  | session x =>
      refine (Session.bound_step p.session ?_).trans h.bound_eq
      intro y force hforeign
      exact hx y force (congrArg PageStep.session hforeign)

theorem Settled.run (h : Settled p) {steps : List PageStep}
    (hsteps : ∀ x ∈ steps, ∀ y force, x ≠ .session (.perform (.refresh y force))) :
    Settled (p.run steps) := by
  induction steps generalizing p with
  | nil => exact h
  | cons x steps ih =>
      exact ih (h.step (hsteps x (List.mem_cons_self ..))) fun later hlater =>
        hsteps later (List.mem_cons_of_mem _ hlater)

/-- Such a page is not refreshed unless that is forced, and nobody is told anything. -/
theorem Settled.refresh_eq (h : Settled p) : Page.refresh p false = p := by
  have hsame := Editor.refresh_of_bound (x := Entity.view p.entity) h.bound_eq p.session.catalog
  have hsession : p.session.perform (.refresh (Entity.view p.entity) false) = p.session := by
    show p.session.accept (p.session.editor.refresh p.session.catalog _ false) = p.session
    rw [hsame, Session.accept]
    simp only [Editor.unchanged, List.flatMap_nil, List.append_nil]
  show ({ p with session := _ } : ConditionsPage MemoryEntity) = p
  rw [hsession]

/-- **A page for an entity in memory can always go back to what was committed.** Take any run of a
    page that was made when nothing was staged, with whatever rejection waiting, in which nobody
    loads another entity into its editor. After it nothing is left staged; another step changes what
    is committed only if it applies the page and that goes well; the counters of the entity count
    the applies that went well and those that came as far as to stage a set. Refreshing without
    force changes nothing and tells nobody anything, and cancelling or refreshing by force displays
    what is committed. -/
theorem page_stays_committed {x : MemoryEntity} (hx : x.staged = x.committed) (catalog : Catalog)
    (config : EditorConfig) {steps : List PageStep}
    (hsteps : ∀ step ∈ steps, ∀ y force, step ≠ .session (.perform (.refresh y force))) :
    let p := (new x catalog config).run steps
    let results := (new x catalog config).results steps
    p.entity.staged = p.entity.committed ∧
      (∀ step, (p.step step).entity.committed ≠ p.entity.committed →
        step = .apply ∧ (Page.apply p).1 = .ok ()) ∧
      p.entity.commits = x.commits + results.countP Except.isOk ∧
      p.entity.setConditionsCalls = x.setConditionsCalls + results.countP wasStaged ∧
      Page.refresh p false = p ∧
      (Page.cancel p).session.editor.Displays p.entity.committed ∧
      (Page.refresh p true).session.editor.Displays p.entity.committed := by
  intro p results
  have hsettled : Settled p := (settled_new hx catalog config).run hsteps
  obtain ⟨hcommits, hcalls⟩ := counters_run (reachable_new x catalog config) steps
  refine ⟨hsettled.staged_eq, ?_, hcommits, hcalls, hsettled.refresh_eq, ?_, ?_⟩
  · intro step hchanged
    have hok := not_imp_comm.1 (attempt_step hsettled.reachable step).committed_eq hchanged
    cases step with
    | apply => exact ⟨rfl, Option.some.inj hok⟩
    | refresh force | cancel | session y => cases hok
  · rw [← hsettled.staged_eq]
    exact displays_cancel hsettled.reachable
  · rw [← hsettled.staged_eq]
    exact displays_refresh hsettled.reachable

/-- An entity that refuses the next commit. -/
def reluctantEntity : MemoryEntity :=
  { kind := .location
    name := "work"
    staged := ⟨.any, [⟨.essid, .contains, "corp"⟩]⟩
    committed := ⟨.any, [⟨.essid, .contains, "corp"⟩]⟩
    rejection := some ⟨none, "not now"⟩ }

/-- The mode is changed, which is refused at first. Then all rules are taken away, which is no valid
    set, while somebody watches. -/
def reluctantSteps : List PageStep :=
  [.session (.perform (.setMode .all)), .apply, .apply, .session .subscribe,
    .session (.perform (.remove ⟨0⟩)), .apply, .refresh false]

theorem page_stays_committed_reluctant :
    reluctantEntity.staged = reluctantEntity.committed ∧
      (∀ step ∈ reluctantSteps, ∀ y force, step ≠ .session (.perform (.refresh y force))) ∧
      (new reluctantEntity {} {}).results reluctantSteps =
        [.error (.commit ⟨none, "not now"⟩), .ok (), .error (.validation .noRules)] ∧
      ((new reluctantEntity {} {}).run reluctantSteps).entity.commits = 1 ∧
      ((new reluctantEntity {} {}).run reluctantSteps).entity.setConditionsCalls = 2 ∧
      (Page.cancel ((new reluctantEntity {} {}).run reluctantSteps)).session.editor.Displays
        ⟨.all, [⟨.essid, .contains, "corp"⟩]⟩ := by
  have hsteps : ∀ step ∈ reluctantSteps, ∀ y force,
      step ≠ .session (.perform (.refresh y force)) := by simp [reluctantSteps]
  obtain ⟨-, -, hcommits, hcalls, -, hdisplays, -⟩ :=
    page_stays_committed (x := reluctantEntity) rfl {} {} hsteps
  exact ⟨rfl, hsteps, rfl, hcommits, hcalls, hdisplays⟩

end ConditionsPage

end NetActivation
