import NetActivation.Proofs.DisplayedSets
import NetActivation.Proofs.StoreHistory

set_option autoImplicit false

/-! # Pages for stored entities

A handle on a stored entity keeps what is staged on it apart from the set that its store holds. A
commit that fails puts the entries of the store back, but leaves staged what was refused, unlike an
entity in memory, and a page that is cancelled loads what is staged. So cancelling discards edits
only as long as the last set that the handle was given could be stored; after one that could not, it
brings the refused edits back. Main statement: `ConditionsPage.cancel_discards_unless_refused`.

What applying a page can do to a handle is said once (`ConditionsPage.apply_handle_cases`). -/

namespace NetActivation

variable {σ : Type}

/-! ## Sets in a store -/

namespace Store

theorem setOf_make_stored (s : Store) (kind : EntityKind) (name : String) (set : ConditionSet) :
    (s.make (.stored (kind, name) set)).setOf kind name = set := by
  have hkey : (⟨kind, name, set⟩ : Entry).key = (kind, name) := rfl
  rw [setOf, make, find?_upsert, if_pos hkey]

/-- The set that a store with fit entries has for an entity holds no blank condition. -/
theorem isBlank_of_mem_setOf {s : Store} (hs : Entry.WellFormed s.entries) {kind : EntityKind}
    {name : String} : ∀ c ∈ (s.setOf kind name).conditions, c.isBlank = false := by
  intro c hc
  rw [setOf] at hc
  split at hc
  · next e he => exact (hs.2 e (List.mem_of_find?_eq_some he)).1 c hc
  · exact absurd hc List.not_mem_nil

end Store

/-! ## Applying -/

namespace Editor

variable {e : Editor}

theorem valid_of_conditionSet {set : ConditionSet} (h : e.conditionSet = .ok set) :
    set.Valid := by
  obtain ⟨rfl, hvalid⟩ := ConditionSet.build_eq_ok_iff.1 h
  exact hvalid

end Editor

namespace StoredEntity

/-- A handle after a set was staged that could not be stored. -/
def refused (x : StoredEntity σ) (set : ConditionSet) (disk : σ) : StoredEntity σ :=
  { x with disk, staged := set }

/-- A handle after a set was staged and stored. -/
def accepted (x : StoredEntity σ) (set : ConditionSet) (disk : σ) : StoredEntity σ :=
  { x with disk, staged := set, store := x.store.make (.stored (x.kind, x.name) set) }

/-- A handle on the entity of a kind and name, in whose store all entries are fit. -/
structure IsFor (kind : EntityKind) (name : String) (x : StoredEntity σ) : Prop where
  kind_eq : x.kind = kind
  name_eq : x.name = name
  wellFormed : Entry.WellFormed x.store.entries

theorem IsFor.accepted {kind : EntityKind} {name : String} {x : StoredEntity σ}
    (h : x.IsFor kind name) {set : ConditionSet} (hset : set.Valid) (disk : σ) :
    (x.accepted set disk).IsFor kind name where
  kind_eq := h.kind_eq
  name_eq := h.name_eq
  wellFormed := Store.wellFormed_upsert h.wellFormed hset

/-- Whether what is staged on a handle is what its store holds. -/
def IsLoaded (x : StoredEntity σ) : Prop := x.staged = x.store.setOf x.kind x.name

theorem isLoaded_accepted (x : StoredEntity σ) (set : ConditionSet) (disk : σ) :
    (x.accepted set disk).IsLoaded :=
  (x.store.setOf_make_stored x.kind x.name set).symm

/-- A commit fails and leaves the store alone, or it goes well and stores what is staged. -/
theorem commit_cases [FileSystem σ] (x : StoredEntity σ) :
    (∃ error disk, x.commit = (.error error, x.refused x.staged disk)) ∨
    ∃ disk, x.commit = (.ok (), x.accepted x.staged disk) := by
  have hsettles := Store.settles_commitRun x
  rw [Store.Settles] at hsettles
  cases houtcome : x.commitRun.outcome with
  | error error =>
      rw [houtcome] at hsettles
      refine Or.inl ⟨error, x.commitRun.disk, ?_⟩
      rw [commit, houtcome, hsettles]
      rfl
  | ok _ =>
      rw [houtcome] at hsettles
      refine Or.inr ⟨x.commitRun.disk, ?_⟩
      rw [commit, houtcome, hsettles]
      rfl

end StoredEntity

namespace ConditionsPage

variable [FileSystem σ] {p : ConditionsPage (StoredEntity σ)}

/-- **How applying a page can go**: the rows make no set and the handle is not touched, or the set
    is refused and only stays staged, or it is stored. -/
theorem apply_handle_cases (p : ConditionsPage (StoredEntity σ)) :
    (∃ error, (Page.apply p).1 = .error (.validation error) ∧
      (Page.apply p).2.entity = p.entity) ∨
    ∃ set disk, p.session.editor.conditionSet = .ok set ∧
      ((∃ error, (Page.apply p).1 = .error (.commit error) ∧
        (Page.apply p).2.entity = p.entity.refused set disk) ∨
      (Page.apply p).1 = .ok () ∧ (Page.apply p).2.entity = p.entity.accepted set disk) := by
  cases hset : p.session.editor.conditionSet with
  | error error =>
      have happly := Editor.apply_of_invalid hset p.entity
      exact Or.inl ⟨error, congrArg (·.1) happly, congrArg (·.2) happly⟩
  | ok set =>
      rcases StoredEntity.commit_cases { p.entity with staged := set } with
        ⟨error, disk, hcommit⟩ | ⟨disk, hcommit⟩
      · have happly := Editor.apply_of_commit hset (x := p.entity) hcommit
        exact Or.inr ⟨set, disk, rfl,
          Or.inl ⟨error, congrArg (·.1) happly, congrArg (·.2) happly⟩⟩
      · have happly := Editor.apply_of_commit hset (x := p.entity) hcommit
        exact Or.inr ⟨set, disk, rfl, Or.inr ⟨congrArg (·.1) happly, congrArg (·.2) happly⟩⟩

/-! ## Runs -/

variable {kind : EntityKind} {name : String}

theorem isFor_step (h : p.entity.IsFor kind name) (x : PageStep) :
    (p.step x).entity.IsFor kind name := by
  cases x with
  | refresh force | cancel | session x => exact h
  | apply =>
      show (Page.apply p).2.entity.IsFor kind name
      rcases apply_handle_cases p with
        ⟨error, -, hentity⟩ | ⟨set, disk, hset, ⟨error, -, hentity⟩ | ⟨-, hentity⟩⟩
      · rw [hentity]
        exact h
      · rw [hentity]
        exact ⟨h.kind_eq, h.name_eq, h.wellFormed⟩
      · rw [hentity]
        exact h.accepted (Editor.valid_of_conditionSet hset) disk

theorem isFor_run (h : p.entity.IsFor kind name) (steps : List PageStep) :
    (p.run steps).entity.IsFor kind name := by
  induction steps generalizing p with
  | nil => exact h
  | cons x steps ih => exact ih (isFor_step h x)

/-- Nothing that was refused is staged if the last set that was staged in a run could be stored. -/
theorem isLoaded_run (h : p.entity.IsLoaded) {steps : List PageStep}
    (hlast : ∀ error, p.lastStaging? steps ≠ some (.error error)) :
    (p.run steps).entity.IsLoaded := by
  induction steps using List.reverseRecOn with
  | nil => exact h
  | append_singleton steps x ih =>
      rw [lastStaging?_concat] at hlast
      rw [run_append]
      cases x with
      | refresh force | cancel | session x => exact ih hlast
      | apply =>
          show (Page.apply (p.run steps)).2.entity.IsLoaded
          rw [result?] at hlast
          rcases apply_handle_cases (p.run steps) with
            ⟨error, hresult, hentity⟩ | ⟨set, disk, -, ⟨error, hresult, -⟩ | ⟨-, hentity⟩⟩
          · rw [hresult] at hlast
            rw [hentity]
            exact ih hlast
          · rw [hresult] at hlast
            exact absurd rfl (hlast (.commit error))
          · rw [hentity]
            exact StoredEntity.isLoaded_accepted (p.run steps).entity set disk

/-- What a refusal does: the store holds what it held, and cancelling displays what was refused. -/
theorem displays_refused (hp : p.session.editor.Reachable) {error : CommitError}
    (hrefusal : (Page.apply p).1 = .error (.commit error)) :
    (Page.apply p).2.entity.store = p.entity.store ∧
      ∃ set, p.session.editor.conditionSet = .ok set ∧
        (Page.cancel (Page.apply p).2).session.editor.Displays set := by
  rcases apply_handle_cases p with
    ⟨error, hresult, -⟩ | ⟨set, disk, hset, ⟨error, -, hentity⟩ | ⟨hresult, -⟩⟩
  · exact absurd (hrefusal.symm.trans hresult) nofun
  · have hshown := displays_cancel (p := (Page.apply p).2) hp
    rw [hentity] at hshown ⊢
    exact ⟨rfl, set, hset, hshown⟩
  · exact absurd (hrefusal.symm.trans hresult) nofun

/-- **Cancelling discards edits unless they were refused.** Take any run of a page for an entity of
    a store, on any file system. If the last set that was staged in it could be stored, or if none
    was staged, cancelling displays what the store holds for the entity. But if applying the page
    then ends in a refusal, the store holds what it held, and cancelling displays the very set that
    was refused; what the store holds it displays only if that is the same set. -/
theorem cancel_discards_unless_refused {s : Store} (hs : Entry.WellFormed s.entries) (disk : σ)
    (kind : EntityKind) (name : String) (catalog : Catalog) (config : EditorConfig)
    (steps : List PageStep) :
    let start := new (s.entity disk kind name) catalog config
    let p := start.run steps
    ((∀ error, start.lastStaging? steps ≠ some (.error error)) →
      (Page.cancel p).session.editor.Displays (p.entity.store.setOf kind name)) ∧
    ∀ error, (Page.apply p).1 = .error (.commit error) →
      let after := (Page.apply p).2
      after.entity.store = p.entity.store ∧
      ∃ set, p.session.editor.conditionSet = .ok set ∧
        (Page.cancel after).session.editor.Displays set ∧
        ((Page.cancel after).session.editor.Displays (after.entity.store.setOf kind name) ↔
          set = after.entity.store.setOf kind name) := by
  intro start p
  have hp : p.session.editor.Reachable := reachable_run (reachable_new _ catalog config) steps
  have hfor : p.entity.IsFor kind name := isFor_run (p := start) ⟨rfl, rfl, hs⟩ steps
  constructor
  · intro hlast
    have hloaded : p.entity.IsLoaded := isLoaded_run (p := start) rfl hlast
    rw [StoredEntity.IsLoaded, hfor.kind_eq, hfor.name_eq] at hloaded
    rw [← hloaded]
    exact displays_cancel hp
  · intro error hrefusal after
    obtain ⟨hstore, set, hset, hshown⟩ := displays_refused hp hrefusal
    refine ⟨hstore, set, hset, hshown, ?_, fun hsame => hsame ▸ hshown⟩
    intro hstored
    rw [hstore] at hstored ⊢
    exact hshown.unique hstored (Editor.valid_of_conditionSet hset).1
      (Store.isBlank_of_mem_setOf hfor.wellFormed)

/-- A store with one location. -/
def homeStore : Store :=
  ⟨"nwam.db", [⟨.location, "home", ⟨.any, [⟨.essid, .contains, "home"⟩]⟩⟩]⟩

/-- A disk with the file of that store, and with a directory where another file would be written to
    take its place. -/
def blockedDisk : Disk :=
  ⟨[(["nwam.db.tmp"], .directory), (["nwam.db"], .file (StoreFile.encode homeStore.entries))]⟩

/-- The mode is changed. -/
def homeSteps : List PageStep := [.session (.perform (.setMode .system))]

/-- A page for the location, with an edit that cannot be stored. -/
def homePage : ConditionsPage (StoredEntity Disk) :=
  (new (homeStore.entity blockedDisk .location "home") {} {}).run homeSteps

theorem cancel_discards_unless_refused_home :
    Entry.WellFormed homeStore.entries ∧
      (new (homeStore.entity blockedDisk .location "home") {} {}).lastStaging? homeSteps = none ∧
      (Page.cancel homePage).session.editor.Displays
        ⟨.any, [⟨.essid, .contains, "home"⟩]⟩ ∧
      (Page.apply homePage).1 =
        .error (.commit ⟨none, "I/O error: Is a directory (os error 21)"⟩) ∧
      (Page.cancel (Page.apply homePage).2).session.editor.Displays
        ⟨.system, [⟨.essid, .contains, "home"⟩]⟩ := by
  have hfit : Entry.WellFormed homeStore.entries := by
    simp [Entry.WellFormed, homeStore, ConditionSet.Valid, Condition.isBlank]
  have hrefusal : (Page.apply homePage).1 =
      .error (.commit ⟨none, "I/O error: Is a directory (os error 21)"⟩) := by rfl
  have hnone : (new (homeStore.entity blockedDisk .location "home") {} {}).lastStaging? homeSteps =
      none := by rfl
  obtain ⟨hdiscards, hrefused⟩ :=
    cancel_discards_unless_refused hfit blockedDisk .location "home" {} {} homeSteps
  obtain ⟨-, set, hset, hshown, -⟩ := hrefused _ hrefusal
  obtain rfl := Except.ok.inj hset
  exact ⟨hfit, hnone, hdiscards (by simp [hnone]), hrefusal, hshown⟩

/-- What was refused is still on display after the page was cancelled, though the store does not
    hold it. -/
theorem refused_edits_stay :
    (Page.apply homePage).1 =
        .error (.commit ⟨none, "I/O error: Is a directory (os error 21)"⟩) ∧
      (Page.apply homePage).2.entity.store = homeStore ∧
      ¬(Page.cancel (Page.apply homePage).2).session.editor.Displays
        (homeStore.setOf .location "home") := by
  refine ⟨rfl, rfl, ?_⟩
  intro hstored
  exact absurd hstored.mode_eq (by decide)

end ConditionsPage

end NetActivation
