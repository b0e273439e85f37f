import NetActivation.Dialog.PlainPage
import NetActivation.Proofs.Application
import NetActivation.Proofs.Lists

set_option autoImplicit false

/-! # Applying the pages of a dialog

A dialog applies its pages in order and stops at the first that fails, so a dialog that stays open
has applied the pages before that one and left those behind it alone (`applyAll_append`,
`applyAll_cons_of_error`). What applying a single page leaves as it is, such as its editor, a dialog
leaves as it is on all pages (`forall₂_applyAll`), however often it is applied
(`forall₂_reapplied`). Pages for entities in memory commit what their editors show
(`ConditionsPage.apply_eq`), and then applying them has nothing left to change (`Steady`). Main
statement: `applyAll_outcome`. -/

namespace NetActivation

/-! ## Pages of any type -/

section

variable {π : Type} [Page π]

/-- Pages that do not fail are applied, and then it is the turn of those behind them. -/
theorem applyAll_append {before : List π} (h : ∀ p ∈ before, (Page.apply p).1 = .ok ())
    (behind : List π) :
    applyAll (before ++ behind) =
      ((applyAll behind).1, before.map (fun p => (Page.apply p).2) ++ (applyAll behind).2) := by
  induction before with
  | nil => rfl
  | cons p before ih =>
      obtain ⟨hp, hbefore⟩ := List.forall_mem_cons.1 h
      have happly : Page.apply p = (.ok (), (Page.apply p).2) := Prod.ext hp rfl
      rw [List.cons_append, applyAll, happly, ih hbefore]
      rfl

/-- A page that fails is the last that is applied. -/
theorem applyAll_cons_of_error {failing : π} {error : ApplyError}
    (h : (Page.apply failing).1 = .error error) (behind : List π) :
    applyAll (failing :: behind) = (.stayOpen error, (Page.apply failing).2 :: behind) := by
  have happly : Page.apply failing = (.error error, (Page.apply failing).2) := Prod.ext h rfl
  rw [applyAll, happly]

/-- A relation between a page and what applying makes of it at most holds of all pages. -/
theorem forall₂_applyAll {R : π → π → Prop} (hrefl : ∀ p, R p p)
    (happly : ∀ p, R p (Page.apply p).2) (ps : List π) : List.Forall₂ R ps (applyAll ps).2 := by
  induction ps with
  | nil => exact .nil
  | cons p ps ih =>
      have hp := happly p
      rw [applyAll]
      split
      · next error p' heq =>
          rw [heq] at hp
          exact .cons hp (List.forall₂_same.2 fun q _ => hrefl q)
      · next p' heq =>
          rw [heq] at hp
          exact .cons hp ih

/-- The pages of a dialog after it was applied so many times. -/
def reapplied : Nat → List π → List π
  | 0, ps => ps
  | n + 1, ps => reapplied n (applyAll ps).2

theorem length_reapplied (n : Nat) (ps : List π) : (reapplied n ps).length = ps.length := by
  induction n generalizing ps with
  | zero => rfl
  | succ n ih => rw [reapplied, ih, applyAll_length]

theorem forall₂_reapplied {R : π → π → Prop} (hrefl : ∀ p, R p p)
    (htrans : ∀ p q r, R p q → R q r → R p r) (happly : ∀ p, R p (Page.apply p).2) (n : Nat)
    (ps : List π) : List.Forall₂ R ps (reapplied n ps) := by
  induction n generalizing ps with
  | zero => exact List.forall₂_same.2 fun q _ => hrefl q
  | succ n ih =>
      have hfirst := forall₂_applyAll hrefl happly ps
      exact forall₂_trans htrans hfirst (ih (applyAll ps).2)

end

/-! ## Pages for entities in memory -/

namespace ConditionsPage

variable (p : ConditionsPage MemoryEntity)

/-- The rows that a page's editor shows. -/
def rows : List Row := p.session.editor.shown.map (·.2)

/-- The set that a page's editor describes. -/
def described : ConditionSet := .ofRows p.session.editor.mode p.rows

/-- Whether a page's editor describes no valid set. -/
def Lacking : Prop := LacksRules p.session.editor.mode p.rows

instance : Decidable p.Lacking := inferInstanceAs (Decidable (LacksRules _ _))

theorem conditionSet_eq : p.session.editor.conditionSet =
    if p.Lacking then .error .noRules else .ok p.described :=
  p.session.editor.conditionSet_eq

/-- Applying a page fails without touching the entity, or uses up a rejection, or commits what the
    editor describes. -/
theorem apply_eq : Page.apply p =
    if p.Lacking then (.error (.validation .noRules), p)
    else match p.entity.rejection with
      | some error => (.error (.commit error), { p with entity := p.entity.refused })
      | none => (.ok (), { p with entity := p.entity.accepted p.described }) := by
  have hset := p.conditionSet_eq
  show p.apply = _
  split
  · next hlacking =>
      rw [if_pos hlacking] at hset
      rw [apply, Editor.apply_of_invalid hset]
  · next hrules =>
      rw [if_neg hrules] at hset
      cases hrejection : p.entity.rejection with
      | some error =>
          rw [apply, Editor.apply_of_commit hset (MemoryEntity.commit_of_rejection hrejection _)]
          rfl
      | none =>
          rw [apply, Editor.apply_of_commit hset (MemoryEntity.commit_of_no_rejection hrejection _)]
          rfl

theorem apply_of_ok (h : (Page.apply p).1 = .ok ()) :
    ¬p.Lacking ∧ p.entity.rejection = none ∧
      (Page.apply p).2 = { p with entity := p.entity.accepted p.described } := by
  rw [apply_eq] at h ⊢
  split at h
  · cases h
  · next hrules =>
      rw [if_neg hrules]
      split at h
      · cases h
      · next hrejection =>
          rw [hrejection]
          exact ⟨hrules, rfl, rfl⟩

end ConditionsPage

/-! ## Dialogs -/

section

variable {π : Type} [Page π]

/-- What a dialog makes of a page that does not fail. A page for an entity commits what its editor
    describes, and a page of another type is applied in the way of that type. -/
inductive AppliedOnce :
    ConditionsPage MemoryEntity ⊕ π → ConditionsPage MemoryEntity ⊕ π → Prop where
  | conditions {p : ConditionsPage MemoryEntity} (hrules : ¬p.Lacking)
      (hrejection : p.entity.rejection = none) :
      AppliedOnce (.inl p) (.inl { p with entity := p.entity.accepted p.described })
  | other {q q' : π} (h : Page.apply q = (.ok (), q')) : AppliedOnce (.inr q) (.inr q')

/-- The session of a page that has an editor. -/
def session? : ConditionsPage MemoryEntity ⊕ π → Option Session
  | .inl p => some p.session
  | .inr _ => none

/-- What is committed on the entity of a page that has one. -/
def committed? : ConditionsPage MemoryEntity ⊕ π → Option ConditionSet
  | .inl p => some p.entity.committed
  | .inr _ => none

/-- A page on which nothing is left to change: no rejection waits, and what its editor describes is
    committed. -/
def Steady : ConditionsPage MemoryEntity ⊕ π → Prop
  | .inl p => p.entity.rejection = none ∧ p.entity.committed = p.described
  | .inr _ => True

theorem appliedOnce_of_ok {p : ConditionsPage MemoryEntity ⊕ π} (h : (Page.apply p).1 = .ok ()) :
    AppliedOnce p (Page.apply p).2 := by
  cases p with
  | inl p =>
      obtain ⟨hrules, hrejection, hafter⟩ := p.apply_of_ok h
      show AppliedOnce (.inl p) (.inl (Page.apply p).2)
      rw [hafter]
      exact .conditions hrules hrejection
  | inr q => exact .other (Prod.ext h rfl)

theorem AppliedOnce.steady {p p' : ConditionsPage MemoryEntity ⊕ π} (h : AppliedOnce p p') :
    Steady p' := by
  cases h with
  | conditions _ hrejection => exact ⟨hrejection, rfl⟩
  | other _ => trivial

/-- Applying a page does nothing to its editor. -/
theorem session?_apply (p : ConditionsPage MemoryEntity ⊕ π) :
    session? (Page.apply p).2 = session? p := by
  cases p with
  | inl p => rfl
  | inr q => rfl

/-- Applying a steady page commits nothing new, whether it fails or not. -/
theorem Steady.apply {p : ConditionsPage MemoryEntity ⊕ π} (h : Steady p) :
    Steady (Page.apply p).2 ∧ committed? (Page.apply p).2 = committed? p := by
  cases p with
  | inl p =>
      obtain ⟨hrejection, hcommitted⟩ := h
      show Steady (.inl (Page.apply p).2) ∧ committed? (.inl (Page.apply p).2) = _
      rw [p.apply_eq]
      split
      · exact ⟨⟨hrejection, hcommitted⟩, rfl⟩
      · rw [hrejection]
        exact ⟨⟨hrejection, rfl⟩, congrArg some hcommitted.symm⟩
  | inr q => exact ⟨trivial, rfl⟩

/-- Pages that do not fail are applied once each. -/
theorem forall₂_appliedOnce {ps : List (ConditionsPage MemoryEntity ⊕ π)}
    (h : ∀ p ∈ ps, (Page.apply p).1 = .ok ()) :
    List.Forall₂ AppliedOnce ps (ps.map fun p => (Page.apply p).2) :=
  List.forall₂_map_right_iff.2 (List.forall₂_same.2 fun p hp => appliedOnce_of_ok (h p hp))

theorem steady_of_mem_map {ps : List (ConditionsPage MemoryEntity ⊕ π)}
    (h : ∀ p ∈ ps, (Page.apply p).1 = .ok ()) : ∀ p ∈ ps.map fun p => (Page.apply p).2, Steady p := by
  intro p hp
  obtain ⟨q, hq, rfl⟩ := List.mem_map.1 hp
  exact (appliedOnce_of_ok (h q hq)).steady

/-- No editor changes when a dialog is applied. -/
theorem map_session?_applyAll (ps : List (ConditionsPage MemoryEntity ⊕ π)) :
    (applyAll ps).2.map session? = ps.map session? := by
  symm
  rw [map_eq_map_iff]
  exact forall₂_applyAll (R := fun p q => session? p = session? q) (fun _ => rfl)
    (fun p => (session?_apply p).symm) ps

/-- Steady pages in front stay as they are committed, however often a dialog is applied. -/
theorem map_committed?_reapplied {before : List (ConditionsPage MemoryEntity ⊕ π)}
    (h : ∀ p ∈ before, Steady p) (behind : List (ConditionsPage MemoryEntity ⊕ π)) (n : Nat) :
    ((reapplied n (before ++ behind)).take before.length).map committed? =
      before.map committed? := by
  have hall := forall₂_reapplied
    (R := fun p q : ConditionsPage MemoryEntity ⊕ π =>
      Steady p → Steady q ∧ committed? q = committed? p)
    (fun _ hp => ⟨hp, rfl⟩)
    (fun _ _ _ hpq hqr hp => ⟨(hqr (hpq hp).1).1, (hqr (hpq hp).1).2.trans (hpq hp).2⟩)
    (fun _ hp => hp.apply) n (before ++ behind)
  have hbefore := List.forall₂_take before.length hall
  rw [List.take_left] at hbefore
  have hsteady := (List.forall₂_and_left _ _).2 ⟨h, hbefore⟩
  symm
  rw [map_eq_map_iff]
  exact hsteady.imp fun _ _ hpq => (hpq.2 hpq.1).2.symm

/-- **Applying a dialog is applying its pages up to the first that fails.** If there is such a page,
    the dialog stays open with the error of that page, each page before it has been applied once,
    and those behind it are as they were. If there is none, the dialog closes and each page has been
    applied once. No editor changes either way. And what was committed on the pages that did not
    fail stays committed however often the dialog is applied again. -/
theorem applyAll_outcome (pages : List (ConditionsPage MemoryEntity ⊕ π)) :
    (∀ before failing behind error, pages = before ++ failing :: behind →
      (∀ p ∈ before, (Page.apply p).1 = .ok ()) → (Page.apply failing).1 = .error error →
      ∃ applied, applyAll pages =
          (.stayOpen error, applied ++ (Page.apply failing).2 :: behind) ∧
        List.Forall₂ AppliedOnce before applied ∧
        ∀ n, ((reapplied n (applied ++ (Page.apply failing).2 :: behind)).take
          before.length).map committed? = applied.map committed?) ∧
    ((∀ p ∈ pages, (Page.apply p).1 = .ok ()) →
      ∃ applied, applyAll pages = (.close, applied) ∧ List.Forall₂ AppliedOnce pages applied ∧
        ∀ n, (reapplied n applied).map committed? = applied.map committed?) ∧
    (applyAll pages).2.map session? = pages.map session? := by
  refine ⟨?_, ?_, map_session?_applyAll pages⟩
  · rintro before failing behind error rfl hbefore hfailing
    have hrun : applyAll (before ++ failing :: behind) = (.stayOpen error,
        before.map (fun p => (Page.apply p).2) ++ (Page.apply failing).2 :: behind) := by
      rw [applyAll_append hbefore, applyAll_cons_of_error hfailing]
    refine ⟨_, hrun, forall₂_appliedOnce hbefore, fun n => ?_⟩
    have hkept := map_committed?_reapplied (steady_of_mem_map hbefore)
      ((Page.apply failing).2 :: behind) n
    rwa [List.length_map] at hkept
  · intro hpages
    have hrun : applyAll pages = (.close, pages.map fun p => (Page.apply p).2) := by
      have hall := applyAll_append hpages []
      rwa [List.append_nil, applyAll, List.append_nil] at hall
    refine ⟨_, hrun, forall₂_appliedOnce hpages, fun n => ?_⟩
    have hkept := map_committed?_reapplied (steady_of_mem_map hpages) [] n
    rwa [List.append_nil, List.take_of_length_le (Nat.le_of_eq (length_reapplied n _))] at hkept

end

/-- A page for a location with a rule and a row that adds none. -/
def workPage : ConditionsPage MemoryEntity :=
  .new
    { kind := .location
      name := "work"
      staged := ⟨.any, [⟨.enm, .is, ""⟩, ⟨.essid, .contains, "corp"⟩]⟩ }
    {} {}

/-- Pages that do not fail. -/
def workPages : List (ConditionsPage MemoryEntity ⊕ PlainPage) := [.inl workPage, .inr {}]

/-- Pages each of which would fail. -/
def failingPages : List (ConditionsPage MemoryEntity ⊕ PlainPage) :=
  [.inl refusedPage, .inr { failure := some ⟨none, "never"⟩ }]

/-- Where a page fails, the dialog stays open with its error, and those behind it are not reached.
    What the first pages commit stays. Without the others the dialog closes. -/
theorem applyAll_outcome_refused :
    (∀ p ∈ workPages, (Page.apply p).1 = .ok ()) ∧
      (Page.apply refusedPage).1 = .error (.commit ⟨some "start", "not executable"⟩) ∧
      (∃ applied, applyAll (workPages ++ .inl refusedPage :: failingPages) =
          (.stayOpen (.commit ⟨some "start", "not executable"⟩),
            applied ++ .inl (Page.apply refusedPage).2 :: failingPages) ∧
        List.Forall₂ AppliedOnce workPages applied ∧
        ∀ n, ((reapplied n (applied ++ .inl (Page.apply refusedPage).2 :: failingPages)).take 2).map
          committed? = [some ⟨.any, [⟨.essid, .contains, "corp"⟩]⟩, none]) ∧
      (applyAll workPages).1 = .close := by
  have hwork : ∀ p ∈ workPages, (Page.apply p).1 = .ok () :=
    List.forall_mem_cons.2 ⟨rfl, List.forall_mem_singleton.2 rfl⟩
  have hrefused : (Page.apply refusedPage).1 =
      .error (.commit ⟨some "start", "not executable"⟩) := rfl
  obtain ⟨hopen, -⟩ := applyAll_outcome (workPages ++ .inl refusedPage :: failingPages)
  obtain ⟨-, hclose, -⟩ := applyAll_outcome workPages
  obtain ⟨applied, hrun, honce, hkept⟩ := hopen workPages _ failingPages _ rfl hwork hrefused
  obtain ⟨closed, hclosed, -⟩ := hclose hwork
  have hlength : 2 = applied.length := honce.length_eq
  have hcommitted : ((applyAll (workPages ++ .inl refusedPage :: failingPages)).2.take 2).map
      committed? = [some ⟨.any, [⟨.essid, .contains, "corp"⟩]⟩, none] := rfl
  rw [hrun, hlength, List.take_left] at hcommitted
  exact ⟨hwork, hrefused, ⟨applied, hrun, honce, fun n => (hkept n).trans hcommitted⟩,
    congrArg Prod.fst hclosed⟩

end NetActivation
