import Mathlib.Data.List.FinRange
import Mathlib.Logic.Equiv.Basic
import NetActivation.Proofs.Monotonicity

set_option autoImplicit false

/-! # Order and repetition do not count

Neither the order in which a network is observed nor how often a thing is observed has a say in
evaluation. Snapshots that show the same are below each other, so by monotonicity the same
conditions hold of them (`Condition.eval_eq_of_le`), and a report is made from nothing else. The
order of the conditions has no say in activation either; in a report each place moves along with its
condition (`mem_placesOf_rearranged`). Main statement: `rearrangement_irrelevant`. -/

namespace NetActivation

/-! ## Snapshots that show the same -/

namespace Condition

/-- Snapshots that show the same agree on a condition, whether it asserts or denies. -/
theorem holds_iff_of_le {s t : Snapshot} (hst : s ≤ t) (hts : t ≤ s) (c : Condition) :
    holds s c = true ↔ holds t c = true := by
  cases hop : c.op.isNegated with
  | false => exact ⟨holds_mono hop hst, holds_mono hop hts⟩
  | true => exact ⟨holds_anti hop hts, holds_anti hop hst⟩

theorem eval_eq_of_le {s t : Snapshot} (hst : s ≤ t) (hts : t ≤ s) (c : Condition) :
    c.eval s = c.eval t := by
  have hnone : c.eval s = none ↔ c.eval t = none := eval_eq_none_iff.trans eval_eq_none_iff.symm
  have hholds := holds_iff_of_le hst hts c
  rw [holds, holds, beq_iff_eq, beq_iff_eq] at hholds
  rcases hs : c.eval s with _ | _ | _
  · exact (hnone.1 hs).symm
  · -- What is decided and does not hold on one side can only be so on the other.
    rcases ht : c.eval t with _ | _ | _
    · exact absurd (hs.symm.trans (hnone.2 ht)) (by simp)
    · rfl
    · exact absurd (hs.symm.trans (hholds.2 ht)) (by simp)
  · exact (hholds.1 hs).symm

end Condition

/-- A report is made from the results of the conditions. -/
theorem Report.of_eq_of_le {s t : Snapshot} (hst : s ≤ t) (hts : t ≤ s) (mode : Mode)
    (conditions : List Condition) : of mode conditions s = of mode conditions t := by
  have hresults : (fun c : Condition => c.eval s) = fun c => c.eval t :=
    funext (Condition.eval_eq_of_le hst hts)
  unfold of
  rw [hresults]

/-! ## Conditions in another order -/

/-- A list with its members moved: the one at a place goes to the place that the permutation gives
    for it. -/
def rearranged {α : Type} (l : List α) (σ : Equiv.Perm (Fin l.length)) : List α :=
  List.ofFn fun i => l.get (σ.symm i)

section Rearranged

variable {α : Type} (l : List α) (σ : Equiv.Perm (Fin l.length))

theorem rearranged_perm : (rearranged l σ).Perm l := by
  have hperm := Equiv.Perm.ofFn_comp_perm σ.symm l.get
  rwa [List.ofFn_get] at hperm

/-- Places move along with the members. -/
theorem mem_placesOf_rearranged (test : α → Bool) (k : Nat) :
    k ∈ placesOf test (rearranged l σ) ↔
      ∃ i : Fin l.length, i.val ∈ placesOf test l ∧ (σ i).val = k := by
  simp only [mem_placesOf, rearranged, List.getElem?_ofFn]
  constructor
  · rintro ⟨a, ha, htest⟩
    split at ha
    · next hk =>
        obtain rfl := Option.some.inj ha
        refine ⟨σ.symm ⟨k, hk⟩, ⟨_, List.getElem?_eq_getElem _, htest⟩, ?_⟩
        rw [Equiv.apply_symm_apply]
    · cases ha
  · rintro ⟨i, ⟨a, ha, htest⟩, rfl⟩
    refine ⟨a, ?_, htest⟩
    rw [dif_pos (σ i).isLt, Fin.eta, Equiv.symm_apply_apply, ← ha]
    exact (List.getElem?_eq_getElem i.isLt).symm

end Rearranged

theorem evaluate_perm {conditions conditions' : List Condition}
    (h : conditions.Perm conditions') (mode : Mode) (s : Snapshot) :
    evaluate mode conditions s = evaluate mode conditions' s := by
  cases mode with
  | manual => rfl
  | system => rfl
  | all => simp only [evaluate, h.isEmpty_eq, List.all_eq, h.mem_iff]
  | any => simp only [evaluate, List.any_eq, h.mem_iff]

/-- **Order and repetition do not count.** Under every mode and for all conditions, runs of
    observations that mention the same lead to the same evaluation and the same report, whatever
    their order and however often they mention it. And however the conditions are rearranged, the
    evaluation is the same, and the report lists the places to which those that it listed were
    moved. -/
theorem rearrangement_irrelevant :
    (∀ os os' : List Observation, Observation.MentionSame os os' →
      ∀ (mode : Mode) (conditions : List Condition),
        evaluate mode conditions (.ofObservations os) =
          evaluate mode conditions (.ofObservations os') ∧
        Report.of mode conditions (.ofObservations os) =
          Report.of mode conditions (.ofObservations os')) ∧
    ∀ (mode : Mode) (conditions : List Condition) (s : Snapshot)
      (σ : Equiv.Perm (Fin conditions.length)),
      let report := Report.of mode conditions s
      let report' := Report.of mode (rearranged conditions σ) s
      evaluate mode (rearranged conditions σ) s = evaluate mode conditions s ∧
        report'.active = report.active ∧
        ∀ k,
          (k ∈ report'.held ↔
            ∃ i : Fin conditions.length, i.val ∈ report.held ∧ (σ i).val = k) ∧
          (k ∈ report'.undecidable ↔
            ∃ i : Fin conditions.length, i.val ∈ report.undecidable ∧ (σ i).val = k) := by
  constructor
  · intro os os' hsame mode conditions
    have hreport := Report.of_eq_of_le (Snapshot.ofObservations_le hsame)
      (Snapshot.ofObservations_le hsame.symm) mode conditions
    refine ⟨?_, hreport⟩
    rw [← Report.active_of, ← Report.active_of, hreport]
  · intro mode conditions s σ report report'
    have hactive := evaluate_perm (rearranged_perm conditions σ) mode s
    refine ⟨hactive, ?_, fun k => ⟨?_, ?_⟩⟩
    · rw [Report.active_of, Report.active_of, hactive]
    · rw [Report.held_of, Report.held_of, placesOf_map, placesOf_map]
      exact mem_placesOf_rearranged conditions σ _ k
    · rw [Report.undecidable_of, Report.undecidable_of, placesOf_map, placesOf_map]
      exact mem_placesOf_rearranged conditions σ _ k

/-- A network as it is observed on the way from home to work. -/
def travelling : List Observation :=
  [.location "home", .ncu "net0", .essid "Office", .location "work", .address (.v4 0x0a00000c)]

/-- The same network observed again and again, in another order. -/
def lookingAgain : List Observation :=
  [.address (.v4 0x0a00000c), .essid "Office", .ncu "net0", .location "work", .essid "Office",
    .ncu "net0"]

/-- The first and the third of an office's conditions change places. -/
def swappedPlaces : Equiv.Perm (Fin misspeltConditions.length) :=
  Equiv.swap ⟨0, by decide⟩ ⟨2, by decide⟩

theorem rearrangement_irrelevant_office :
    Observation.MentionSame travelling lookingAgain ∧
      Report.of .all misspeltConditions (.ofObservations travelling) =
        Report.of .all misspeltConditions (.ofObservations lookingAgain) ∧
      0 ∈ (Report.of .all misspeltConditions officeNetwork).undecidable ∧
      2 ∈ (Report.of .all (rearranged misspeltConditions swappedPlaces) officeNetwork).undecidable ∧
      2 ∈ (Report.of .all misspeltConditions officeNetwork).held ∧
      0 ∈ (Report.of .all (rearranged misspeltConditions swappedPlaces) officeNetwork).held := by
  have hsame : Observation.MentionSame travelling lookingAgain := by
    refine ⟨?_, rfl, rfl⟩
    intro o ho
    cases o <;> simp_all [travelling, lookingAgain, Observation.isExclusive]
  obtain ⟨hruns, hplaces⟩ := rearrangement_irrelevant
  obtain ⟨-, -, hmoved⟩ := hplaces .all misspeltConditions officeNetwork swappedPlaces
  have hundecidable : 0 ∈ (Report.of .all misspeltConditions officeNetwork).undecidable := by decide
  have hheld : 2 ∈ (Report.of .all misspeltConditions officeNetwork).held := by decide
  exact ⟨hsame, (hruns _ _ hsame .all misspeltConditions).2,
    hundecidable, (hmoved 2).2.2 ⟨⟨0, by decide⟩, hundecidable, rfl⟩,
    hheld, (hmoved 0).1.2 ⟨⟨2, by decide⟩, hheld, rfl⟩⟩

end NetActivation
