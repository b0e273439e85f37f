import Mathlib.Data.List.Basic
import NetActivation.Evaluation

set_option autoImplicit false

/-! # The report agrees with the plain evaluation

The plain evaluation asks whether all or any of the conditions hold, and may stop early; the report
goes through all of them, notes places and counts the conditions that hold. `active_of` says
that both come to the same result, and `report_agrees` adds what the places say. None of this
needs the conditions to make a valid set. -/

namespace NetActivation

/-! ## Places -/

section Places

variable {α : Type} {test other : α → Bool} {l : List α}

/-- The places are those at which a member satisfies the test. -/
theorem mem_placesOf {i : Nat} : i ∈ placesOf test l ↔ ∃ a, l[i]? = some a ∧ test a = true := by
  simp only [placesOf, List.mem_map, List.mem_filter, List.mem_zipIdx_iff_getElem?]
  constructor
  · rintro ⟨⟨a, j⟩, ⟨ha, htest⟩, rfl⟩
    exact ⟨a, ha, htest⟩
  · rintro ⟨a, ha, htest⟩
    exact ⟨(a, i), ⟨ha, htest⟩, rfl⟩

/-- The places of the images that satisfy a test are those of the members whose images do. -/
theorem placesOf_map {β : Type} (test : β → Bool) (f : α → β) (l : List α) :
    placesOf test (l.map f) = placesOf (fun a => test (f a)) l := by
  rw [placesOf, placesOf, List.zipIdx_map, List.filter_map, List.map_map]
  rfl

/-- The places at which a function has a value. -/
theorem mem_placesOf_map {β : Type} [BEq β] [LawfulBEq β] {f : α → β} {b : β} {i : Nat} :
    i ∈ placesOf (· == b) (l.map f) ↔ ∃ a, l[i]? = some a ∧ f a = b := by
  rw [placesOf_map, mem_placesOf]
  simp only [beq_iff_eq]

/-- Places are listed in ascending order, each once. -/
theorem pairwise_placesOf (test : α → Bool) (l : List α) :
    (placesOf test l).Pairwise (· < ·) := by
  have hall : (l.zipIdx.map (·.2)).Pairwise (· < ·) := by
    rw [List.zipIdx_map_snd]
    exact List.pairwise_lt_range'
  exact hall.sublist (List.filter_sublist.map _)

theorem length_placesOf (test : α → Bool) (l : List α) :
    (placesOf test l).length = l.countP test := by
  have hfst : l.countP test = (l.zipIdx.map (·.1)).countP test := by
    rw [List.zipIdx_map_fst]
  rw [placesOf, List.length_map, hfst, List.countP_map, List.countP_eq_length_filter]
  rfl

/-- As many places as members means that all members satisfy the test. -/
theorem length_placesOf_eq_length_iff (test : α → Bool) (l : List α) :
    (placesOf test l).length = l.length ↔ l.all test = true := by
  rw [length_placesOf, List.countP_eq_length, List.all_eq_true]

/-- No place means that no member satisfies the test. -/
theorem isEmpty_placesOf (test : α → Bool) (l : List α) :
    (placesOf test l).isEmpty = !l.any test := by
  rw [Bool.eq_iff_iff, List.isEmpty_iff_length_eq_zero, length_placesOf, List.countP_eq_zero,
    Bool.not_eq_true', List.any_eq_false]

/-- Tests that exclude each other have no place in common. -/
theorem disjoint_placesOf (h : ∀ a, test a = true → other a = false) :
    (placesOf test l).Disjoint (placesOf other l) := by
  intro i hi hi'
  obtain ⟨a, ha, htest⟩ := mem_placesOf.1 hi
  obtain ⟨b, hb, hother⟩ := mem_placesOf.1 hi'
  obtain rfl : a = b := Option.some.inj (ha.symm.trans hb)
  rw [h a htest] at hother
  exact absurd hother (by simp)

end Places

/-! ## The report -/

namespace Report

theorem held_of (mode : Mode) (conditions : List Condition) (s : Snapshot) :
    (of mode conditions s).held = placesOf (· == some true) (conditions.map (·.eval s)) := rfl

theorem undecidable_of (mode : Mode) (conditions : List Condition) (s : Snapshot) :
    (of mode conditions s).undecidable = placesOf (· == none) (conditions.map (·.eval s)) := rfl

/-- Counting the conditions that hold has the result of asking for all or any of them. -/
theorem active_of (mode : Mode) (conditions : List Condition) (s : Snapshot) :
    (of mode conditions s).active = evaluate mode conditions s := by
  cases mode with
  | manual => rfl
  | system => rfl
  | all =>
      have hcount := length_placesOf_eq_length_iff (· == some true) (conditions.map (·.eval s))
      rw [List.length_map, List.all_map] at hcount
      simp only [of, evaluate]
      rw [Bool.eq_iff_iff, Bool.and_eq_true, Bool.and_eq_true, beq_iff_eq, hcount]
      rfl
  | any =>
      simp only [of, evaluate]
      rw [isEmpty_placesOf, Bool.not_not, List.any_map]
      rfl

/-- **The report agrees with the plain evaluation.** Under every mode and for all conditions, valid
    or not, both say the same about activity. The report lists in ascending order the places of the
    conditions that are known to hold and those of the conditions that cannot be decided, and no
    place in both lists. -/
theorem report_agrees (mode : Mode) (conditions : List Condition) (s : Snapshot) :
    (of mode conditions s).active = evaluate mode conditions s ∧
      (of mode conditions s).held.Pairwise (· < ·) ∧
      (of mode conditions s).undecidable.Pairwise (· < ·) ∧
      (of mode conditions s).held.Disjoint (of mode conditions s).undecidable ∧
      ∀ i,
        (i ∈ (of mode conditions s).held ↔
          ∃ c, conditions[i]? = some c ∧ c.eval s = some true) ∧
        (i ∈ (of mode conditions s).undecidable ↔
          ∃ c, conditions[i]? = some c ∧ c.eval s = none) := by
  rw [held_of, undecidable_of]
  refine ⟨active_of mode conditions s, pairwise_placesOf _ _, pairwise_placesOf _ _,
    disjoint_placesOf ?_, fun i => ⟨mem_placesOf_map, mem_placesOf_map⟩⟩
  intro result hheld
  rw [beq_iff_eq.1 hheld]
  rfl

end Report

end NetActivation
