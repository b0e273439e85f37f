import NetActivation.ConditionSet
import NetActivation.Proofs.ConditionText

set_option autoImplicit false

/-! # Valid condition sets and their texts

`build` makes exactly the valid sets, and reading the texts of a valid set gives that set. -/

namespace NetActivation.ConditionSet

/-! ## Building -/

/-- **`build` makes exactly the valid sets.** -/
theorem build_eq_ok_iff {mode : Mode} {conditions : List Condition} {set : ConditionSet} :
    build mode conditions = .ok set ↔ set = ⟨mode, conditions⟩ ∧ set.Valid := by
  rw [build]
  split
  · next i hi =>
      constructor
      · intro h
        exact absurd h (by simp)
      · rintro ⟨rfl, hblank, -⟩
        rw [List.findIdx?_eq_none_iff.2 hblank] at hi
        exact absurd hi (by simp)
  · next hnone =>
      have hblank := List.findIdx?_eq_none_iff.1 hnone
      split
      · next hrules =>
          simp only [Bool.and_eq_true, List.isEmpty_iff] at hrules
          constructor
          · intro h
            exact absurd h (by simp)
          · rintro ⟨rfl, -, hne⟩
            exact absurd hrules.2 (hne hrules.1)
      · next hrules =>
          simp only [Bool.and_eq_true, List.isEmpty_iff, not_and] at hrules
          constructor
          · intro h
            simp only [Except.ok.injEq] at h
            exact ⟨h.symm, h ▸ ⟨hblank, hrules⟩⟩
          · rintro ⟨rfl, -⟩
            rfl

theorem build_self_iff {set : ConditionSet} :
    build set.mode set.conditions = .ok set ↔ set.Valid := by
  rw [build_eq_ok_iff]
  exact ⟨fun h => h.2, fun h => ⟨rfl, h⟩⟩

/-! ## Texts -/

theorem ne_blank_of_isBlank {c : Condition} (h : c.isBlank = false) : c.field ≠ .blank := by
  intro hblank
  simp [Condition.isBlank, hblank] at h

/-- The texts of conditions that all have a field read as these conditions. -/
theorem parseAll_texts {conditions : List Condition} (h : ∀ c ∈ conditions, c.isBlank = false) :
    parseAll (conditions.map Condition.text) = .ok conditions := by
  induction conditions with
  | nil => rfl
  | cons c cs ih =>
      have hc := Condition.parse_text_of_ne_blank (ne_blank_of_isBlank (h c (by simp)))
      have hcs := ih fun d hd => h d (by simp [hd])
      simp only [List.map_cons, parseAll, hc, hcs]
      rfl

/-- The texts of a valid set make that set again. -/
theorem ofTexts_texts {set : ConditionSet} (h : set.Valid) :
    ofTexts set.mode set.texts = .ok set := by
  rw [ofTexts, texts, parseAll_texts h.1]
  simp only [build_self_iff.2 h]
  rfl

/-- Texts make nothing but valid sets. -/
theorem valid_of_ofTexts {mode : Mode} {texts : List String} {set : ConditionSet}
    (h : ofTexts mode texts = .ok set) : set.Valid := by
  rw [ofTexts] at h
  split at h
  · exact absurd h (by simp)
  · next conditions _ =>
      cases hb : build mode conditions with
      | error e =>
          rw [hb] at h
          cases h
      | ok built =>
          rw [hb] at h
          cases h
          exact (build_eq_ok_iff.1 hb).2

end NetActivation.ConditionSet
