set_option autoImplicit false

/-! # Searching in a text -/

namespace NetActivation.Text

/-- Whether a text stands somewhere inside another. -/
def occursIn (needle : List Char) : List Char → Bool
  | [] => needle.isEmpty
  | c :: s => needle.isPrefixOf (c :: s) || occursIn needle s

/-- A text with its ASCII capitals made small. -/
def foldCase (s : List Char) : List Char := s.map Char.toLower

/-- A text occurs in another exactly if the other can be cut in front of it and behind it. -/
theorem occursIn_iff (needle s : List Char) :
    occursIn needle s = true ↔ ∃ p q, s = p ++ needle ++ q := by
  induction s with
  | nil =>
    constructor
    · intro h
      exact ⟨[], [], by simpa [occursIn] using h⟩
    · rintro ⟨p, q, h⟩
      simp at h
      simp [occursIn, h.2.1]
  | cons c s ih =>
    simp only [occursIn, Bool.or_eq_true, ih, List.isPrefixOf_iff_prefix]
    constructor
    · rintro (⟨q, h⟩ | ⟨p, q, h⟩)
      · exact ⟨[], q, by simp [h]⟩
      · exact ⟨c :: p, q, by simp [h]⟩
    · rintro ⟨p, q, h⟩
      cases p with
      | nil => exact Or.inl ⟨q, by simpa using h.symm⟩
      | cons d p =>
        simp only [List.cons_append, List.cons.injEq] at h
        exact Or.inr ⟨p, q, h.2⟩

theorem occursIn_toList_iff {needle s : String} :
    occursIn needle.toList s.toList = true ↔ ∃ p q, s = p ++ needle ++ q := by
  rw [occursIn_iff]
  constructor
  · rintro ⟨p, q, h⟩
    refine ⟨String.ofList p, String.ofList q, String.toList_inj.1 ?_⟩
    simpa using h
  · rintro ⟨p, q, rfl⟩
    exact ⟨p.toList, q.toList, by simp⟩

end NetActivation.Text
