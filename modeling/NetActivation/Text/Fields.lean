set_option autoImplicit false

/-! # Fields between separators -/

namespace NetActivation.Text

/-- Cuts a text at every `sep`: one field more than there are separators. -/
def fields (sep : Char) : List Char → List (List Char)
  | [] => [[]]
  | c :: s =>
    if c = sep then [] :: fields sep s
    else match fields sep s with
      | [] => [[c]]
      | f :: fs => (c :: f) :: fs

/-- A text without the separator is one field. -/
theorem fields_of_not_mem {sep : Char} {s : List Char} (h : sep ∉ s) : fields sep s = [s] := by
  induction s with
  | nil => rfl
  | cons c s ih =>
    simp only [List.mem_cons, not_or] at h
    rw [fields, if_neg (Ne.symm h.1), ih h.2]

/-- A separator ends the first field. -/
theorem fields_append_cons {sep : Char} {s : List Char} (h : sep ∉ s) (t : List Char) :
    fields sep (s ++ sep :: t) = s :: fields sep t := by
  induction s with
  | nil => simp [fields]
  | cons c s ih =>
    simp only [List.mem_cons, not_or] at h
    rw [List.cons_append, fields, if_neg (Ne.symm h.1), ih h.2]

/-- Cutting undoes joining. -/
theorem fields_intercalate {sep : Char} {l : List (List Char)} (hne : l ≠ [])
    (h : ∀ f ∈ l, sep ∉ f) : fields sep ([sep].intercalate l) = l := by
  induction l with
  | nil => exact absurd rfl hne
  | cons f l ih =>
      have hf : sep ∉ f := h f List.mem_cons_self
      cases l with
      | nil => rw [List.intercalate_singleton, fields_of_not_mem hf]
      | cons g l =>
          have hl := ih (List.cons_ne_nil _ _) fun f' hf' => h f' (List.mem_cons_of_mem _ hf')
          rw [List.intercalate_cons_cons, List.append_assoc, List.singleton_append,
            fields_append_cons hf, hl]

theorem mem_intercalate {sep c : Char} {l : List (List Char)} (h : c ∈ [sep].intercalate l) :
    c = sep ∨ ∃ f ∈ l, c ∈ f := by
  induction l with
  | nil => cases h
  | cons f l ih =>
      cases l with
      | nil =>
          rw [List.intercalate_singleton] at h
          exact Or.inr ⟨f, List.mem_cons_self, h⟩
      | cons g l =>
          rw [List.intercalate_cons_cons] at h
          simp only [List.mem_append, List.mem_singleton] at h
          rcases h with (h | h) | h
          · exact Or.inr ⟨f, List.mem_cons_self, h⟩
          · exact Or.inl h
          · rcases ih h with h | ⟨f', hf', h⟩
            · exact Or.inl h
            · exact Or.inr ⟨f', List.mem_cons_of_mem _ hf', h⟩

theorem fields_ne_nil (sep : Char) (s : List Char) : fields sep s ≠ [] := by
  cases s with
  | nil => exact List.cons_ne_nil _ _
  | cons c s =>
      rw [fields]
      split
      · exact List.cons_ne_nil _ _
      · split <;> exact List.cons_ne_nil _ _

/-- Joining undoes cutting. -/
theorem intercalate_fields (sep : Char) (s : List Char) :
    [sep].intercalate (fields sep s) = s := by
  induction s with
  | nil => rfl
  | cons c s ih =>
      obtain ⟨f, fs, hfields⟩ := List.exists_cons_of_ne_nil (fields_ne_nil sep s)
      rw [hfields] at ih
      rw [fields, hfields]
      split
      · next hc =>
          rw [List.intercalate_cons_cons, ih, hc]
          rfl
      · cases fs with
        | nil =>
            rw [List.intercalate_singleton] at ih ⊢
            rw [ih]
        | cons g fs =>
            rw [List.intercalate_cons_cons] at ih ⊢
            rw [← ih]
            rfl

/-- Nothing but separators is lost in cutting. -/
theorem mem_fields {sep c : Char} {s : List Char} (h : c ∈ s) :
    c = sep ∨ ∃ f ∈ fields sep s, c ∈ f := by
  rw [← intercalate_fields sep s] at h
  exact mem_intercalate h

end NetActivation.Text
