import Mathlib.Data.List.Forall2
import Mathlib.Data.List.Nodup

set_option autoImplicit false

/-! # Lists

What is needed of lists in general: where their members stand, what is found in a list of which
something was taken away or put in its place, and relations between lists of equal length that hold
of each member and the one in its place. -/

namespace NetActivation

variable {α β : Type}

/-! ## Places -/

section Places

variable [BEq α] [LawfulBEq α] {l : List α} {a : α} {i : Nat}

theorem getElem?_of_idxOf? (h : l.idxOf? a = some i) : l[i]? = some a := by
  obtain ⟨hi, hget, -⟩ := List.idxOf?_eq_some_iff.1 h
  rw [List.getElem?_eq_getElem hi, hget]

/-- A member that occurs once is found where it stands. -/
theorem idxOf?_of_nodup (hl : l.Nodup) (h : l[i]? = some a) : l.idxOf? a = some i := by
  obtain ⟨hi, hget⟩ := List.getElem?_eq_some_iff.1 h
  refine List.idxOf?_eq_some_iff.2 ⟨hi, hget, ?_⟩
  intro j hj hsame
  rw [← hget, hl.getElem_inj_iff] at hsame
  omega

end Places

/-! ## Searches -/

theorem any_of_subset {test : α → Bool} {l l' : List α} (h : l ⊆ l')
    (hany : l.any test = true) : l'.any test = true := by
  obtain ⟨a, ha, htest⟩ := List.any_eq_true.1 hany
  exact List.any_eq_true.2 ⟨a, h ha, htest⟩

theorem find?_set_of_ne {p : α → Bool} {a : α} (ha : p a = false) {l : List α} {i : Nat}
    (hi : i < l.length) (hl : p l[i] = false) : (l.set i a).find? p = l.find? p := by
  induction l generalizing i with
  | nil => rfl
  | cons b l ih =>
      cases i with
      | zero =>
          rw [List.getElem_cons_zero] at hl
          rw [List.set_cons_zero, List.find?_cons, List.find?_cons, ha, hl]
      | succ i =>
          rw [List.getElem_cons_succ] at hl
          rw [List.set_cons_succ, List.find?_cons, List.find?_cons, ih (by simpa using hi) hl]

theorem lookup_filter_ne [BEq α] [LawfulBEq α] (l : List (α × β)) {k k' : α} (h : k ≠ k') :
    (l.filter fun (key, _) => key != k').lookup k = l.lookup k := by
  induction l with
  | nil => rfl
  | cons pair l ih =>
      obtain ⟨a, b⟩ := pair
      by_cases ha : a = k'
      · subst ha
        have hk : (k == a) = false := by simpa using h
        simpa [List.lookup_cons, hk] using ih
      · simp [List.lookup_cons, ha, ih]

/-- Where keys differ, taking away the first member with a key takes away all of them. -/
theorem eraseP_eq_filter [BEq β] [LawfulBEq β] {key : α → β} {l : List α} (h : (l.map key).Nodup)
    (k : β) : l.eraseP (key · == k) = l.filter (key · != k) := by
  induction l with
  | nil => rfl
  | cons a l ih =>
      rw [List.map_cons, List.nodup_cons] at h
      by_cases ha : key a = k
      · have hrest : ∀ b ∈ l, (key b != k) = true := by
          intro b hb
          rw [bne_iff_ne]
          rintro rfl
          exact h.1 (ha ▸ List.mem_map_of_mem hb)
        rw [List.eraseP_cons_of_pos (by simpa using ha),
          List.filter_cons_of_neg (by simpa using ha), List.filter_eq_self.2 hrest]
      · rw [List.eraseP_cons_of_neg (by simpa using ha),
          List.filter_cons_of_pos (by simpa using ha), ih h.2]

/-! ## Member by member -/

/-- A function takes lists to the same list exactly if it does so member by member. -/
theorem map_eq_map_iff {f : α → β} {l l' : List α} :
    l.map f = l'.map f ↔ List.Forall₂ (fun a b => f a = f b) l l' := by
  rw [← List.forall₂_eq_eq_eq, List.forall₂_map_left_iff, List.forall₂_map_right_iff]

theorem forall₂_trans {R : α → α → Prop} (htrans : ∀ a b c, R a b → R b c → R a c)
    {l l' l'' : List α} (h : List.Forall₂ R l l') (h' : List.Forall₂ R l' l'') :
    List.Forall₂ R l l'' := by
  induction h generalizing l'' with
  | nil =>
      cases h'
      exact .nil
  | cons hp _ ih =>
      cases h' with
      | cons hq hqs => exact .cons (htrans _ _ _ hp hq) (ih hqs)

end NetActivation
