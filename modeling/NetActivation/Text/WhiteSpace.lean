set_option autoImplicit false

/-! # White space

The characters that separate the words of a condition and that are trimmed from the ends of a
value: the 25 characters with the Unicode property White_Space. -/

namespace NetActivation.Text

/-- Whether a character has the Unicode property White_Space. -/
def isWhite (c : Char) : Bool :=
  let n := c.toNat
  (0x9 ≤ n && n ≤ 0xD) || n == 0x20 || n == 0x85 || n == 0xA0 || n == 0x1680 ||
    (0x2000 ≤ n && n ≤ 0x200A) || n == 0x2028 || n == 0x2029 || n == 0x202F || n == 0x205F ||
    n == 0x3000

/-- A text that holds nothing but white space, if anything. -/
def AllWhite (s : List Char) : Prop := ∀ c ∈ s, isWhite c = true

/-- A text without its leading white space. -/
def dropWhite (s : List Char) : List Char := s.dropWhile isWhite

/-- A text without its leading and its trailing white space. -/
def trim (s : List Char) : List Char := (dropWhite (dropWhite s).reverse).reverse

/-- Nothing but white space is dropped. -/
theorem exists_allWhite_append (s : List Char) : ∃ w, AllWhite w ∧ s = w ++ dropWhite s := by
  refine ⟨s.takeWhile isWhite, ?_, List.takeWhile_append_dropWhile.symm⟩
  intro c hc
  exact List.all_eq_true.1 List.all_takeWhile c hc

theorem allWhite_reverse_iff {s : List Char} : AllWhite s.reverse ↔ AllWhite s := by
  simp only [AllWhite, List.mem_reverse]

theorem dropWhite_eq_nil_iff {s : List Char} : dropWhite s = [] ↔ AllWhite s := by
  constructor
  · intro h
    obtain ⟨w, hw, hs⟩ := exists_allWhite_append s
    rwa [hs, h, List.append_nil]
  · intro h
    rw [dropWhite, ← List.append_nil s, List.dropWhile_append_of_pos h]
    rfl

theorem allWhite_dropWhite_iff {s : List Char} : AllWhite (dropWhite s) ↔ AllWhite s := by
  obtain ⟨w, hw, hs⟩ := exists_allWhite_append s
  constructor
  · intro h c hc
    rw [hs] at hc
    rcases List.mem_append.1 hc with hc | hc
    · exact hw c hc
    · exact h c hc
  · intro h c hc
    exact h c (hs ▸ List.mem_append_right w hc)

/-- Nothing is left of a text without its white space exactly if it holds nothing else. -/
theorem trim_eq_nil_iff {s : List Char} : trim s = [] ↔ AllWhite s := by
  rw [trim, List.reverse_eq_nil_iff, dropWhite_eq_nil_iff, allWhite_reverse_iff,
    allWhite_dropWhite_iff]

theorem dropWhite_append {w s : List Char} (hw : AllWhite w)
    (hs : ∀ c ∈ s.head?, isWhite c = false) : dropWhite (w ++ s) = s := by
  rw [dropWhite, List.dropWhile_append_of_pos hw]
  cases s with
  | nil => rfl
  | cons c s => rw [List.dropWhile_cons_of_neg (by simp [hs c rfl])]

/-- White space around a text that starts and ends with something else is trimmed. -/
theorem trim_append {before s behind : List Char} (hbefore : AllWhite before)
    (hbehind : AllWhite behind) (hfirst : ∀ c ∈ s.head?, isWhite c = false)
    (hlast : ∀ c ∈ s.getLast?, isWhite c = false) : trim (before ++ (s ++ behind)) = s := by
  cases s with
  | nil =>
      rw [List.nil_append, trim_eq_nil_iff]
      intro c hc
      exact (List.mem_append.1 hc).elim (hbefore c) (hbehind c)
  | cons c s =>
      have hend : ∀ d ∈ (c :: s).reverse.head?, isWhite d = false := by
        rwa [List.head?_reverse]
      have hdrop : dropWhite (before ++ (c :: s ++ behind)) = c :: s ++ behind :=
        dropWhite_append hbefore hfirst
      rw [trim, hdrop, List.reverse_append,
        dropWhite_append (allWhite_reverse_iff.2 hbehind) hend, List.reverse_reverse]

theorem not_isWhite_of_mem_head?_dropWhite {s : List Char} :
    ∀ c ∈ (dropWhite s).head?, isWhite c = false := by
  intro c hc
  have hfirst := List.head?_dropWhile_not isWhite s
  rw [dropWhite] at hc
  rw [Option.mem_def.1 hc] at hfirst
  exact hfirst

/-- Once the leading white space is dropped, what trimming takes away is at the end. -/
theorem exists_dropWhite_eq_trim_append (s : List Char) :
    ∃ behind, AllWhite behind ∧ dropWhite s = trim s ++ behind := by
  obtain ⟨behind, hbehind, hdrop⟩ := exists_allWhite_append (dropWhite s).reverse
  refine ⟨behind.reverse, allWhite_reverse_iff.2 hbehind, ?_⟩
  rw [trim, ← List.reverse_append, ← hdrop, List.reverse_reverse]

/-- A trimmed text does not start with white space. -/
theorem not_isWhite_of_mem_head?_trim {s : List Char} :
    ∀ c ∈ (trim s).head?, isWhite c = false := by
  obtain ⟨behind, -, hdrop⟩ := exists_dropWhite_eq_trim_append s
  intro c hc
  apply not_isWhite_of_mem_head?_dropWhite (s := s)
  rw [hdrop, List.head?_append, Option.mem_def.1 hc]
  rfl

/-- Nor does it end with any. -/
theorem not_isWhite_of_mem_getLast?_trim {s : List Char} :
    ∀ c ∈ (trim s).getLast?, isWhite c = false := by
  rw [trim, List.getLast?_reverse]
  exact not_isWhite_of_mem_head?_dropWhite

/-- White space around a text is trimmed, whatever white space the text has itself. -/
theorem trim_surround {before behind : List Char} (hbefore : AllWhite before)
    (hbehind : AllWhite behind) (s : List Char) : trim (before ++ (s ++ behind)) = trim s := by
  obtain ⟨front, hfront, hs⟩ := exists_allWhite_append s
  obtain ⟨back, hback, hdrop⟩ := exists_dropWhite_eq_trim_append s
  rw [hdrop] at hs
  have hparts : before ++ (s ++ behind) = (before ++ front) ++ (trim s ++ (back ++ behind)) :=
    calc before ++ (s ++ behind)
        = before ++ (front ++ (trim s ++ back) ++ behind) := by rw [← hs]
      _ = (before ++ front) ++ (trim s ++ (back ++ behind)) := by simp only [List.append_assoc]
  rw [hparts]
  refine trim_append ?_ ?_ not_isWhite_of_mem_head?_trim not_isWhite_of_mem_getLast?_trim
  · exact List.forall_mem_append.2 ⟨hbefore, hfront⟩
  · exact List.forall_mem_append.2 ⟨hback, hbehind⟩

end NetActivation.Text
