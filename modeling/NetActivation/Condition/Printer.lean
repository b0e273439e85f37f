import NetActivation.Condition.Basic
import NetActivation.Text.Quoted
import NetActivation.Text.WhiteSpace

set_option autoImplicit false

/-! # The text of a condition

A condition is written as its field's word, its operator's word and its value, one space apart. A
value that is empty or holds white space, a quote, a backslash or a number sign is written as a
quoted literal. -/

namespace NetActivation

/-- How a field is shown: its word, or a sign that there is none. -/
def Field.text (f : Field) : String := f.keyword?.getD "<none>"

theorem Field.keyword?_eq_some_text {f : Field} (h : f ≠ .blank) : f.keyword? = some f.text := by
  cases f <;> first | rfl | exact absurd rfl h

namespace Condition

/-- Whether a character makes a value need quotes. -/
def needsQuotes (c : Char) : Bool := Text.isWhite c || c == '"' || c == '\\' || c == '#'

/-- A value as it is written: bare if that is safe, else as a literal. -/
def valueText (value : List Char) : List Char :=
  if value.isEmpty || value.any needsQuotes then Text.Quoted.quote value else value

/-- A value is written as a literal, or bare and is then not empty and without a character that
    needs quotes. -/
theorem valueText_cases (value : List Char) :
    valueText value = Text.Quoted.quote value ∨
      (valueText value = value ∧ value ≠ [] ∧ ∀ c ∈ value, needsQuotes c = false) := by
  rw [valueText]
  split
  · exact Or.inl rfl
  · next h =>
      simp only [Bool.or_eq_true, List.isEmpty_iff, not_or, Bool.not_eq_true,
        List.any_eq_false] at h
      exact Or.inr ⟨rfl, h⟩

/-- The text of a condition. -/
def text (c : Condition) : String :=
  String.ofList (c.field.text.toList ++ ' ' :: c.op.keyword.toList ++
    ' ' :: valueText c.value.toList)

end Condition

end NetActivation
