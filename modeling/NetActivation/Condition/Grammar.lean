import NetActivation.Condition.Reader

set_option autoImplicit false

/-! # The grammar of conditions

Which texts stand for a condition, said without a reader: a field's word, an operator's word and a
value, with white space between and around them. Words are not delimited by themselves, so there
has to be white space behind the field's word, and behind the operator's word unless the value
starts with a character that no word can have.

A text that stands for no condition is cut in two where it goes wrong: what stands in front of the
cut is the start of a condition, or a whole one, and what stands behind it does not go on with
it. -/

namespace NetActivation

namespace Condition

/-! ## Texts that stand for a condition -/

/-- The ways to write a value: bare, if it is not empty and holds neither white space nor quotes, or
    between quotes. -/
inductive Spells : List Char → List Char → Prop where
  | bare {value : List Char} (hne : value ≠ [])
      (hbare : ∀ c ∈ value, Text.isWhite c = false ∧ c ≠ '"') : Spells value value
  | quoted {body value : List Char} (h : Text.Quoted.Decodes body value) :
      Spells ('"' :: (body ++ ['"'])) value

/-- The texts that stand for a condition, part by part. -/
inductive Derives : List Char → Condition → Prop where
  | parts {w₀ w₁ w₂ w₃ spelling : List Char} {word : String} {c : Condition}
      (hfield : c.field.keyword? = some word) (hvalue : Spells spelling c.value.toList)
      (h₀ : Text.AllWhite w₀) (h₁ : Text.AllWhite w₁) (h₂ : Text.AllWhite w₂)
      (h₃ : Text.AllWhite w₃) (hfieldEnds : w₁ ≠ [])
      (hopEnds : w₂ ≠ [] ∨ ∀ first ∈ spelling.head?, isWordChar first = false) :
      Derives (w₀ ++ (word.toList ++ (w₁ ++ (c.op.keyword.toList ++ (w₂ ++ (spelling ++ w₃)))))) c

/-! ## Texts that stand for none -/

/-- The word at the start of a text: its longest run of characters that can stand in a word. -/
def wordAt (s : List Char) : String := String.ofList (s.takeWhile isWordChar)

/-- The ways to go wrong: what stands in front of the place, what stands behind it, and what was
    expected there. -/
inductive Fails : List Char → List Char → Option Expectation → Prop where
  /-- the first word is not that of a field -/
  | field {w₀ rest : List Char} (hword : ∀ f : Field, f.keyword? ≠ some (wordAt rest))
      (h₀ : Text.AllWhite w₀) (hstart : ∀ first ∈ rest.head?, Text.isWhite first = false) :
      Fails w₀ rest (some .field)
  /-- the second word is not that of an operator -/
  | operator {w₀ w₁ rest : List Char} {word : String} {f : Field}
      (hfield : f.keyword? = some word) (hword : ∀ op : Operator, op.keyword ≠ wordAt rest)
      (h₀ : Text.AllWhite w₀) (h₁ : Text.AllWhite w₁)
      (hfieldEnds : ∀ first ∈ (w₁ ++ rest).head?, isWordChar first = false)
      (hstart : ∀ first ∈ rest.head?, Text.isWhite first = false) :
      Fails (w₀ ++ (word.toList ++ w₁)) rest (some .operator)
  /-- nothing stands behind the operator's word -/
  | noValue {w₀ w₁ w₂ : List Char} {word : String} {f : Field} (op : Operator)
      (hfield : f.keyword? = some word) (h₀ : Text.AllWhite w₀) (h₁ : Text.AllWhite w₁)
      (h₂ : Text.AllWhite w₂) (hfieldEnds : w₁ ≠ []) :
      Fails (w₀ ++ (word.toList ++ (w₁ ++ (op.keyword.toList ++ w₂)))) [] (some .value)
  /-- the value is a literal that does not end -/
  | unclosed {w₀ w₁ w₂ body : List Char} {word : String} {f : Field} (op : Operator)
      (hfield : f.keyword? = some word) (hbody : Text.Quoted.Unclosed body)
      (h₀ : Text.AllWhite w₀) (h₁ : Text.AllWhite w₁) (h₂ : Text.AllWhite w₂)
      (hfieldEnds : w₁ ≠ []) :
      Fails (w₀ ++ (word.toList ++ (w₁ ++ (op.keyword.toList ++ (w₂ ++ '"' :: body))))) []
        (some .value)
  /-- something stands behind the value and does not go on with it -/
  | leftover {before rest : List Char} {c : Condition} (hbefore : Derives before c)
      (hrest : rest ≠ []) (hstart : ∀ first ∈ rest.head?, Text.isWhite first = false)
      (hvalueEnds : ∀ last ∈ before.getLast?, isBare last = true →
        ∀ first ∈ rest.head?, isBare first = false) :
      Fails before rest none

end Condition

/-- An error marks the place between two parts of a text: the first part takes as many bytes as the
    error says, and between the two the text goes wrong as the error says. -/
structure ParseError.Marks (e : ParseError) (before rest : String) : Prop where
  input_eq : e.input = before ++ rest
  offset_eq : e.offset = before.utf8ByteSize
  fails : Condition.Fails before.toList rest.toList e.expected

end NetActivation
