import NetActivation.Condition.Basic
import NetActivation.Text.Position
import NetActivation.Text.Quoted
import NetActivation.Text.WhiteSpace

set_option autoImplicit false

/-! # Reading a condition

A condition is a field's word, an operator's word and a value, with white space around them as one
likes. A word is the longest run of ASCII letters, digits and hyphens. A value is a quoted literal
or a bare run of characters other than white space and quotes. What does not fit is reported with
its place in the text and with what was expected there. -/

namespace NetActivation

/-- What a reader of conditions looked for. -/
inductive Expectation where
  | field
  | operator
  | value
  deriving DecidableEq, Repr

def Expectation.text : Expectation → String
  | .field => "condition field"
  | .operator => "condition operator"
  | .value => "value"

/-- Why a text is no condition: the place, in bytes, at which reading failed, and what was
    expected there. Nothing was expected behind the value. -/
structure ParseError where
  input : String
  offset : Nat
  expected : Option Expectation
  deriving DecidableEq, Repr

/-- The report of an error: the text, a picture of the place, and what was expected there. -/
def ParseError.message (e : ParseError) : String :=
  "invalid condition '" ++ e.input ++ "': " ++
    String.ofList (Text.picture e.input.toList e.offset) ++ "\n" ++
    match e.expected with
    | some x => "expected " ++ x.text
    | none => ""

namespace Condition

/-! ## Words and values -/

/-- A reading that failed: the text from the place of the failure on, and what was expected. -/
structure Failure where
  rest : List Char
  expected : Option Expectation
  deriving DecidableEq, Repr

/-- Whether a character can stand in a word. -/
def isWordChar (c : Char) : Bool := c.isAlphanum || c == '-'

/-- Reads the word at the start of a text and looks it up. -/
def readWord {α : Type} (lookUp : String → Option α) (expected : Expectation) (s : List Char) :
    Except Failure (α × List Char) :=
  match lookUp (String.ofList (s.takeWhile isWordChar)) with
  | some a => .ok (a, s.dropWhile isWordChar)
  | none => .error ⟨s, some expected⟩

/-- Whether a character can stand in a bare value. -/
def isBare (c : Char) : Bool := !Text.isWhite c && c != '"'

/-- Reads the value at the start of a text. A literal that does not end fails at the end of the
    text. -/
def readValue : List Char → Except Failure (List Char × List Char)
  | '"' :: body =>
    match Text.Quoted.readBody body with
    | some r => .ok r
    | none => .error ⟨[], some .value⟩
  | s =>
    match s.takeWhile isBare with
    | [] => .error ⟨s, some .value⟩
    | value => .ok (value, s.dropWhile isBare)

/-! ## Conditions -/

/-- Reads a whole text as a condition. -/
def read (s : List Char) : Except Failure Condition := do
  let (field, s) ← readWord Field.ofKeyword? .field (Text.dropWhite s)
  let (op, s) ← readWord Operator.ofKeyword? .operator (Text.dropWhite s)
  let (value, s) ← readValue (Text.dropWhite s)
  match Text.dropWhite s with
  | [] => .ok ⟨field, op, String.ofList value⟩
  | rest => .error ⟨rest, none⟩

/-- The error that a failed reading of `input` amounts to. -/
def Failure.toParseError (input : String) (f : Failure) : ParseError :=
  ⟨input, Text.byteLength input.toList - Text.byteLength f.rest, f.expected⟩

/-- The condition that a text stands for. -/
def parse (input : String) : Except ParseError Condition :=
  (read input.toList).mapError (Failure.toParseError input)

end Condition

end NetActivation
