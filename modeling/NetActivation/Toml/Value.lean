set_option autoImplicit false

/-! # TOML values and tables

The values of a configuration document: integers, texts, arrays and tables. A table remembers how
it came about, because that decides whether more may be added to it. -/

namespace NetActivation.Toml

/-- How a table came about. -/
inductive Origin where
  /-- it was written as a value, and is complete -/
  | inline
  /-- it has a heading of its own -/
  | heading
  /-- it lies on the way to the table of a heading -/
  | implied
  /-- it lies on the way to a value with a dotted key -/
  | dotted
  deriving DecidableEq, Repr

/-- A value. The keys of a table differ. -/
inductive Value where
  | integer (n : Int)
  | text (s : String)
  | array (members : List Value)
  | table (origin : Origin) (entries : List (String × Value))
  deriving Repr

/-- What a table holds, by its keys. -/
abbrev Entries : Type := List (String × Value)

namespace Entries

/-- The entries with another value in the place of the one with a key. -/
def replace (es : Entries) (key : String) (v : Value) : Entries :=
  es.map fun (k, old) => if k = key then (k, v) else (k, old)

/-- Adds a value with a dotted key, of which `way` is all but the last part. The way may lead
    through implied tables, but has to end in one that was made by a dotted key. -/
def insertDotted (es : Entries) (way : List String) (key : String) (v : Value) : Option Entries :=
  match way with
  | [] => if (es.lookup key).isSome then none else some (es ++ [(key, v)])
  | part :: way =>
    match es.lookup part with
    | none => do return es ++ [(part, .table .dotted (← insertDotted [] way key v))]
    | some (.table origin inner) =>
      if origin = .dotted ∨ (origin = .implied ∧ way ≠ []) then do
        return es.replace part (.table origin (← insertDotted inner way key v))
      else none
    | some _ => none

/-- Adds the table of a heading. A table may have one heading, and none if a dotted key made it. -/
def insertTable (es : Entries) : List String → Option Entries
  | [] => none
  | [key] =>
    match es.lookup key with
    | none => some (es ++ [(key, .table .heading [])])
    | some (.table .implied inner) => some (es.replace key (.table .heading inner))
    | some _ => none
  | part :: way =>
    match es.lookup part with
    | none => do return es ++ [(part, .table .implied (← insertTable [] way))]
    | some (.table .inline _) => none
    | some (.table origin inner) => do
      return es.replace part (.table origin (← insertTable inner way))
    | some _ => none

/-- Changes the entries of the table at the end of a way. -/
def modifyAt (es : Entries) (f : Entries → Option Entries) : List String → Option Entries
  | [] => f es
  | part :: way =>
    match es.lookup part with
    | some (.table origin inner) => do
      return es.replace part (.table origin (← modifyAt inner f way))
    | _ => none

end Entries

end NetActivation.Toml
