import NetActivation.Toml.Token
import NetActivation.Toml.Value

set_option autoImplicit false

/-! # TOML documents

A document is a table, given by lines that add a value to the table of the heading above them. Of
the values that TOML knows, those are read that a configuration has a use for: integers, texts,
arrays and tables. Arrays of tables have no use either. -/

namespace NetActivation.Toml

/-! ## Values -/

/-- Skips blanks, line feeds and comments, at most `fuel` lines of them. -/
def skipLines : Nat → List Char → List Char
  | 0, s => s
  | fuel + 1, s =>
    match skipComment (skipBlanks s) with
    | '\n' :: s => skipLines fuel s
    | s => s

mutual

/-- Reads a value. The fuel bounds the depth of the reading. -/
def readValue : Nat → List Char → Option (Value × List Char)
  | 0, _ => none
  | fuel + 1, s =>
    match s with
    | '[' :: s => (readMembers fuel (skipLines s.length s)).map fun (l, r) => (.array l, r)
    | '\x7b' :: s =>
      match skipBlanks s with
      | '\x7d' :: r => some (.table .inline [], r)
      | s => (readPairs fuel [] s).map fun (es, r) => (.table .inline es, r)
    | '"' :: _ => (readText s).map fun (t, r) => (.text (String.ofList t), r)
    | '\'' :: _ => (readText s).map fun (t, r) => (.text (String.ofList t), r)
    | s => (readInteger s).map fun (n, r) => (.integer n, r)

/-- Reads the members of an array and its closing bracket. A comma may follow the last member. -/
def readMembers : Nat → List Char → Option (List Value × List Char)
  | 0, _ => none
  | fuel + 1, s =>
    match s with
    | ']' :: s => some ([], s)
    | s => do
      let (v, s) ← readValue fuel s
      match skipLines s.length s with
      | ',' :: s => do
        let (l, s) ← readMembers fuel (skipLines s.length s)
        return (v :: l, s)
      | ']' :: s => return ([v], s)
      | _ => none

/-- Reads the entries of an inline table and its closing brace. No comma follows the last entry. -/
def readPairs : Nat → Entries → List Char → Option (Entries × List Char)
  | 0, _, _ => none
  | fuel + 1, es, s => do
    let (way, key, v, s) ← readPair fuel s
    let es ← es.insertDotted way key v
    match skipBlanks s with
    | ',' :: s => readPairs fuel es (skipBlanks s)
    | '\x7d' :: s => return (es, s)
    | _ => none

/-- Reads a key, an equals sign and a value: all but the last part of the key, its last part, the
    value, and the rest of the text. -/
def readPair : Nat → List Char → Option (List String × String × Value × List Char)
  | 0, _ => none
  | fuel + 1, s => do
    let (parts, s) ← readKey s
    let key ← parts.getLast?
    match s with
    | '=' :: s => do
      let (v, s) ← readValue fuel (skipBlanks s)
      return (parts.dropLast, key, v, s)
    | _ => none

end

/-- Fuel enough to read any value at the start of a text. -/
def fuelFor (s : List Char) : Nat := 3 * s.length + 3

/-! ## Lines -/

/-- What has been read of a document: its entries, and the key of the heading above. -/
structure Progress where
  entries : Entries := []
  heading : List String := []

/-- Reads a heading from behind its bracket, with the rest of its line. -/
def readHeading (p : Progress) (s : List Char) : Option (Progress × List Char) := do
  let (key, s) ← readKey (skipBlanks s)
  match s with
  | ']' :: s => do return (⟨← p.entries.insertTable key, key⟩, ← endLine s)
  | _ => none

/-- Reads a line that gives a value. -/
def readAssignment (p : Progress) (s : List Char) : Option (Progress × List Char) := do
  let (way, key, v, s) ← readPair (fuelFor s) s
  let entries ← p.entries.modifyAt (fun es => es.insertDotted way key v) p.heading
  return ({ p with entries }, ← endLine s)

/-- Reads the lines of a document, at most `fuel` of them. -/
def readLines : Nat → Progress → List Char → Option Entries
  | 0, _, _ => none
  | fuel + 1, p, s =>
    match skipComment (skipBlanks s) with
    | [] => some p.entries
    | '\n' :: s => readLines fuel p s
    | '[' :: s => do
      let (p, s) ← readHeading p s
      readLines fuel p s
    | s => do
      let (p, s) ← readAssignment p s
      readLines fuel p s

/-- A text without a byte order mark at its start. -/
def skipMark : List Char → List Char
  | '\ufeff' :: s => s
  | s => s

/-- The table that a document gives. -/
def parse? (s : String) : Option Entries :=
  let s := unifyLines (skipMark s.toList)
  -- Every line takes at least one character, except for the last.
  readLines (s.length + 1) {} s

end NetActivation.Toml
