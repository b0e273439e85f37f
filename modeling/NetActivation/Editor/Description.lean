import NetActivation.Editor.Basic
import NetActivation.Text.Printable

set_option autoImplicit false

/-! # The description of an editor

A one-line account of an editor's state for people who look for faults. A name stands between quotes
in it, and every character that would not be seen as itself is escaped: a few by a letter, the
others by their number. -/

namespace NetActivation

/-! ## Names -/

namespace Text

/-- A character as it is written between the quotes. -/
def escapedChar (c : Char) : List Char :=
  if c.toNat = 0 then ['\\', '0']
  else if c = '\t' then ['\\', 't']
  else if c = '\n' then ['\\', 'n']
  else if c = '\r' then ['\\', 'r']
  else if c = '"' || c = '\\' then ['\\', c]
  else if isPrintable c then [c]
  else ['\\', 'u', '\x7b'] ++ Nat.toDigits 16 c.toNat ++ ['\x7d']

/-- A name between quotes. -/
def escaped (name : String) : String :=
  String.ofList ('"' :: (name.toList.flatMap escapedChar ++ ['"']))

end Text

/-! ## The parts of an editor -/

/-- A mode in a description. -/
def Mode.description : Mode → String
  | .manual => "Manual"
  | .system => "System"
  | .all => "ConditionalAll"
  | .any => "ConditionalAny"

/-- A kind in a description. -/
def EntityKind.description : EntityKind → String
  | .ncu => "Ncu"
  | .location => "Location"
  | .enm => "Enm"

/-- Handles in a description. -/
def RowId.descriptions (ids : List RowId) : String :=
  "[" ++ ", ".intercalate (ids.map fun id => "RowId(" ++ id.index.repr ++ ")") ++ "]"

/-- The description of an editor. Kept rows are listed in the order in which they were released. -/
def Editor.description (e : Editor) : String :=
  let bound := match e.bound with
    | none => "None"
    | some (kind, name) => "Some((" ++ kind.description ++ ", " ++ Text.escaped name ++ "))"
  "RuleEditor \x7b mode: " ++ e.mode.description ++ ", rows: " ++ RowId.descriptions e.rows ++
    ", row_cache: " ++ RowId.descriptions e.pool.cache.reverse ++ ", bound: " ++ bound ++
    ", .. \x7d"

end NetActivation
