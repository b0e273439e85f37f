import NetActivation.Codec.Sequence
import NetActivation.Editor.Row
import NetActivation.Toml.Document

set_option autoImplicit false

/-! # Configuration files

The configuration of an editor as a TOML document. Keys that are missing take their defaults, and
keys that mean nothing are refused. -/

namespace NetActivation

/-- Why no configuration could be loaded. -/
inductive ConfigError where
  /-- the file could not be read as text -/
  | unreadable
  /-- the text gives no configuration -/
  | malformed
  deriving DecidableEq, Repr

namespace EditorConfig

/-- The policy with a name. -/
def policyOfName? (name : String) : Option BssidPolicy :=
  if name = "like-essid" then some .likeEssid
  else if name = "unrestricted" then some .unrestricted
  else none

/-- Whether a value is an array or a table that holds nothing. -/
def isEmptyValue : Toml.Value → Bool
  | .array [] | .table _ [] => true
  | _ => false

/-- The policy that a value gives: by its name, or by a table with nothing under that name. -/
def policyOf? : Toml.Value → Option BssidPolicy
  | .text name => policyOfName? name
  | .table _ [(name, v)] => if isEmptyValue v then policyOfName? name else none
  | _ => none

/-- The number of rows that a value gives. -/
def limitOf? : Toml.Value → Option Nat
  | .integer (.ofNat n) => some n
  | _ => none

/-- Takes over one entry of a document. -/
def withEntry? (c : EditorConfig) (key : String) (v : Toml.Value) : Option EditorConfig :=
  if key = "row-cache-limit" then (limitOf? v).map fun n => { c with rowCacheLimit := n }
  else if key = "bssid-policy" then (policyOf? v).map fun p => { c with bssidPolicy := p }
  else none

/-- The configuration that a document gives. -/
def ofText (s : String) : Except ConfigError EditorConfig :=
  match Toml.parse? s with
  | none => .error .malformed
  | some entries =>
    match entries.foldlM (fun c (key, v) => c.withEntry? key v) ({} : EditorConfig) with
    | some c => .ok c
    | none => .error .malformed

/-- The configuration that a file gives, if there is a file. -/
def ofFile (file : Option Codec.Bytes) : Except ConfigError EditorConfig :=
  match file.bind Codec.ofUtf8? with
  | some s => ofText s
  | none => .error .unreadable

end EditorConfig

end NetActivation
