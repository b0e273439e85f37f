import NetActivation.Address.Network
import NetActivation.Condition.Basic
import NetActivation.Snapshot
import NetActivation.Text.Search
import NetActivation.Text.WhiteSpace

set_option autoImplicit false

/-! # Evaluation

A condition holds of a snapshot, or does not, or cannot be decided: because it is blank, because
its operator makes no sense for its field, or because its value is no address. Under a conditional
mode an undecidable condition counts as one that does not hold. -/

namespace NetActivation

/-! ## One condition -/

namespace Condition

/-- What an operator makes of the test it asserts or denies. -/
def decided (op : Operator) (found : Bool) : Option Bool := some (found != op.isNegated)

/-- A condition on an object, which is active or not. -/
def evalActive (op : Operator) (active : Bool) : Option Bool :=
  match op with
  | .is | .isNot | .includes | .excludes => decided op active
  | .inRange | .notInRange | .contains | .lacks => none

/-- A condition on the observed addresses. White space around the value does not count. -/
def evalAddress (op : Operator) (value : String) (observed : List Address) : Option Bool :=
  match op with
  | .inRange | .notInRange => do
    let network ← Network.read? (Text.trim value.toList)
    decided op (observed.any network.contains)
  | .is | .isNot => do
    let target ← Address.read? .alone (Text.trim value.toList)
    decided op (observed.contains target)
  | .includes | .excludes | .contains | .lacks => none

/-- A condition on observed texts, compared as `view` shows them. -/
def evalText (view : List Char → List Char) (op : Operator) (value : String)
    (observed : List String) : Option Bool :=
  match op with
  | .contains | .lacks =>
    decided op (observed.any fun o => Text.occursIn (view value.toList) (view o.toList))
  | .is | .isNot | .includes | .excludes =>
    decided op (observed.any fun o => view o.toList == view value.toList)
  | .inRange | .notInRange => none

/-- Whether a condition holds of a snapshot, if that can be decided. Hardware addresses are
    compared without regard to the case of their ASCII letters. -/
def eval (c : Condition) (s : Snapshot) : Option Bool :=
  match c.field with
  | .ncu => evalActive c.op (s.hasNcu c.value)
  | .enm => evalActive c.op (s.hasEnm c.value)
  | .loc => evalActive c.op (s.hasLocation c.value)
  | .ipAddress => evalAddress c.op c.value s.addresses
  | .advertisedDomain => evalText id c.op c.value s.advertisedDomains
  | .systemDomain => evalText id c.op c.value s.systemDomains
  | .essid => evalText id c.op c.value s.essids
  | .bssid => evalText Text.foldCase c.op c.value s.bssids
  | .blank => none

/-- Whether a condition is known to hold. -/
def holds (s : Snapshot) (c : Condition) : Bool := c.eval s == some true

end Condition

/-! ## Many conditions -/

/-- Whether conditions under a mode make their owner active. -/
def evaluate (mode : Mode) (conditions : List Condition) (s : Snapshot) : Bool :=
  match mode with
  | .manual => false
  | .system => true
  | .all => !conditions.isEmpty && conditions.all (Condition.holds s)
  | .any => conditions.any (Condition.holds s)

/-- The places in a list of the members that satisfy a test, in ascending order. -/
def placesOf {α : Type} (test : α → Bool) (l : List α) : List Nat :=
  (l.zipIdx.filter fun (a, _) => test a).map (·.2)

/-- An evaluation in detail: which conditions hold and which cannot be decided, by their places. How
    long it took is left out. -/
structure Report where
  mode : Mode
  active : Bool
  held : List Nat
  undecidable : List Nat
  deriving DecidableEq, Repr

namespace Report

/-- The report on conditions under a mode. -/
def of (mode : Mode) (conditions : List Condition) (s : Snapshot) : Report :=
  let results := conditions.map (·.eval s)
  let held := placesOf (· == some true) results
  let active := match mode with
    | .manual => false
    | .system => true
    | .all => !conditions.isEmpty && held.length == conditions.length
    | .any => !held.isEmpty
  ⟨mode, active, held, placesOf (· == none) results⟩

/-- Places between brackets. -/
def placesText (l : List Nat) : String :=
  "[" ++ ", ".intercalate (l.map Nat.repr) ++ "]"

/-- The text of a report. Undecidable conditions are mentioned only if there are any. -/
def text (r : Report) : String :=
  r.mode.text ++ ": active = " ++ (if r.active then "true" else "false") ++
    ", held: " ++ placesText r.held ++
    if r.undecidable.isEmpty then "" else ", undecidable: " ++ placesText r.undecidable

end Report

end NetActivation
