set_option autoImplicit false

/-! # Conditions and modes

A condition tests one thing about the network: a field names the subject, an operator says how it
is compared, and a value says with what. The blank field stands for a condition whose subject has
not been chosen; it has no keyword and so no written form that can be read. A mode says whether
conditions decide, and how many of them have to hold. -/

namespace NetActivation

/-! ## Fields -/

/-- The subject of a condition. -/
inductive Field where
  /-- an active interface -/
  | ncu
  /-- the active location -/
  | loc
  /-- an active auxiliary service -/
  | enm
  /-- an address assigned to an interface -/
  | ipAddress
  /-- a domain that the network advertises -/
  | advertisedDomain
  /-- the domain of the system -/
  | systemDomain
  /-- the name of a wireless network in use -/
  | essid
  /-- the hardware address of an access point in use -/
  | bssid
  /-- no subject chosen -/
  | blank
  deriving DecidableEq, Repr, Inhabited

namespace Field

/-- The fields that can be chosen, in the order in which they are offered. -/
def all : List Field :=
  [.ncu, .loc, .enm, .ipAddress, .advertisedDomain, .systemDomain, .essid, .bssid]

/-- The word for a field in the text of a condition. -/
def keyword? : Field → Option String
  | .ncu => some "ncu"
  | .loc => some "loc"
  | .enm => some "enm"
  | .ipAddress => some "ip-address"
  | .advertisedDomain => some "advertised-domain"
  | .systemDomain => some "system-domain"
  | .essid => some "essid"
  | .bssid => some "bssid"
  | .blank => none

/-- The field for a word. -/
def ofKeyword? (word : String) : Option Field := all.find? (·.keyword? == some word)

end Field

/-! ## Operators -/

/-- How a condition compares. -/
inductive Operator where
  | is
  | isNot
  | includes
  | excludes
  | inRange
  | notInRange
  | contains
  | lacks
  deriving DecidableEq, Repr, Inhabited

namespace Operator

/-- Every operator, in the order in which they are offered. -/
def all : List Operator :=
  [.is, .isNot, .includes, .excludes, .inRange, .notInRange, .contains, .lacks]

/-- The word for an operator in the text of a condition. -/
def keyword : Operator → String
  | .is => "is"
  | .isNot => "is-not"
  | .includes => "include"
  | .excludes => "does-not-include"
  | .inRange => "is-in-range"
  | .notInRange => "is-not-in-range"
  | .contains => "contains"
  | .lacks => "does-not-contain"

/-- The operator for a word. -/
def ofKeyword? (word : String) : Option Operator := all.find? (·.keyword == word)

/-- Whether an operator denies what its partner asserts. -/
def isNegated : Operator → Bool
  | .isNot | .excludes | .notInRange | .lacks => true
  | .is | .includes | .inRange | .contains => false

/-- The operator that denies what this one asserts, and the other way round. -/
def partner : Operator → Operator
  | .is => .isNot
  | .isNot => .is
  | .includes => .excludes
  | .excludes => .includes
  | .inRange => .notInRange
  | .notInRange => .inRange
  | .contains => .lacks
  | .lacks => .contains

end Operator

/-! ## Conditions -/

/-- A test of the network. What counts as a sensible value depends on the field; any text can be
    held. -/
structure Condition where
  field : Field
  op : Operator
  value : String
  deriving DecidableEq, Repr

namespace Condition

/-- The condition of a row in which nothing was chosen. -/
def blank : Condition := ⟨.blank, .is, ""⟩

instance : Inhabited Condition := ⟨blank⟩

/-- Whether no subject has been chosen. -/
def isBlank (c : Condition) : Bool := c.field == .blank

/-- The condition that denies what this one asserts. -/
def negate (c : Condition) : Condition := { c with op := c.op.partner }

end Condition

/-! ## Modes -/

/-- What decides whether an object is active. -/
inductive Mode where
  /-- the user alone -/
  | manual
  /-- the system -/
  | system
  /-- its conditions: all have to hold -/
  | all
  /-- its conditions: one has to hold -/
  | any
  deriving DecidableEq, Repr, Inhabited

namespace Mode

/-- Whether conditions decide. -/
def isConditional : Mode → Bool
  | .all | .any => true
  | .manual | .system => false

theorem ne_manual_of_isConditional {mode : Mode} (h : mode.isConditional = true) :
    mode ≠ .manual := by
  rintro rfl
  cases h

def text : Mode → String
  | .manual => "manual"
  | .system => "system"
  | .all => "conditional-all"
  | .any => "conditional-any"

end Mode

end NetActivation
