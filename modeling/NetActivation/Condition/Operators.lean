import NetActivation.Condition.Basic

set_option autoImplicit false

/-! # The operators and the input that a field offers

Which operators can be chosen for a field, and how its value is entered. -/

namespace NetActivation

/-- What kind of configured object a condition set belongs to, or a condition names. -/
inductive EntityKind where
  /-- an interface -/
  | ncu
  /-- a location -/
  | location
  /-- an auxiliary service -/
  | enm
  deriving DecidableEq, Repr, Inhabited

/-- How a kind is shown. -/
def EntityKind.text : EntityKind → String
  | .ncu => "ncu"
  | .location => "loc"
  | .enm => "enm"

/-- Which operators conditions on the hardware address of an access point offer. -/
inductive BssidPolicy where
  /-- the ones that conditions on the network's name offer -/
  | likeEssid
  /-- every operator -/
  | unrestricted
  deriving DecidableEq, Repr, Inhabited

/-- How the value of a condition is entered. -/
inductive ValueKind where
  /-- by picking a configured object -/
  | reference (kind : EntityKind)
  /-- as free text -/
  | freeText
  /-- as free text, helped by the known wireless networks -/
  | completion
  /-- not at all -/
  | disabled
  deriving DecidableEq, Repr

/-- Whether a value is entered as text. Text is kept when the input changes to another such. -/
def ValueKind.isText : ValueKind → Bool
  | .freeText | .completion => true
  | .reference _ | .disabled => false

namespace Field

/-- The operators that a field offers. -/
def operators (policy : BssidPolicy) : Field → List Operator
  | .ncu | .loc | .enm => [.is, .isNot]
  | .ipAddress => [.inRange, .notInRange]
  | .advertisedDomain | .systemDomain | .essid => [.contains, .lacks]
  | .bssid =>
    match policy with
    | .likeEssid => [.contains, .lacks]
    | .unrestricted => Operator.all
  | .blank => []

/-- The operator that is selected when a field is chosen: the first one it offers. -/
def defaultOperator? (policy : BssidPolicy) (f : Field) : Option Operator :=
  (f.operators policy).head?

/-- Whether a field offers an operator. -/
def accepts (policy : BssidPolicy) (f : Field) (op : Operator) : Bool :=
  (f.operators policy).contains op

/-- How the value for a field is entered. -/
def valueKind : Field → ValueKind
  | .ncu => .reference .ncu
  | .loc => .reference .location
  | .enm => .reference .enm
  | .ipAddress | .advertisedDomain | .systemDomain | .bssid => .freeText
  | .essid => .completion
  | .blank => .disabled

end Field

/-- Whether a condition's field offers its operator. -/
def Condition.isCompatible (policy : BssidPolicy) (c : Condition) : Bool :=
  c.field.accepts policy c.op

end NetActivation
