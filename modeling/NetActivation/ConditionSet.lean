import NetActivation.Condition.Printer
import NetActivation.Condition.Reader
import NetActivation.Evaluation

set_option autoImplicit false

/-! # Condition sets

A condition set is an activation mode with conditions in order. A valid one holds no blank
condition, and has a condition if its mode is conditional. `build` makes exactly the valid ones. -/

namespace NetActivation

/-- Why conditions under a mode make no valid set. -/
inductive ValidationError where
  /-- a conditional mode without conditions -/
  | noRules
  /-- the first blank condition, by its place -/
  | blankCondition (index : Nat)
  deriving DecidableEq, Repr

def ValidationError.message : ValidationError → String
  | .noRules => "Conditional mode selected but no rules configured"
  | .blankCondition index => "condition " ++ index.repr ++ " has no field selected"

/-- An activation mode and conditions. -/
structure ConditionSet where
  mode : Mode
  conditions : List Condition
  deriving DecidableEq, Repr

/-- Why texts make no condition set. -/
inductive ConditionSet.TextError where
  | parse (e : ParseError)
  | validation (e : ValidationError)
  deriving DecidableEq, Repr

def ConditionSet.TextError.message : ConditionSet.TextError → String
  | .parse e => e.message
  | .validation e => e.message

namespace ConditionSet

/-- Activation by the user alone, with no conditions. -/
def manual : ConditionSet := ⟨.manual, []⟩

/-- Activation by the system, with no conditions. -/
def system : ConditionSet := ⟨.system, []⟩

instance : Inhabited ConditionSet := ⟨manual⟩

/-- What makes a set valid. -/
def Valid (set : ConditionSet) : Prop :=
  (∀ c ∈ set.conditions, c.isBlank = false) ∧
    (set.mode.isConditional = true → set.conditions ≠ [])

/-- Makes a valid set. A blank condition is reported before a lack of conditions. -/
def build (mode : Mode) (conditions : List Condition) : Except ValidationError ConditionSet :=
  match conditions.findIdx? Condition.isBlank with
  | some index => .error (.blankCondition index)
  | none =>
    if mode.isConditional && conditions.isEmpty then .error .noRules
    else .ok ⟨mode, conditions⟩

/-- Reads texts in order up to the first that is no condition. -/
def parseAll : List String → Except ParseError (List Condition)
  | [] => .ok []
  | t :: ts => do return (← Condition.parse t) :: (← parseAll ts)

/-- The set that texts of conditions make under a mode. -/
def ofTexts (mode : Mode) (texts : List String) : Except TextError ConditionSet :=
  match parseAll texts with
  | .error e => .error (.parse e)
  | .ok conditions => (build mode conditions).mapError .validation

def texts (set : ConditionSet) : List String := set.conditions.map Condition.text

/-- A short description of a set. -/
def text (set : ConditionSet) : String :=
  "ConditionSet(" ++ set.mode.text ++ ", " ++ set.conditions.length.repr ++ " conditions)"

/-- Whether a set makes its owner active. -/
def evaluate (set : ConditionSet) (s : Snapshot) : Bool :=
  NetActivation.evaluate set.mode set.conditions s

def report (set : ConditionSet) (s : Snapshot) : Report :=
  Report.of set.mode set.conditions s

end ConditionSet

end NetActivation
