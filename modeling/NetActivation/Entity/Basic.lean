import NetActivation.Condition.Operators
import NetActivation.ConditionSet

set_option autoImplicit false

/-! # Entities

An entity is a configured object that owns a condition set. Changes to the set are staged, and take
effect when they are committed, which may be refused. A catalog holds the names of the objects that
there are. -/

namespace NetActivation

/-! ## Catalogs -/

/-- What can be picked when a value is entered: the names of the configured objects, and the
    wireless networks that are known. -/
structure Catalog where
  interfaces : List String := []
  locations : List String := []
  services : List String := []
  knownNetworks : List String := []
  deriving DecidableEq, Repr, Inhabited

/-- The names of the objects of a kind. -/
def Catalog.references (c : Catalog) : EntityKind → List String
  | .ncu => c.interfaces
  | .location => c.locations
  | .enm => c.services

/-! ## Entities -/

/-- A refused commit: the property at fault, if it is known, and the reason. -/
structure CommitError where
  property : Option String
  reason : String
  deriving DecidableEq, Repr

def CommitError.message (e : CommitError) : String :=
  match e.property with
  | some p => "invalid value for property '" ++ p ++ "': " ++ e.reason
  | none => "commit failed: " ++ e.reason

/-- Why what an editor shows could not be applied. -/
inductive ApplyError where
  /-- it is no valid set -/
  | validation (e : ValidationError)
  /-- the entity refused it -/
  | commit (e : CommitError)
  deriving DecidableEq, Repr

def ApplyError.message : ApplyError → String
  | .validation e => e.message
  | .commit e => e.message

/-- What an entity shows of itself: its kind, its name and its staged set. -/
structure EntityView where
  kind : EntityKind
  name : String
  staged : ConditionSet
  deriving DecidableEq, Repr

/-- A type of entities. -/
class Entity (ε : Type) where
  /-- what an entity shows of itself -/
  view : ε → EntityView
  /-- stages other conditions in place of the staged ones -/
  setConditions : ε → List Condition → ε
  /-- stages another mode -/
  setMode : ε → Mode → ε
  /-- puts the staged set into effect, or refuses to -/
  commit : ε → Except CommitError Unit × ε

end NetActivation
