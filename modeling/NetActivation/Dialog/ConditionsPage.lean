import NetActivation.Dialog.Page
import NetActivation.Editor.Session

set_option autoImplicit false

/-! # The page for conditions

The page of a dialog on which the conditions of an entity are edited. Cancelling shows the entity
again as it is. -/

namespace NetActivation

structure ConditionsPage (ε : Type) where
  entity : ε
  session : Session

namespace ConditionsPage

variable {ε : Type} [Entity ε]

/-- Lets the editor show the entity. -/
def refresh (p : ConditionsPage ε) (force : Bool) : ConditionsPage ε :=
  { p with session := p.session.perform (.refresh (Entity.view p.entity) force) }

/-- A page that shows an entity. -/
def new (entity : ε) (catalog : Catalog) (config : EditorConfig) : ConditionsPage ε :=
  refresh ⟨entity, Session.new catalog config⟩ true

/-- Gives what the editor shows to the entity. -/
def apply (p : ConditionsPage ε) : Except ApplyError Unit × ConditionsPage ε :=
  let (result, entity) := p.session.editor.apply p.entity
  (result, { p with entity })

/-- The topic of the page's help. -/
def helpTopic : String := "nwam-conditions"

instance : Page (ConditionsPage ε) where
  refresh := refresh
  apply := apply
  cancel p := p.refresh true
  help? _ := some helpTopic

end ConditionsPage

end NetActivation
