import NetActivation.Dialog.Page

set_option autoImplicit false

/-! # Plain pages

A page without an object, which counts how often it is refreshed and applied. Applying it succeeds,
or always fails with the same error. A dialog may show such pages among others, so pages of two
types make one type of pages. -/

namespace NetActivation

structure PlainPage where
  failure : Option CommitError := none
  refreshes : Nat := 0
  applies : Nat := 0
  deriving DecidableEq, Repr

namespace PlainPage

def apply (p : PlainPage) : Except ApplyError Unit × PlainPage :=
  let result := match p.failure with
    | some e => .error (.commit e)
    | none => .ok ()
  (result, { p with applies := p.applies + 1 })

instance : Page PlainPage where
  refresh p _ := { p with refreshes := p.refreshes + 1 }
  apply := apply

end PlainPage

/-! ## Pages of two types -/

namespace Page

instance instSum {π ρ : Type} [Page π] [Page ρ] : Page (π ⊕ ρ) where
  refresh
    | .inl p, force => .inl (refresh p force)
    | .inr p, force => .inr (refresh p force)
  apply
    | .inl p => let (result, p) := apply p; (result, .inl p)
    | .inr p => let (result, p) := apply p; (result, .inr p)
  cancel
    | .inl p => .inl (cancel p)
    | .inr p => .inr (cancel p)
  help?
    | .inl p => help? p
    | .inr p => help? p

end Page

end NetActivation
