import NetActivation.Entity.Basic

set_option autoImplicit false

/-! # Pages of a dialog

A dialog shows pages. Its button for applying applies them in order up to the first that fails;
the dialog closes only if none does. Main statement: `applyAll_length`, no page is lost. -/

namespace NetActivation

/-- A type of pages. A page need not react to cancelling, and need not have help. -/
class Page (π : Type) where
  /-- shows the page's object again; unless it is forced, a page may stay as it is -/
  refresh : π → Bool → π
  /-- writes what the page shows back to its object -/
  apply : π → Except ApplyError Unit × π
  /-- drops what was changed -/
  cancel : π → π := id
  /-- the topic of the page's help -/
  help? : π → Option String := fun _ => none

/-- What a dialog does after its pages were applied. -/
inductive Outcome where
  | close
  /-- the dialog shows the error of the page that failed -/
  | stayOpen (e : ApplyError)
  deriving DecidableEq, Repr

/-- Applies pages in order up to the first that fails. -/
def applyAll {π : Type} [Page π] : List π → Outcome × List π
  | [] => (.close, [])
  | p :: ps =>
    match Page.apply p with
    | (.error e, p) => (.stayOpen e, p :: ps)
    | (.ok (), p) =>
      let (outcome, ps) := applyAll ps
      (outcome, p :: ps)

theorem applyAll_length {π : Type} [Page π] (ps : List π) :
    (applyAll ps).2.length = ps.length := by
  induction ps with
  | nil => rfl
  | cons p ps ih =>
    rw [applyAll]
    split
    · rfl
    · exact congrArg (· + 1) ih

end NetActivation
