import NetActivation.Dialog.ConditionsPage
import NetActivation.Editor.Mirror

set_option autoImplicit false

/-! # Steps of a page for conditions

What can happen to a page for conditions while its dialog is open, and runs of that. Besides the
operations of every page, its editor can be edited and observed, and the system that the catalog
tells of can change. -/

namespace NetActivation

/-- What can happen to a page for conditions. -/
inductive PageStep where
  | refresh (force : Bool)
  | apply
  | cancel
  /-- something happens to the session of the page's editor -/
  | session (x : Session.Step)
  deriving DecidableEq, Repr

/-- Whether applying got as far as to stage a set on the entity, as it does if the set is valid. -/
def wasStaged : Except ApplyError Unit → Bool
  | .error (.validation _) => false
  | .error (.commit _) | .ok () => true

namespace ConditionsPage

variable {ε : Type} [Entity ε]

def step (p : ConditionsPage ε) : PageStep → ConditionsPage ε
  | .refresh force => Page.refresh p force
  | .apply => (Page.apply p).2
  | .cancel => Page.cancel p
  | .session x => { p with session := p.session.step x }

def run (p : ConditionsPage ε) : List PageStep → ConditionsPage ε
  | [] => p
  | x :: rest => (p.step x).run rest

/-- What comes of applying, if a step does that. -/
def result? (p : ConditionsPage ε) : PageStep → Option (Except ApplyError Unit)
  | .apply => some (Page.apply p).1
  | .refresh _ | .cancel | .session _ => none

/-- What came of each applying in a run, in order. -/
def results (p : ConditionsPage ε) : List PageStep → List (Except ApplyError Unit)
  | [] => []
  | x :: rest => (p.result? x).toList ++ (p.step x).results rest

/-- What came of the last applying in a run that got as far as to stage a set. -/
def lastStaging? (p : ConditionsPage ε) (steps : List PageStep) :
    Option (Except ApplyError Unit) :=
  ((p.results steps).filter wasStaged).getLast?

theorem run_append (p : ConditionsPage ε) (steps later : List PageStep) :
    p.run (steps ++ later) = (p.run steps).run later := by
  induction steps generalizing p with
  | nil => rfl
  | cons x steps ih => exact ih (p.step x)

theorem results_append (p : ConditionsPage ε) (steps later : List PageStep) :
    p.results (steps ++ later) = p.results steps ++ (p.run steps).results later := by
  induction steps generalizing p with
  | nil => rfl
  | cons x steps ih =>
      rw [List.cons_append, results, results, ih, List.append_assoc]
      rfl

theorem lastStaging?_concat (p : ConditionsPage ε) (steps : List PageStep) (x : PageStep) :
    p.lastStaging? (steps ++ [x]) =
      (((p.run steps).result? x).filter wasStaged).or (p.lastStaging? steps) := by
  rw [lastStaging?, results_append, List.filter_append, List.getLast?_append, results, results,
    List.append_nil]
  congr 1
  cases (p.run steps).result? x with
  | none => rfl
  | some result =>
      rw [Option.toList_some, List.filter_singleton, Option.filter_some]
      cases wasStaged result <;> rfl

end ConditionsPage

end NetActivation
