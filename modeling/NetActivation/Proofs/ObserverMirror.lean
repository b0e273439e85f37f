import Mathlib.Data.List.Chain
import Mathlib.Data.List.Range
import NetActivation.Proofs.ObservedChanges

set_option autoImplicit false

/-! # Observers mirror the editor

An observer that subscribes at any point of a run and remembers the handles shown then knows from
its events alone which handles are shown, whether several rows are, and when no row has changed. An
observer hears exactly the events of the operations after its subscription (`received_step`,
`heard_perform`), so what each operation tells (`observable_step`) adds up over a run. -/

namespace NetActivation.Session

/-! ## What reaches an observer -/

/-- An event reaches an observer once, if it has subscribed. -/
theorem filter_deliver (s : Session) (event : Event) (i : Nat) :
    ((s.deliver event).filter (·.observer == i)).map (·.event) =
      if i < s.observers then [event] else [] := by
  have hcount : (List.range s.observers).count i = if i < s.observers then 1 else 0 := by
    rw [List.nodup_range.count]
    simp only [List.mem_range]
  rw [deliver, List.filter_map, List.map_map]
  show ((List.range s.observers).filter (· == i)).map (fun _ => event) = _
  rw [List.filter_beq, hcount]
  split <;> rfl

theorem received_accept (s : Session) (c : Change) (i : Nat) :
    (s.accept c).received i = s.received i ++ if i < s.observers then c.events else [] := by
  have hevents (events : List Event) :
      ((events.flatMap s.deliver).filter (·.observer == i)).map (·.event) =
        if i < s.observers then events else [] := by
    induction events with
    | nil => split <;> rfl
    | cons event events ih =>
        rw [List.flatMap_cons, List.filter_append, List.map_append, ih, filter_deliver]
        split <;> rfl
  rw [received, accept, List.filter_append, List.map_append, hevents]
  rfl

/-- What an observer has received grows by what it hears. -/
theorem received_step (s : Session) (i : Nat) (x : Step) :
    (s.step x).received i = s.received i ++ s.heard i x := by
  rw [heard]
  cases x with
  | subscribe => simp [step, subscribe, received]
  | setCatalog catalog => simp [step, received]
  | perform edit => rw [step, perform, received_accept, List.drop_left]

/-- An observer hears the events of every operation. -/
theorem heard_perform {s : Session} {i : Nat} (hi : i < s.observers) (edit : Edit) :
    s.heard i (.perform edit) = (s.editor.perform s.catalog edit).events := by
  rw [heard, step, perform, received_accept, List.drop_left, if_pos hi]

/-- No observer leaves. -/
theorem observers_le_step (s : Session) (x : Step) : s.observers ≤ (s.step x).observers := by
  cases x with
  | subscribe => exact Nat.le_succ _
  | setCatalog catalog => exact Nat.le_refl _
  | perform edit => exact Nat.le_refl _

theorem heard_eq_nil {s : Session} {i : Nat} (hi : s.observers ≤ i) (x : Step) :
    s.heard i x = [] := by
  rw [heard]
  cases x with
  | subscribe => exact List.drop_length
  | setCatalog catalog => exact List.drop_length
  | perform edit =>
      rw [step, perform, received_accept, List.drop_left, if_neg (Nat.not_lt.2 hi)]

theorem observers_le_run (s : Session) (steps : List Step) :
    s.observers ≤ (s.run steps).observers := by
  induction steps generalizing s with
  | nil => exact Nat.le_refl _
  | cons x steps ih => exact Nat.le_trans (observers_le_step s x) (ih _)

/-- Nothing has reached those who have not subscribed yet. -/
theorem received_run_eq_nil {s : Session} {i : Nat} (h : s.received i = []) (steps : List Step)
    (hi : (s.run steps).observers ≤ i) : (s.run steps).received i = [] := by
  induction steps generalizing s with
  | nil => exact h
  | cons x steps ih =>
      have hbefore := Nat.le_trans (observers_le_run s (x :: steps)) hi
      exact ih (by rw [received_step, h, heard_eq_nil hbefore, List.nil_append]) hi

/-! ## Steps -/

/-- The editor of a session is one that a new editor can become. -/
theorem reachable_step {s : Session} (h : s.editor.Reachable) (x : Step) :
    (s.step x).editor.Reachable := by
  cases x with
  | subscribe => exact h
  | setCatalog catalog => exact h
  | perform edit => exact h.perform s.catalog edit

theorem reachable_run {s : Session} (h : s.editor.Reachable) (steps : List Step) :
    (s.run steps).editor.Reachable := by
  induction steps generalizing s with
  | nil => exact h
  | cons x steps ih => exact ih (reachable_step h x)

/-- What an observer hears in a step tells it what the step changed. -/
theorem observable_step {s : Session} (h : s.editor.Reachable) {i : Nat} (hi : i < s.observers)
    (x : Step) : (⟨(s.step x).editor, s.heard i x⟩ : Change).Observable s.editor := by
  cases x with
  | subscribe => exact Editor.observable_of_sameBut ⟨rfl, fun _ _ => rfl⟩ List.drop_length
  | setCatalog catalog =>
      exact Editor.observable_of_sameBut ⟨rfl, fun _ _ => rfl⟩ List.drop_length
  | perform edit =>
      obtain ⟨plain, hsim, hfloored⟩ := h.exists_simulates
      rw [heard_perform hi]
      exact Editor.observable_perform hsim hfloored s.catalog edit

/-! ## Runs -/

/-- Over a run an observer is told in turn that several rows are shown and that they are not. -/
theorem multiRow?_run {s : Session} (h : s.editor.Reachable) {i : Nat} (hi : i < s.observers)
    (steps : List Step) :
    ∃ told, ((s.run steps).received i).filterMap Event.multiRow? =
        (s.received i).filterMap Event.multiRow? ++ told ∧
      (s.editor.isMultiRow :: told).IsChain (· ≠ ·) ∧
      (s.run steps).editor.isMultiRow = told.getLastD s.editor.isMultiRow := by
  induction steps generalizing s with
  | nil => exact ⟨[], by simp [run], by simp, rfl⟩
  | cons x steps ih =>
      have hstep := (observable_step h hi x).multiRow?_eq
      obtain ⟨told, htold, hchain, hlast⟩ :=
        ih (reachable_step h x) (Nat.lt_of_lt_of_le hi (observers_le_step s x))
      rw [received_step, List.filterMap_append, List.append_assoc] at htold
      refine ⟨_, htold, ?_⟩
      rw [hstep]
      dsimp only
      split
      · next hsame =>
          rw [hsame]
          exact ⟨hchain, hlast⟩
      · next hother =>
          rw [List.singleton_append, List.isChain_cons_cons, List.getLastD_cons]
          exact ⟨⟨hother, hchain⟩, hlast⟩

/-- Over a run an observer's handles stay those that are shown. -/
theorem mirror_run {s : Session} (h : s.editor.Reachable) {i : Nat} (hi : i < s.observers)
    (steps : List Step) :
    s.mirror i s.editor.rows.toFinset steps = some (s.run steps).editor.rows.toFinset := by
  induction steps generalizing s with
  | nil => rfl
  | cons x steps ih =>
      have hstep : (s.heard i x).foldlM (Event.mirror (s.step x).editor.rows)
          s.editor.rows.toFinset = some (s.step x).editor.rows.toFinset :=
        (observable_step h hi x).mirror_eq
      rw [mirror, hstep, run]
      exact ih (reachable_step h x) (Nat.lt_of_lt_of_le hi (observers_le_step s x))

/-- **An observer can mirror the editor from its events.** It subscribes at any point of a run.
    Whatever happens then, it is told in turn that several rows are shown and that they are not, the
    last time as it is; from the handles shown when it subscribed it can follow all additions,
    removals and reloads to those that are shown; and it hears of every row that changes. A reload
    is announced once, before whatever else it brings about. -/
theorem observer_mirrors_editor (catalog : Catalog) (config : EditorConfig)
    (before after : List Step) :
    let start := (new catalog config).run before
    let i := start.observers
    let s := start.subscribe.run after
    let told := (s.received i).filterMap Event.multiRow?
    ((start.editor.isMultiRow :: told).IsChain (· ≠ ·) ∧
      s.editor.isMultiRow = told.getLastD start.editor.isMultiRow) ∧
    start.subscribe.mirror i start.editor.rows.toFinset after = some s.editor.rows.toFinset ∧
    ∀ x, (s.heard i x = [] → s.editor.SameBut [] (s.step x).editor) ∧
      (∀ id, s.heard i x = [.conditionChanged id] → s.editor.SameBut [id] (s.step x).editor) ∧
      ∀ edit, x = .perform edit → edit.Reloads s.editor →
        ∃ rest, s.heard i x = .reloaded :: rest ∧ .reloaded ∉ rest := by
  intro start i s told
  have hstart : start.subscribe.editor.Reachable := reachable_run ⟨config, [], rfl⟩ before
  have hi : i < start.subscribe.observers := Nat.lt_succ_self _
  have hnothing : start.subscribe.received i = [] :=
    received_run_eq_nil rfl before (Nat.le_refl _)
  obtain ⟨told', htold, hchain, hlast⟩ := multiRow?_run hstart hi after
  obtain rfl : told = told' := by
    rw [hnothing] at htold
    exact htold
  have hs : s.editor.Reachable := reachable_run hstart after
  have hsi : i < s.observers := Nat.lt_of_lt_of_le hi (observers_le_run _ after)
  refine ⟨⟨hchain, hlast⟩, mirror_run hstart hi after, fun x => ?_⟩
  have hobservable := observable_step hs hsi x
  refine ⟨hobservable.silent, hobservable.changed, ?_⟩
  rintro edit rfl hreloads
  rw [heard_perform hsi]
  exact Editor.events_of_reloads hreloads

/-- Somebody observes a new editor, which comes to show a second row. -/
def observedSteps : List Step := [.subscribe, .perform (.addAfter ⟨0⟩)]

/-- Both rows are removed, the last of which is handed out again in its own place. Another row is
    added and an entity is loaded, after somebody else has subscribed and the system has changed. -/
def mirroredSteps : List Step :=
  [.perform (.remove ⟨0⟩), .perform (.remove ⟨1⟩), .subscribe, .perform (.addAfter ⟨1⟩),
    .setCatalog { interfaces := ["net0"] },
    .perform (.refresh ⟨.location, "work", .any, [⟨.essid, .is, "home"⟩]⟩ false)]

def mirroredSession : Session := ((new {} {}).run observedSteps).subscribe.run mirroredSteps

/-- What an observer hears who comes second, by the end and of three operations more: an operator
    that is not offered, a value, and the loading of an entity that is shown already. -/
theorem observer_mirrors_editor_reload :
    (mirroredSession.received 1 = [.rowRemoved ⟨0⟩, .multiRow false, .rowRemoved ⟨1⟩, .rowAdded ⟨1⟩,
        .rowAdded ⟨0⟩, .multiRow true, .reloaded, .multiRow false] ∧
      mirroredSession.editor.isMultiRow = false) ∧
    ((new {} {}).run observedSteps).subscribe.mirror 1 {⟨0⟩, ⟨1⟩} mirroredSteps = some {⟨0⟩} ∧
    (mirroredSession.heard 1 (.perform (.setOperator ⟨0⟩ .inRange)) = [] ∧
      mirroredSession.editor.SameBut []
        (mirroredSession.step (.perform (.setOperator ⟨0⟩ .inRange))).editor) ∧
    (mirroredSession.heard 1 (.perform (.setValue ⟨0⟩ "café")) = [.conditionChanged ⟨0⟩] ∧
      mirroredSession.editor.SameBut [⟨0⟩]
        (mirroredSession.step (.perform (.setValue ⟨0⟩ "café"))).editor) ∧
    Edit.Reloads mirroredSession.editor (.refresh ⟨.location, "work", .any, []⟩ true) ∧
      ∃ rest, mirroredSession.heard 1 (.perform (.refresh ⟨.location, "work", .any, []⟩ true)) =
        .reloaded :: rest ∧ .reloaded ∉ rest := by
  have hobservers : ((new {} {}).run observedSteps).observers = 1 := by decide +kernel
  have hstart : ((new {} {}).run observedSteps).editor.rows = [⟨0⟩, ⟨1⟩] := by decide +kernel
  have hend : mirroredSession.editor.rows = [⟨0⟩] := by decide +kernel
  have hreceived : mirroredSession.received 1 = [.rowRemoved ⟨0⟩, .multiRow false, .rowRemoved ⟨1⟩,
      .rowAdded ⟨1⟩, .rowAdded ⟨0⟩, .multiRow true, .reloaded, .multiRow false] := by
    decide +kernel
  have hsilent : mirroredSession.heard 1 (.perform (.setOperator ⟨0⟩ .inRange)) = [] := by
    decide +kernel
  have hchanged : mirroredSession.heard 1 (.perform (.setValue ⟨0⟩ "café")) =
      [.conditionChanged ⟨0⟩] := by decide +kernel
  have hreloads : Edit.Reloads mirroredSession.editor
      (.refresh ⟨.location, "work", .any, []⟩ true) := Or.inl rfl
  obtain ⟨⟨-, hmulti⟩, hmirror, hsteps⟩ :=
    observer_mirrors_editor {} {} observedSteps mirroredSteps
  rw [hobservers] at hmulti hmirror hsteps
  rw [← mirroredSession, hreceived] at hmulti
  rw [← mirroredSession, hstart, hend] at hmirror
  exact ⟨⟨hreceived, hmulti⟩, hmirror, ⟨hsilent, (hsteps _).1 hsilent⟩,
    ⟨hchanged, (hsteps _).2.1 _ hchanged⟩, hreloads, (hsteps _).2.2 _ rfl hreloads⟩

end NetActivation.Session
