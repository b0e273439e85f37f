import NetActivation.Proofs.DefiniteConditions
import NetActivation.Proofs.EvaluationReport

set_option autoImplicit false

/-! # Laws of evaluation

Two laws that relate evaluations to each other, of denied conditions and on different networks.

* `denial_dual`: a condition and its denial are decided together, with opposite results, so that
  conditions which can all be decided hold all at once exactly if none of their denials does.
* `undecidable_everywhere`: which conditions cannot be decided does not hang on the network. Such
  a condition keeps the others inactive where all have to hold, and does not count where one has
  to.

Denial is not one step of evaluation: each kind of subject compares in its own way and turns the
result round in its own way, so there is a lemma about it for each of them. -/

namespace NetActivation

@[simp] theorem Operator.isNegated_partner (op : Operator) :
    op.partner.isNegated = !op.isNegated := by
  cases op <;> rfl

namespace Condition

/-! ## Denial of a condition -/

/-- The partner of an operator makes the opposite of the same finding. -/
theorem decided_partner (op : Operator) (found : Bool) :
    decided op.partner found = (decided op found).map (!·) := by
  simp only [decided, Operator.isNegated_partner, Option.map_some]
  cases found <;> cases op.isNegated <;> rfl

/-- The same where the finding depends on something that has to be read first. -/
theorem bind_decided_partner {α : Type} (op : Operator) (read : Option α) (found : α → Bool) :
    (read.bind fun a => decided op.partner (found a)) =
      (read.bind fun a => decided op (found a)).map (!·) := by
  cases read with
  | none => rfl
  | some a => exact decided_partner op (found a)

theorem evalActive_partner (op : Operator) (active : Bool) :
    evalActive op.partner active = (evalActive op active).map (!·) := by
  cases op with
  | is | isNot | includes | excludes => exact decided_partner _ active
  | inRange | notInRange | contains | lacks => rfl

theorem evalAddress_partner (op : Operator) (value : String) (observed : List Address) :
    evalAddress op.partner value observed = (evalAddress op value observed).map (!·) := by
  cases op with
  | is => exact bind_decided_partner .is _ _
  | isNot => exact bind_decided_partner .isNot _ _
  | inRange => exact bind_decided_partner .inRange _ _
  | notInRange => exact bind_decided_partner .notInRange _ _
  | includes | excludes | contains | lacks => rfl

theorem evalText_partner (view : List Char → List Char) (op : Operator) (value : String)
    (observed : List String) :
    evalText view op.partner value observed = (evalText view op value observed).map (!·) := by
  cases op with
  | contains | lacks | is | isNot | includes | excludes => exact decided_partner _ _
  | inRange | notInRange => rfl

/-- Denying a condition turns the result round, if there is one. -/
theorem eval_negate (c : Condition) (s : Snapshot) : c.negate.eval s = (c.eval s).map (!·) := by
  obtain ⟨field, op, value⟩ := c
  cases field with
  | ncu | enm | loc => exact evalActive_partner op _
  | ipAddress => exact evalAddress_partner op value _
  | advertisedDomain | systemDomain | essid | bssid => exact evalText_partner _ op value _
  | blank => rfl

/-- A condition and its denial are decided together, with opposite results. -/
theorem eval_negate_cases (c : Condition) (s : Snapshot) :
    (c.eval s = none ∧ c.negate.eval s = none) ∨
      ∃ result, c.eval s = some result ∧ c.negate.eval s = some !result := by
  rw [eval_negate]
  cases c.eval s with
  | none => exact Or.inl ⟨rfl, rfl⟩
  | some result => exact Or.inr ⟨result, rfl, rfl⟩

theorem holds_negate {c : Condition} {s : Snapshot} (h : c.eval s ≠ none) :
    holds s c.negate = !holds s c := by
  obtain ⟨result, hresult⟩ := Option.ne_none_iff_exists'.1 h
  rw [holds, holds, eval_negate, hresult]
  cases result <;> rfl

end Condition

/-! ## Denial of many conditions -/

/-- Conditions that can all be decided hold all at once exactly if none of their denials does. -/
theorem all_holds_eq_not_any_negate {conditions : List Condition} {s : Snapshot}
    (h : ∀ c ∈ conditions, c.eval s ≠ none) :
    conditions.all (Condition.holds s) =
      !(conditions.map Condition.negate).any (Condition.holds s) := by
  induction conditions with
  | nil => rfl
  | cons c rest ih =>
      obtain ⟨hc, hrest⟩ := List.forall_mem_cons.1 h
      rw [List.all_cons, List.map_cons, List.any_cons, Condition.holds_negate hc, ih hrest,
        Bool.not_or, Bool.not_not]

/-- **Denial is dual.** For every field, value and network, an operator and its partner are both
    undecided or decided with opposite results. So for conditions of which there are some and which
    can all be decided, all of them make their owner active exactly if any of their denials would
    not. -/
theorem denial_dual :
    (∀ (c : Condition) (s : Snapshot),
      (c.eval s = none ∧ c.negate.eval s = none) ∨
        ∃ result, c.eval s = some result ∧ c.negate.eval s = some !result) ∧
    ∀ (conditions : List Condition) (s : Snapshot), conditions ≠ [] →
      (∀ c ∈ conditions, c.eval s ≠ none) →
      (evaluate .all conditions s = true ↔
        evaluate .any (conditions.map Condition.negate) s = false) := by
  refine ⟨Condition.eval_negate_cases, ?_⟩
  intro conditions s hsome hdecided
  have hdual := all_holds_eq_not_any_negate hdecided
  simp only [evaluate, hdual, List.isEmpty_eq_false_iff.2 hsome, Bool.not_false, Bool.true_and,
    Bool.not_eq_true']

/-- Conditions on an interface, on addresses, on a name and on a hardware address. -/
def officeConditions : List Condition :=
  [⟨.ncu, .isNot, "net1"⟩, ⟨.ipAddress, .inRange, " 10.0.0.0/8 "⟩, ⟨.essid, .lacks, "Guest"⟩,
    ⟨.bssid, .includes, "00:1b:2C"⟩]

/-- A network of which all these conditions hold. -/
def officeNetwork : Snapshot :=
  .ofObservations [.ncu "net0", .address (.v4 0x0a00000c), .essid "Office", .bssid "00:1B:2c"]

theorem denial_dual_office :
    officeConditions ≠ [] ∧ (∀ c ∈ officeConditions, c.eval officeNetwork ≠ none) ∧
      evaluate .all officeConditions officeNetwork = true ∧
      evaluate .any (officeConditions.map Condition.negate) officeNetwork = false := by
  have hsome : officeConditions ≠ [] := by decide
  have hdecided : ∀ c ∈ officeConditions, c.eval officeNetwork ≠ none := by decide
  have hdual := denial_dual.2 officeConditions officeNetwork hsome hdecided
  have hactive : evaluate .all officeConditions officeNetwork = true := by decide
  exact ⟨hsome, hdecided, hactive, hdual.1 hactive⟩

/-! ## Conditions that cannot be decided -/

namespace Condition

/-- A condition that cannot be decided: it has no subject, its operator makes no sense for its
    subject, or its value is not what the operator compares addresses with. -/
def Undecidable (c : Condition) : Prop :=
  let value := Text.trim c.value.toList
  c.field = .blank ∨
    (c.field ∈ [Field.ncu, .loc, .enm] ∧ c.op ∉ [Operator.is, .isNot, .includes, .excludes]) ∨
    (c.field = .ipAddress ∧
      (c.op ∉ [Operator.is, .isNot, .inRange, .notInRange] ∨
        (c.op ∈ [Operator.is, .isNot] ∧ Address.read? .alone value = none) ∨
        (c.op ∈ [Operator.inRange, .notInRange] ∧ Network.readSlash? value = none ∧
          Address.read? .alone value = none))) ∨
    (c.field ∈ [Field.advertisedDomain, .systemDomain, .essid, .bssid] ∧
      c.op ∈ [Operator.inRange, .notInRange])

instance (c : Condition) : Decidable c.Undecidable :=
  inferInstanceAs (Decidable (_ ∨ _))

theorem undecidable_iff_not_definite {c : Condition} : c.Undecidable ↔ ¬c.Definite := by
  obtain ⟨field, op, value⟩ := c
  cases field with
  | ncu | loc | enm | blank => simp [Undecidable, Definite]
  | advertisedDomain | systemDomain | essid | bssid =>
      simp [Undecidable, Definite, or_iff_not_imp_left]
  | ipAddress =>
      simp only [Undecidable, Definite, ← Network.read?_eq_none_iff]
      cases op <;> simp

/-- Whether a condition can be decided is said by the condition alone. -/
theorem eval_eq_none_iff {c : Condition} {s : Snapshot} : c.eval s = none ↔ c.Undecidable := by
  rw [undecidable_iff_not_definite, ← isSome_eval_iff (s := s), Option.not_isSome_iff_eq_none]

theorem holds_eq_false_of_undecidable {c : Condition} (h : c.Undecidable) (s : Snapshot) :
    holds s c = false := by
  rw [holds, eval_eq_none_iff.2 h]
  rfl

end Condition

/-- The report lists the undecidable conditions, whatever the network. -/
theorem Report.undecidable_of_eq (mode : Mode) (conditions : List Condition) (s : Snapshot) :
    (Report.of mode conditions s).undecidable =
      placesOf (fun c => decide c.Undecidable) conditions := by
  have htest : (fun c : Condition => c.eval s == none) = fun c => decide c.Undecidable := by
    funext c
    rw [Bool.eq_iff_iff, beq_iff_eq, decide_eq_true_iff, Condition.eval_eq_none_iff]
  rw [Report.undecidable_of, placesOf_map, htest]

/-- Conditions that cannot be decided do not count where one has to hold. -/
theorem any_holds_filter (s : Snapshot) (conditions : List Condition) :
    (conditions.filter fun c => !decide c.Undecidable).any (Condition.holds s) =
      conditions.any (Condition.holds s) := by
  rw [List.any_filter]
  congr 1
  funext c
  by_cases hc : c.Undecidable
  · simp [hc, Condition.holds_eq_false_of_undecidable hc s]
  · simp [hc]

/-- **What cannot be decided does not hang on the network.** A condition is undecided on one network
    exactly if it is on all, and this is said by the condition alone. So the report lists the same
    places as undecidable on every network; where all conditions have to hold, one that cannot be
    decided keeps their owner inactive everywhere; and where one has to hold, those that cannot be
    decided might as well be left out. -/
theorem undecidable_everywhere :
    (∀ (c : Condition) (s : Snapshot),
      (c.eval s = none ↔ ∀ t : Snapshot, c.eval t = none) ∧ (c.eval s = none ↔ c.Undecidable)) ∧
    (∀ (mode : Mode) (conditions : List Condition) (s t : Snapshot),
      (Report.of mode conditions s).undecidable = (Report.of mode conditions t).undecidable) ∧
    (∀ conditions : List Condition, (∃ c ∈ conditions, c.Undecidable) →
      ∀ s : Snapshot, evaluate .all conditions s = false) ∧
    ∀ (conditions : List Condition) (s : Snapshot),
      evaluate .any (conditions.filter fun c => !decide c.Undecidable) s =
        evaluate .any conditions s := by
  refine ⟨?_, ?_, ?_, fun conditions s => any_holds_filter s conditions⟩
  · intro c s
    refine ⟨?_, Condition.eval_eq_none_iff⟩
    constructor
    · intro h t
      exact Condition.eval_eq_none_iff.2 (Condition.eval_eq_none_iff.1 h)
    · intro h
      exact h s
  · intro mode conditions s t
    rw [Report.undecidable_of_eq, Report.undecidable_of_eq]
  · rintro conditions ⟨c, hc, hundecidable⟩ s
    have hfails := Condition.holds_eq_false_of_undecidable hundecidable s
    have hall : conditions.all (Condition.holds s) = false :=
      List.all_eq_false.2 ⟨c, hc, by rw [hfails]; simp⟩
    rw [evaluate, hall, Bool.and_false]

/-- An office's conditions with one among them that compares addresses with a name. -/
def misspeltConditions : List Condition :=
  ⟨.ipAddress, .inRange, "office"⟩ :: officeConditions

theorem undecidable_everywhere_misspelt :
    (∃ c ∈ misspeltConditions, c.Undecidable) ∧
      (∀ s, (Report.of .all misspeltConditions s).undecidable = [0]) ∧
      evaluate .all misspeltConditions officeNetwork = false ∧
      evaluate .any misspeltConditions officeNetwork = evaluate .any officeConditions officeNetwork := by
  have hundecidable : ∃ c ∈ misspeltConditions, c.Undecidable :=
    ⟨⟨.ipAddress, .inRange, "office"⟩, by decide, by decide⟩
  obtain ⟨-, hplaces, hall, hany⟩ := undecidable_everywhere
  refine ⟨hundecidable, ?_, hall _ hundecidable officeNetwork, ?_⟩
  · intro s
    rw [hplaces .all misspeltConditions s officeNetwork]
    decide
  · rw [← hany misspeltConditions officeNetwork]
    rfl

end NetActivation
