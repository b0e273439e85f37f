import NetActivation.Condition.Operators
import NetActivation.Evaluation

set_option autoImplicit false

/-! # Conditions that can be decided

Whether a condition can be decided does not hang on the network: `isSome_eval_iff` says it by the
field, the operator and the value alone. The table of operators that fields offer was made for
editing and knows nothing of evaluation, but `definite_iff_of_isCompatible` shows how far the two
agree: among the conditions that follow the table only values that name no addresses, and ranges of
hardware addresses, cannot be decided. -/

namespace NetActivation

/-- A text is no network if neither of its two readings succeeds. -/
theorem Network.read?_eq_none_iff {s : List Char} :
    read? s = none ↔ readSlash? s = none ∧ Address.read? .alone s = none := by
  rw [read?]
  cases readSlash? s with
  | none => simp
  | some n => simp

namespace Condition

/-- A condition that can be decided. On an object it asks for identity, on texts for anything but a
    range, and on addresses its value has to be what the operator compares with. -/
def Definite (c : Condition) : Prop :=
  match c.field with
  | .ncu | .loc | .enm => c.op ∈ [Operator.is, .isNot, .includes, .excludes]
  | .ipAddress =>
    (c.op ∈ [Operator.is, .isNot] ∧ Address.read? .alone (Text.trim c.value.toList) ≠ none) ∨
      (c.op ∈ [Operator.inRange, .notInRange] ∧ Network.read? (Text.trim c.value.toList) ≠ none)
  | .advertisedDomain | .systemDomain | .essid | .bssid =>
    c.op ∉ [Operator.inRange, .notInRange]
  | .blank => False

/-- Whether a condition can be decided, and holds exactly under the given circumstances. -/
def DecidedBy (c : Condition) (s : Snapshot) (P : Prop) : Prop :=
  ∃ found, c.eval s = some found ∧ (found = true ↔ P)

theorem DecidedBy.eq_true_iff {c : Condition} {s : Snapshot} {P : Prop} (h : c.DecidedBy s P) :
    c.eval s = some true ↔ P := by
  obtain ⟨found, heval, hfound⟩ := h
  rw [heval, Option.some.injEq, hfound]

theorem DecidedBy.eq_false {c : Condition} {s : Snapshot} {P : Prop} (h : c.DecidedBy s P)
    (hP : ¬P) : c.eval s = some false := by
  obtain ⟨found, heval, hfound⟩ := h
  rw [heval, Bool.eq_false_iff.2 fun hf => hP (hfound.1 hf)]

/-! ## What can be decided -/

theorem isSome_evalActive_iff {op : Operator} {active : Bool} :
    (evalActive op active).isSome = true ↔ op ∈ [Operator.is, .isNot, .includes, .excludes] := by
  cases op <;> simp [evalActive, decided]

theorem isSome_evalText_iff {view : List Char → List Char} {op : Operator} {value : String}
    {observed : List String} :
    (evalText view op value observed).isSome = true ↔
      op ∉ [Operator.inRange, .notInRange] := by
  cases op <;> simp [evalText, decided]

theorem isSome_evalAddress_iff {op : Operator} {value : String} {observed : List Address} :
    (evalAddress op value observed).isSome = true ↔
      (op ∈ [Operator.is, .isNot] ∧ Address.read? .alone (Text.trim value.toList) ≠ none) ∨
        (op ∈ [Operator.inRange, .notInRange] ∧ Network.read? (Text.trim value.toList) ≠ none) := by
  cases ha : Address.read? .alone (Text.trim value.toList) <;>
    cases hn : Network.read? (Text.trim value.toList) <;>
    cases op <;> simp [evalAddress, decided, ha, hn]

/-- **Whether a condition can be decided is the same for every network.** -/
theorem isSome_eval_iff {c : Condition} {s : Snapshot} :
    (c.eval s).isSome = true ↔ c.Definite := by
  obtain ⟨field, op, value⟩ := c
  cases field with
  | ncu | loc | enm => exact isSome_evalActive_iff
  | ipAddress => exact isSome_evalAddress_iff
  | advertisedDomain | systemDomain | essid | bssid => exact isSome_evalText_iff
  | blank => simp [eval, Definite]

/-! ## The operators on offer -/

/-- Among the conditions whose field offers their operator, those cannot be decided that compare
    addresses with what is none, and those that ask for a range of hardware addresses. -/
theorem definite_iff_of_isCompatible {policy : BssidPolicy} {c : Condition}
    (h : c.isCompatible policy = true) :
    c.Definite ↔
      ¬(c.field = .ipAddress ∧ Network.read? (Text.trim c.value.toList) = none) ∧
        ¬(policy = .unrestricted ∧ c.field = .bssid ∧ (c.op = .inRange ∨ c.op = .notInRange)) := by
  obtain ⟨field, op, value⟩ := c
  have hop : op ∈ field.operators policy := List.contains_iff_mem.1 h
  cases field with
  | ncu | loc | enm =>
      have hoffered : op = .is ∨ op = .isNot := by simpa [Field.operators] using hop
      rcases hoffered with rfl | rfl <;> simp [Definite]
  | ipAddress =>
      have hoffered : op = .inRange ∨ op = .notInRange := by simpa [Field.operators] using hop
      rcases hoffered with rfl | rfl <;> simp [Definite]
  | advertisedDomain | systemDomain | essid =>
      have hoffered : op = .contains ∨ op = .lacks := by simpa [Field.operators] using hop
      rcases hoffered with rfl | rfl <;> simp [Definite]
  | bssid =>
      cases policy with
      | likeEssid =>
          have hoffered : op = .contains ∨ op = .lacks := by simpa [Field.operators] using hop
          rcases hoffered with rfl | rfl <;> simp [Definite]
      | unrestricted => simp [Definite]
  | blank => exact absurd hop List.not_mem_nil

end Condition

end NetActivation
