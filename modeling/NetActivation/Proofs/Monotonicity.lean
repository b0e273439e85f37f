import NetActivation.Proofs.EvaluationLaws
import NetActivation.Proofs.Lists
import NetActivation.Snapshot.Order

set_option autoImplicit false

/-! # Seeing more of the network

Operators that assert something look for it among what a snapshot shows, so a snapshot that shows
more can only make more of their conditions hold. Each kind of subject looks for it in its own way,
and has a lemma here. For operators that deny it is the other way round, which follows from the laws
of denial. Main statement: `activation_monotone`. -/

namespace NetActivation

namespace Condition

/-! ## Operators that assert -/

section Asserting

variable {op : Operator} {value : String}

/-- An operator that asserts makes of a finding what it is. -/
theorem decided_mono {found found' : Bool} (hop : op.isNegated = false)
    (h : found = true → found' = true) (hheld : decided op found = some true) :
    decided op found' = some true := by
  simp only [decided, hop, Bool.bne_false] at hheld ⊢
  exact congrArg some (h (Option.some.inj hheld))

theorem evalActive_mono {active active' : Bool} (hop : op.isNegated = false)
    (h : active = true → active' = true) (hheld : evalActive op active = some true) :
    evalActive op active' = some true := by
  cases op with
  | is | includes => exact decided_mono rfl h hheld
  | inRange | contains => cases hheld
  | isNot | excludes | notInRange | lacks => cases hop

theorem evalAddress_mono {observed observed' : List Address} (hop : op.isNegated = false)
    (h : observed ⊆ observed') (hheld : evalAddress op value observed = some true) :
    evalAddress op value observed' = some true := by
  cases op with
  | is =>
      obtain ⟨target, hread, hfound⟩ := Option.bind_eq_some_iff.1 hheld
      refine Option.bind_eq_some_iff.2 ⟨target, hread, decided_mono rfl ?_ hfound⟩
      intro hmem
      exact List.contains_iff_mem.2 (h (List.contains_iff_mem.1 hmem))
  | inRange =>
      obtain ⟨network, hread, hfound⟩ := Option.bind_eq_some_iff.1 hheld
      exact Option.bind_eq_some_iff.2
        ⟨network, hread, decided_mono rfl (any_of_subset h) hfound⟩
  | includes | contains => cases hheld
  | isNot | excludes | notInRange | lacks => cases hop

theorem evalText_mono {view : List Char → List Char} {observed observed' : List String}
    (hop : op.isNegated = false) (h : observed ⊆ observed')
    (hheld : evalText view op value observed = some true) :
    evalText view op value observed' = some true := by
  cases op with
  | is | includes | contains => exact decided_mono rfl (any_of_subset h) hheld
  | inRange => cases hheld
  | isNot | excludes | notInRange | lacks => cases hop

end Asserting

variable {c : Condition} {s t : Snapshot}

/-- A condition that asserts holds on if more of the network is seen. -/
theorem eval_mono (hop : c.op.isNegated = false) (hst : s ≤ t) (hheld : c.eval s = some true) :
    c.eval t = some true := by
  obtain ⟨field, op, value⟩ := c
  cases field with
  | ncu =>
      refine evalActive_mono hop ?_ hheld
      intro hncu
      exact List.contains_iff_mem.2 (hst (.ncu value) (List.contains_iff_mem.1 hncu))
  | enm =>
      refine evalActive_mono hop ?_ hheld
      intro henm
      exact List.contains_iff_mem.2 (hst (.enm value) (List.contains_iff_mem.1 henm))
  | loc =>
      refine evalActive_mono hop ?_ hheld
      intro hloc
      exact beq_iff_eq.2 (hst (.location value) (beq_iff_eq.1 hloc))
  | ipAddress => exact evalAddress_mono hop (fun a => hst (.address a)) hheld
  | advertisedDomain => exact evalText_mono hop (fun d => hst (.advertisedDomain d)) hheld
  | systemDomain => exact evalText_mono hop (Snapshot.systemDomains_subset hst) hheld
  | essid => exact evalText_mono hop (fun name => hst (.essid name)) hheld
  | bssid => exact evalText_mono hop (fun a => hst (.bssid a)) hheld
  | blank => cases hheld

theorem holds_mono (hop : c.op.isNegated = false) (hst : s ≤ t) (hheld : holds s c = true) :
    holds t c = true :=
  beq_iff_eq.2 (eval_mono hop hst (beq_iff_eq.1 hheld))

/-! ## Operators that deny -/

/-- A condition that denies holds on if less of the network is seen: its denial asserts, and does
    not come to hold by that. -/
theorem holds_anti (hop : c.op.isNegated = true) (hst : s ≤ t) (hheld : holds t c = true) :
    holds s c = true := by
  have ht : c.eval t ≠ none := by
    rw [beq_iff_eq.1 hheld]
    exact Option.some_ne_none true
  have hs : c.eval s ≠ none := mt (fun h => eval_eq_none_iff.2 (eval_eq_none_iff.1 h)) ht
  have hpartner : c.negate.op.isNegated = false := by
    rw [negate, Operator.isNegated_partner, hop, Bool.not_true]
  have hdenied := mt (holds_mono (c := c.negate) hpartner hst)
  rw [holds_negate ht, holds_negate hs, hheld] at hdenied
  simpa using hdenied

end Condition

/-! ## Many conditions -/

/-- An owner stays active on another network if all its conditions that hold do so there. -/
theorem evaluate_mono {s t : Snapshot} (mode : Mode) {conditions : List Condition}
    (h : ∀ c ∈ conditions, Condition.holds s c = true → Condition.holds t c = true)
    (hactive : evaluate mode conditions s = true) : evaluate mode conditions t = true := by
  cases mode with
  | manual => cases hactive
  | system => rfl
  | all =>
      simp only [evaluate, Bool.and_eq_true, List.all_eq_true] at hactive ⊢
      exact ⟨hactive.1, fun c hc => h c hc (hactive.2 c hc)⟩
  | any =>
      simp only [evaluate, List.any_eq_true] at hactive ⊢
      obtain ⟨c, hc, hheld⟩ := hactive
      exact ⟨c, hc, h c hc hheld⟩

/-- **Activation is monotone in what is seen of the network.** Under every mode, conditions that all
    assert keep their owner active when more is seen, and conditions that all deny keep it active
    when less is seen. -/
theorem activation_monotone {s t : Snapshot} (hst : s ≤ t) (mode : Mode)
    (conditions : List Condition) :
    ((∀ c ∈ conditions, c.op.isNegated = false) →
      evaluate mode conditions s = true → evaluate mode conditions t = true) ∧
    ((∀ c ∈ conditions, c.op.isNegated = true) →
      evaluate mode conditions t = true → evaluate mode conditions s = true) := by
  constructor
  · intro hasserts
    exact evaluate_mono mode fun c hc => Condition.holds_mono (hasserts c hc) hst
  · intro hdenies
    exact evaluate_mono mode fun c hc => Condition.holds_anti (hdenies c hc) hst

/-- An office's network of which more is seen. -/
def largerNetwork : Snapshot :=
  [.location "work", .ncu "net1", .address (.v6 1), .essid "Guest"].foldl Snapshot.observe
    officeNetwork

/-- Conditions that assert. The last of them cannot be decided. -/
def assertions : List Condition :=
  [⟨.ipAddress, .inRange, "10.0.0.0/8"⟩, ⟨.bssid, .contains, "1B:2C"⟩, ⟨.ncu, .contains, "net"⟩]

/-- Conditions that deny, one of them what a location is not. -/
def denials : List Condition :=
  [⟨.loc, .isNot, "home"⟩, ⟨.ipAddress, .notInRange, "192.168.0.0/16"⟩, ⟨.essid, .lacks, "Home"⟩]

theorem activation_monotone_larger :
    officeNetwork ≤ largerNetwork ∧
      (∀ c ∈ assertions, c.op.isNegated = false) ∧
      evaluate .any assertions officeNetwork = true ∧
      evaluate .any assertions largerNetwork = true ∧
      (∀ c ∈ denials, c.op.isNegated = true) ∧
      evaluate .all denials largerNetwork = true ∧
      evaluate .all denials officeNetwork = true := by
  have hle : officeNetwork ≤ largerNetwork := by
    intro o ho
    cases o <;> simp_all [Snapshot.Shows, officeNetwork, largerNetwork, Snapshot.ofObservations,
      Snapshot.observe, Snapshot.empty]
  have hasserts : ∀ c ∈ assertions, c.op.isNegated = false := by decide
  have hdenies : ∀ c ∈ denials, c.op.isNegated = true := by decide
  have hoffice : evaluate .any assertions officeNetwork = true := by decide
  have hlarger : evaluate .all denials largerNetwork = true := by decide
  exact ⟨hle, hasserts, hoffice, (activation_monotone hle .any assertions).1 hasserts hoffice,
    hdenies, hlarger, (activation_monotone hle .all denials).2 hdenies hlarger⟩

end NetActivation
