import Mathlib.Data.List.Induction
import Mathlib.Order.Defs.PartialOrder
import NetActivation.Snapshot

set_option autoImplicit false

/-! # What snapshots show

A snapshot keeps what was observed in lists, so two of them can differ and yet show the same
network. They are compared by what they show: `s ≤ t` says that `t` shows all that `s` shows. What a
run of observations comes to show is told by the observations it mentions, in whatever order and
however often, and by its last location and its last system domain (`ofObservations_le`). -/

namespace NetActivation

namespace Snapshot

/-- Whether a snapshot shows something. -/
def Shows (s : Snapshot) : Observation → Prop
  | .ncu name => name ∈ s.ncus
  | .enm name => name ∈ s.enms
  | .location name => s.location = some name
  | .address a => a ∈ s.addresses
  | .advertisedDomain d => d ∈ s.advertisedDomains
  | .systemDomain d => s.systemDomain = some d
  | .essid name => name ∈ s.essids
  | .bssid a => a ∈ s.bssids

/-- One snapshot is below another if the other shows all that it shows. A location and a system
    domain have to be the same then, as there is only one of each. -/
instance : Preorder Snapshot where
  le s t := ∀ o, s.Shows o → t.Shows o
  le_refl _ _ ho := ho
  le_trans _ _ _ hst htu o ho := htu o (hst o ho)

theorem systemDomains_subset {s t : Snapshot} (h : s ≤ t) : s.systemDomains ⊆ t.systemDomains := by
  intro d hd
  rw [systemDomains, Option.mem_toList] at hd ⊢
  exact h (.systemDomain d) hd

end Snapshot

/-! ## Runs of observations -/

namespace Observation

/-- Whether an observation takes the place of an earlier one of its kind. -/
def isExclusive : Observation → Bool
  | .location _ | .systemDomain _ => true
  | .ncu _ | .enm _ | .address _ | .advertisedDomain _ | .essid _ | .bssid _ => false

def location? : Observation → Option String
  | .location name => some name
  | .ncu _ | .enm _ | .address _ | .advertisedDomain _ | .systemDomain _ | .essid _ | .bssid _ =>
    none

def systemDomain? : Observation → Option String
  | .systemDomain d => some d
  | .ncu _ | .enm _ | .location _ | .address _ | .advertisedDomain _ | .essid _ | .bssid _ => none

/-- The last location in a run of observations. -/
def lastLocation? (os : List Observation) : Option String := (os.filterMap location?).getLast?

/-- The last system domain in a run of observations. -/
def lastSystemDomain? (os : List Observation) : Option String :=
  (os.filterMap systemDomain?).getLast?

/-- Whether two runs of observations mention the same: the same of what adds up, and the same last
    location and last system domain. -/
structure MentionSame (os os' : List Observation) : Prop where
  mem_iff : ∀ o, o.isExclusive = false → (o ∈ os ↔ o ∈ os')
  location_eq : lastLocation? os = lastLocation? os'
  systemDomain_eq : lastSystemDomain? os = lastSystemDomain? os'

theorem MentionSame.symm {os os' : List Observation} (h : MentionSame os os') :
    MentionSame os' os where
  mem_iff o ho := (h.mem_iff o ho).symm
  location_eq := h.location_eq.symm
  systemDomain_eq := h.systemDomain_eq.symm

end Observation

namespace Snapshot

theorem ofObservations_concat (os : List Observation) (o : Observation) :
    ofObservations (os ++ [o]) = (ofObservations os).observe o := by
  rw [ofObservations, List.foldl_append]
  rfl

/-- What each observation of one kind replaces is in the end what the last of them says. -/
theorem last_ofObservations {view : Snapshot → Option String} {said : Observation → Option String}
    (hempty : view empty = none)
    (hobserve : ∀ s o, view (s.observe o) = (said o).or (view s)) (os : List Observation) :
    view (ofObservations os) = (os.filterMap said).getLast? := by
  induction os using List.reverseRecOn with
  | nil => exact hempty
  | append_singleton os o ih =>
      rw [ofObservations_concat, hobserve, ih, List.filterMap_append, List.getLast?_append]
      cases ho : said o with
      | none => simp [ho]
      | some x => simp [ho]

theorem location_ofObservations (os : List Observation) :
    (ofObservations os).location = Observation.lastLocation? os :=
  last_ofObservations rfl (fun _ o => by cases o <;> rfl) os

theorem systemDomain_ofObservations (os : List Observation) :
    (ofObservations os).systemDomain = Observation.lastSystemDomain? os :=
  last_ofObservations rfl (fun _ o => by cases o <;> rfl) os

/-- An observation adds itself to what is shown, of what adds up. -/
theorem shows_observe_iff (s : Snapshot) (o : Observation) {p : Observation}
    (hp : p.isExclusive = false) : (s.observe o).Shows p ↔ s.Shows p ∨ p = o := by
  cases p with
  | location _ | systemDomain _ => cases hp
  | ncu _ | enm _ | address _ | advertisedDomain _ | essid _ | bssid _ =>
      cases o <;> simp [observe, Shows]

/-- Of what adds up, a run shows what it mentions. -/
theorem shows_ofObservations_iff (os : List Observation) {p : Observation}
    (hp : p.isExclusive = false) : (ofObservations os).Shows p ↔ p ∈ os := by
  induction os using List.reverseRecOn with
  | nil =>
      cases p with
      | location _ | systemDomain _ => cases hp
      | ncu _ | enm _ | address _ | advertisedDomain _ | essid _ | bssid _ =>
          simp [ofObservations, empty, Shows]
  | append_singleton os o ih =>
      rw [ofObservations_concat, shows_observe_iff _ _ hp, ih, List.mem_append,
        List.mem_singleton]

/-- **Runs that mention the same come to show the same.** -/
theorem ofObservations_le {os os' : List Observation} (h : Observation.MentionSame os os') :
    ofObservations os ≤ ofObservations os' := by
  intro o ho
  cases hkind : o.isExclusive with
  | false =>
      rw [shows_ofObservations_iff os hkind] at ho
      exact (shows_ofObservations_iff os' hkind).2 ((h.mem_iff o hkind).1 ho)
  | true =>
      cases o with
      | location name =>
          rw [Shows, location_ofObservations] at ho ⊢
          rw [← h.location_eq, ho]
      | systemDomain d =>
          rw [Shows, systemDomain_ofObservations] at ho ⊢
          rw [← h.systemDomain_eq, ho]
      | ncu _ | enm _ | address _ | advertisedDomain _ | essid _ | bssid _ => cases hkind

end Snapshot

end NetActivation
