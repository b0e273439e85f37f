import NetActivation.Proofs.DefiniteConditions
import NetActivation.Proofs.Lists

set_option autoImplicit false

/-! # Conditions on texts

A condition on texts compares its value with what was observed, hardware addresses without regard
to the case of their ASCII letters. Evaluation makes both texts small before it searches one in the
other or compares them, which comes to the same as comparing small texts as they are
(`Condition.eval_text`), and texts are the same once made small exactly if they differ in the case
of letters alone (`Text.foldCase_eq_iff`). Main statement: `Condition.text_conditions_decided`. -/

namespace NetActivation

namespace Text

/-! ## Case -/

/-- Whether a character is an ASCII capital and another the small letter to it. -/
def IsCapitalOf (c d : Char) : Prop := 65 ≤ c.toNat ∧ c.toNat ≤ 90 ∧ d.toNat = c.toNat + 32

/-- Whether two characters are the same but for the case of an ASCII letter. -/
def SameLetter (c d : Char) : Prop := c = d ∨ IsCapitalOf c d ∨ IsCapitalOf d c

instance (c d : Char) : Decidable (IsCapitalOf c d) := inferInstanceAs (Decidable (_ ∧ _ ∧ _))

instance : DecidableRel SameLetter := fun c d => inferInstanceAs (Decidable (c = d ∨ _))

/-- Whether two texts are the same but for the case of ASCII letters. -/
def SameButCase (s t : String) : Prop := List.Forall₂ SameLetter s.toList t.toList

instance (s t : String) : Decidable (SameButCase s t) :=
  inferInstanceAs (Decidable (List.Forall₂ _ _ _))

theorem toNat_toLower (c : Char) :
    c.toLower.toNat = if 65 ≤ c.toNat ∧ c.toNat ≤ 90 then c.toNat + 32 else c.toNat := by
  have hcapital : (c.val ≥ 'A'.val ∧ c.val ≤ 'Z'.val) ↔ 65 ≤ c.toNat ∧ c.toNat ≤ 90 :=
    and_congr UInt32.le_iff_toNat_le UInt32.le_iff_toNat_le
  by_cases h : c.val ≥ 'A'.val ∧ c.val ≤ 'Z'.val
  · have hlower : c.toLower.val = c.val + ('a'.val - 'A'.val) := congrArg Char.val (dif_pos h)
    have hsum : (c.val + ('a'.val - 'A'.val)).toNat = (c.toNat + 32) % 2 ^ 32 :=
      UInt32.toNat_add _ _
    obtain ⟨hfirst, hlast⟩ := hcapital.1 h
    rw [if_pos ⟨hfirst, hlast⟩, ← Char.toNat_val, hlower, hsum]
    omega
  · have hlower : c.toLower = c := dif_neg h
    rw [if_neg fun hc => h (hcapital.2 hc), hlower]

theorem toLower_eq_iff {c d : Char} : c.toLower = d.toLower ↔ SameLetter c d := by
  rw [← Char.toNat_inj, toNat_toLower, toNat_toLower, SameLetter, IsCapitalOf, IsCapitalOf,
    ← Char.toNat_inj]
  split <;> split <;> omega

/-- Texts are the same once made small exactly if they differ in the case of letters alone. -/
theorem foldCase_eq_iff {s t : List Char} :
    foldCase s = foldCase t ↔ List.Forall₂ SameLetter s t := by
  rw [foldCase, foldCase, map_eq_map_iff]
  simp only [toLower_eq_iff]

end Text

/-! ## What is compared -/

/-- The fields whose conditions compare texts. -/
def Field.ofTexts : List Field := [.advertisedDomain, .systemDomain, .essid, .bssid]

/-- What is compared of a text under a field: the text itself, or a hardware address with its ASCII
    capitals made small. -/
def Field.compared (field : Field) (s : String) : String :=
  match field with
  | .bssid => String.ofList (Text.foldCase s.toList)
  | _ => s

/-- The texts that a snapshot shows to conditions on a field. -/
def Snapshot.texts (s : Snapshot) (field : Field) : List String :=
  match field with
  | .advertisedDomain => s.advertisedDomains
  | .systemDomain => s.systemDomains
  | .essid => s.essids
  | .bssid => s.bssids
  | .ncu | .enm | .loc | .ipAddress | .blank => []

theorem Field.compared_append (field : Field) (s t : String) :
    field.compared (s ++ t) = field.compared s ++ field.compared t := by
  cases field with
  | bssid => simp [compared, Text.foldCase]
  | ncu | enm | loc | ipAddress | advertisedDomain | systemDomain | essid | blank => rfl

theorem Field.compared_bssid_eq_iff {s t : String} :
    Field.bssid.compared s = Field.bssid.compared t ↔ Text.SameButCase s t := by
  rw [compared, compared, String.ofList_inj, Text.foldCase_eq_iff, Text.SameButCase]

namespace Condition

variable {op : Operator} {value : String} {observed : List String}

/-- Texts may as well be turned into what is compared of them beforehand. -/
theorem evalText_view (view : List Char → List Char) :
    evalText view op value observed =
      evalText id op (String.ofList (view value.toList))
        (observed.map fun o => String.ofList (view o.toList)) := by
  cases op <;> simp [evalText, Function.comp_def]

theorem eval_text {field : Field} (hfield : field ∈ Field.ofTexts) (s : Snapshot) :
    (⟨field, op, value⟩ : Condition).eval s =
      evalText id op (field.compared value) ((s.texts field).map field.compared) := by
  have hsame : ∀ l : List String, evalText id op value l = evalText id op value (l.map fun o => o) :=
    fun l => by rw [List.map_id']
  simp only [Field.ofTexts, List.mem_cons, List.not_mem_nil, or_false] at hfield
  rcases hfield with rfl | rfl | rfl | rfl
  · exact hsame s.advertisedDomains
  · exact hsame s.systemDomains
  · exact hsame s.essids
  · exact evalText_view Text.foldCase

/-! ## What is found -/

section

variable {field : Field} (hfield : field ∈ Field.ofTexts) (value : String) (s : Snapshot)

include hfield

theorem decidedBy_contains : (⟨field, .contains, value⟩ : Condition).DecidedBy s
    (∃ o ∈ s.texts field, ∃ p q, field.compared o = p ++ field.compared value ++ q) := by
  refine ⟨_, eval_text hfield s, ?_⟩
  simp [Operator.isNegated, Text.occursIn_toList_iff]

theorem decidedBy_equal (hop : op ∈ [Operator.is, .includes]) :
    (⟨field, op, value⟩ : Condition).DecidedBy s
      (∃ o ∈ s.texts field, field.compared o = field.compared value) := by
  simp only [List.mem_cons, List.not_mem_nil, or_false] at hop
  rcases hop with rfl | rfl
  all_goals
    refine ⟨_, eval_text hfield s, ?_⟩
    simp [Operator.isNegated, String.toList_inj]

end

/-- Conditions on hardware addresses see no case. -/
theorem eval_bssid_congr {s t : Snapshot} {variant : String} (hvalue : Text.SameButCase value variant)
    (hobserved : List.Forall₂ Text.SameButCase s.bssids t.bssids) :
    (⟨.bssid, op, value⟩ : Condition).eval s = (⟨.bssid, op, variant⟩ : Condition).eval t := by
  have hmap : s.bssids.map Field.bssid.compared = t.bssids.map Field.bssid.compared := by
    rw [map_eq_map_iff]
    simpa only [Field.compared_bssid_eq_iff] using hobserved
  have hfield : Field.bssid ∈ Field.ofTexts := by decide
  rw [eval_text hfield, eval_text hfield, Field.compared_bssid_eq_iff.2 hvalue]
  exact congrArg (evalText id op (Field.bssid.compared variant)) hmap

/-- **Conditions on texts are decided by the texts.** Whether something contains the value, and
    whether something is or includes it, can always be decided, and says that some observed text has
    the value in it or equals it; of hardware addresses with all ASCII letters small, of other texts
    as they are. So the case of letters makes no difference to any operator on hardware addresses,
    be it in the value or in what was observed; where something is the value, something contains
    it; and where something contains a value, something contains every part of it. -/
theorem text_conditions_decided {field : Field} (hfield : field ∈ Field.ofTexts) (value : String)
    (s : Snapshot) :
    (⟨field, .contains, value⟩ : Condition).DecidedBy s
      (∃ o ∈ s.texts field, ∃ p q, field.compared o = p ++ field.compared value ++ q) ∧
    (∀ op ∈ [Operator.is, .includes], (⟨field, op, value⟩ : Condition).DecidedBy s
      (∃ o ∈ s.texts field, field.compared o = field.compared value)) ∧
    (field = .bssid → ∀ (variant : String) (t : Snapshot), Text.SameButCase value variant →
      List.Forall₂ Text.SameButCase (s.texts field) (t.texts field) →
      ∀ op, (⟨field, op, value⟩ : Condition).eval s = (⟨field, op, variant⟩ : Condition).eval t) ∧
    ((⟨field, .is, value⟩ : Condition).eval s = some true →
      (⟨field, .contains, value⟩ : Condition).eval s = some true) ∧
    ∀ before part behind, value = before ++ part ++ behind →
      (⟨field, .contains, value⟩ : Condition).eval s = some true →
      (⟨field, .contains, part⟩ : Condition).eval s = some true := by
  have hequal (op : Operator) (hop : op ∈ [Operator.is, .includes]) :=
    decidedBy_equal hfield value s hop
  have hcontains (v : String) := decidedBy_contains hfield v s
  refine ⟨hcontains value, hequal, ?_, ?_, ?_⟩
  · rintro rfl variant t hvalue hobserved op
    exact eval_bssid_congr hvalue hobserved
  · intro his
    obtain ⟨o, ho, hsame⟩ := ((hequal .is (by decide)).eq_true_iff).1 his
    refine (hcontains value).eq_true_iff.2 ⟨o, ho, "", "", ?_⟩
    rw [hsame, String.empty_append, String.append_empty]
  · rintro before part behind rfl hheld
    obtain ⟨o, ho, p, q, hfound⟩ := (hcontains _).eq_true_iff.1 hheld
    refine (hcontains part).eq_true_iff.2
      ⟨o, ho, p ++ field.compared before, field.compared behind ++ q, ?_⟩
    rw [hfound, Field.compared_append, Field.compared_append]
    simp only [String.append_assoc]

/-- A hardware address with a letter in it that is not of the ASCII alphabet. -/
def accessPoint : Snapshot := { bssids := ["00:1B:2c:ÉS"] }

/-- The same address with other capitals, and a part of it. The letter with the accent has a case
    too, but not one that is left out of account. -/
theorem text_conditions_decided_accessPoint :
    (⟨.bssid, .contains, "00:1b:2C:És"⟩ : Condition).eval accessPoint = some true ∧
      (⟨.bssid, .contains, "2C:É"⟩ : Condition).eval accessPoint = some true ∧
      (⟨.bssid, .isNot, "00:1b:2C:És"⟩ : Condition).eval { bssids := ["00:1b:2c:És"] } =
        some false ∧
      (⟨.bssid, .is, "00:1b:2C:és"⟩ : Condition).eval accessPoint = some false := by
  have hfield : Field.bssid ∈ Field.ofTexts := by decide
  obtain ⟨-, hequal, hcase, hcontains, hpart⟩ :=
    text_conditions_decided hfield "00:1b:2C:És" accessPoint
  obtain ⟨-, hother, -⟩ := text_conditions_decided hfield "00:1b:2C:és" accessPoint
  have hheld := hcontains ((hequal .is (by decide)).eq_true_iff.2 (by decide +kernel))
  have hsame := hcase rfl "00:1b:2C:És" { bssids := ["00:1b:2c:És"] } (by decide +kernel)
    (by decide +kernel) .isNot
  refine ⟨hheld, hpart "00:1b:" "2C:É" "s" (by decide +kernel) hheld, ?_, ?_⟩
  · rw [← hsame]
    decide +kernel
  · exact (hother .is (by decide)).eq_false (by decide +kernel)

end Condition

end NetActivation
