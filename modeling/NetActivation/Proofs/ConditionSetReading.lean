import Mathlib.Data.List.Forall2
import NetActivation.Proofs.ConditionSetText

set_option autoImplicit false

/-! # What texts make of a set

Texts are read one after the other up to the first that is no condition, and only if there is none
the set is validated. So a malformed text is reported whatever the mode, and the first one if there
are several (`parseAll_eq_error_iff`). What is read is never blank, because no word stands for the
blank field, so all that can be wrong with the set is that a conditional mode has no conditions
(`build_of_reads`). `ofTexts_outcome` says for each outcome when it arises, and that a set and its
texts determine each other. -/

namespace NetActivation.ConditionSet

/-! ## Texts in order -/

/-- Texts stand for conditions, each for the one in its place. -/
def Reads (texts : List String) (conditions : List Condition) : Prop :=
  List.Forall₂ (fun t c => Condition.parse t = .ok c) texts conditions

/-- The error of the first text that is no condition. -/
def FirstMalformed (texts : List String) (e : ParseError) : Prop :=
  ∃ before t behind, texts = before ++ t :: behind ∧
    (∀ u ∈ before, ∃ c, Condition.parse u = .ok c) ∧ Condition.parse t = .error e

theorem firstMalformed_cons_of_ok {t : String} {ts : List String} {c : Condition} {e : ParseError}
    (h : Condition.parse t = .ok c) : FirstMalformed (t :: ts) e ↔ FirstMalformed ts e := by
  constructor
  · rintro ⟨before, u, behind, hsplit, hbefore, hu⟩
    cases before with
    | nil =>
        obtain ⟨rfl, rfl⟩ := List.cons.inj hsplit
        rw [h] at hu
        cases hu
    | cons v before =>
        obtain ⟨rfl, rfl⟩ := List.cons.inj hsplit
        exact ⟨before, u, behind, rfl, fun w hw => hbefore w (List.mem_cons_of_mem _ hw), hu⟩
  · rintro ⟨before, u, behind, rfl, hbefore, hu⟩
    refine ⟨t :: before, u, behind, rfl, ?_, hu⟩
    intro w hw
    rcases List.mem_cons.1 hw with rfl | hw
    · exact ⟨c, h⟩
    · exact hbefore w hw

theorem firstMalformed_cons_of_error {t : String} {ts : List String} {e e' : ParseError}
    (h : Condition.parse t = .error e) : FirstMalformed (t :: ts) e' ↔ e = e' := by
  constructor
  · rintro ⟨before, u, behind, hsplit, hbefore, hu⟩
    cases before with
    | nil =>
        obtain ⟨rfl, rfl⟩ := List.cons.inj hsplit
        exact Except.error.inj (h.symm.trans hu)
    | cons v before =>
        obtain ⟨rfl, -⟩ := List.cons.inj hsplit
        obtain ⟨c, hc⟩ := hbefore t (List.mem_cons_self ..)
        rw [h] at hc
        cases hc
  · rintro rfl
    exact ⟨[], t, ts, rfl, nofun, h⟩

/-! ## Reading them -/

theorem parseAll_cons_of_error {t : String} {e : ParseError} (h : Condition.parse t = .error e)
    (ts : List String) : parseAll (t :: ts) = .error e := by
  simp only [parseAll, h]
  rfl

theorem parseAll_cons_of_ok {t : String} {c : Condition} (h : Condition.parse t = .ok c)
    (ts : List String) : parseAll (t :: ts) = (parseAll ts).map (c :: ·) := by
  simp only [parseAll, h]
  cases parseAll ts <;> rfl

/-- Reading fails with the error of the first malformed text. -/
theorem parseAll_eq_error_iff {texts : List String} {e : ParseError} :
    parseAll texts = .error e ↔ FirstMalformed texts e := by
  induction texts with
  | nil =>
      constructor
      · intro h
        cases h
      · rintro ⟨before, t, behind, hsplit, -⟩
        exact absurd hsplit (by simp)
  | cons t ts ih =>
      cases ht : Condition.parse t with
      | error first =>
          rw [parseAll_cons_of_error ht, firstMalformed_cons_of_error ht, Except.error.injEq]
      | ok c =>
          rw [parseAll_cons_of_ok ht, firstMalformed_cons_of_ok ht, ← ih]
          cases parseAll ts <;> simp [Except.map]

/-- It succeeds with the conditions that the texts stand for. -/
theorem parseAll_eq_ok_iff {texts : List String} {conditions : List Condition} :
    parseAll texts = .ok conditions ↔ Reads texts conditions := by
  induction texts generalizing conditions with
  | nil =>
      rw [Reads, List.forall₂_nil_left_iff]
      constructor
      · intro h
        exact (Except.ok.inj h).symm
      · rintro rfl
        rfl
  | cons t ts ih =>
      rw [Reads, List.forall₂_cons_left_iff]
      cases ht : Condition.parse t with
      | error first =>
          rw [parseAll_cons_of_error ht]
          simp
      | ok c =>
          rw [parseAll_cons_of_ok ht]
          constructor
          · intro h
            cases hts : parseAll ts with
            | error first =>
                rw [hts] at h
                cases h
            | ok cs =>
                rw [hts] at h
                exact ⟨c, cs, rfl, ih.1 hts, (Except.ok.inj h).symm⟩
          · rintro ⟨d, cs, hd, hcs, rfl⟩
            obtain rfl := Except.ok.inj hd
            rw [ih.2 hcs]
            rfl

/-! ## The set -/

theorem isBlank_of_parse {t : String} {c : Condition} (h : Condition.parse t = .ok c) :
    c.isBlank = false :=
  beq_eq_false_iff_ne.2 (Condition.field_ne_blank_of_parse h)

theorem Reads.isBlank_of_mem {texts : List String} {conditions : List Condition}
    (h : Reads texts conditions) : ∀ c ∈ conditions, c.isBlank = false := by
  induction h with
  | nil => nofun
  | cons hc _ ih =>
      intro d hd
      rcases List.mem_cons.1 hd with rfl | hd
      · exact isBlank_of_parse hc
      · exact ih d hd

theorem Reads.eq_nil_iff {texts : List String} {conditions : List Condition}
    (h : Reads texts conditions) : texts = [] ↔ conditions = [] := by
  cases h <;> simp

/-- Of conditions that were read, a set can only fail to be made because there are none. -/
theorem build_of_reads {texts : List String} {conditions : List Condition}
    (h : Reads texts conditions) (mode : Mode) :
    build mode conditions =
      if mode.isConditional = true ∧ texts = [] then .error .noRules
      else .ok ⟨mode, conditions⟩ := by
  have hnone : conditions.findIdx? Condition.isBlank = none :=
    List.findIdx?_eq_none_iff.2 h.isBlank_of_mem
  simp only [build, hnone, Bool.and_eq_true, List.isEmpty_iff, h.eq_nil_iff]

theorem ofTexts_of_firstMalformed {texts : List String} {e : ParseError}
    (h : FirstMalformed texts e) (mode : Mode) : ofTexts mode texts = .error (.parse e) := by
  rw [ofTexts, parseAll_eq_error_iff.2 h]

theorem ofTexts_of_reads {texts : List String} {conditions : List Condition}
    (h : Reads texts conditions) (mode : Mode) :
    ofTexts mode texts =
      if mode.isConditional = true ∧ texts = [] then .error (.validation .noRules)
      else .ok ⟨mode, conditions⟩ := by
  rw [ofTexts, parseAll_eq_ok_iff.2 h]
  simp only [build_of_reads h]
  split <;> rfl

/-- Texts stand for conditions, or there is a first one that does not. -/
theorem reads_or_firstMalformed (texts : List String) :
    (∃ conditions, Reads texts conditions) ∨ ∃ e, FirstMalformed texts e := by
  cases h : parseAll texts with
  | ok conditions => exact Or.inl ⟨conditions, parseAll_eq_ok_iff.1 h⟩
  | error e => exact Or.inr ⟨e, parseAll_eq_error_iff.1 h⟩

/-- Texts that were read and make a set have no more to say than the set. -/
theorem ofTexts_eq_ok_iff {mode : Mode} {texts : List String} {set : ConditionSet} :
    ofTexts mode texts = .ok set ↔ set.mode = mode ∧ Reads texts set.conditions ∧
      (mode.isConditional = true → texts ≠ []) := by
  constructor
  · intro h
    rcases reads_or_firstMalformed texts with ⟨conditions, hreads⟩ | ⟨e, hfirst⟩
    · rw [ofTexts_of_reads hreads] at h
      split at h
      · cases h
      · next hrules =>
          obtain rfl := Except.ok.inj h
          exact ⟨rfl, hreads, fun hconditional hnil => hrules ⟨hconditional, hnil⟩⟩
    · rw [ofTexts_of_firstMalformed hfirst] at h
      cases h
  · rintro ⟨rfl, hreads, hne⟩
    rw [ofTexts_of_reads hreads, if_neg fun hlacks => hne hlacks.1 hlacks.2]

theorem ofTexts_eq_parse_iff {mode : Mode} {texts : List String} {e : ParseError} :
    ofTexts mode texts = .error (.parse e) ↔ FirstMalformed texts e := by
  constructor
  · intro h
    rcases reads_or_firstMalformed texts with ⟨conditions, hreads⟩ | ⟨first, hfirst⟩
    · rw [ofTexts_of_reads hreads] at h
      split at h <;> cases h
    · rw [ofTexts_of_firstMalformed hfirst] at h
      cases h
      exact hfirst
  · intro hfirst
    exact ofTexts_of_firstMalformed hfirst mode

theorem ofTexts_eq_validation_iff {mode : Mode} {texts : List String} {e : ValidationError} :
    ofTexts mode texts = .error (.validation e) ↔
      e = .noRules ∧ mode.isConditional = true ∧ texts = [] := by
  constructor
  · intro h
    rcases reads_or_firstMalformed texts with ⟨conditions, hreads⟩ | ⟨first, hfirst⟩
    · rw [ofTexts_of_reads hreads] at h
      split at h
      · next hlacks =>
          cases h
          exact ⟨rfl, hlacks⟩
      · cases h
    · rw [ofTexts_of_firstMalformed hfirst] at h
      cases h
  · rintro ⟨rfl, hlacks⟩
    obtain rfl := hlacks.2
    rw [ofTexts_of_reads List.Forall₂.nil, if_pos hlacks]

/-- One malformed text is enough for texts to be refused as such. -/
theorem exists_firstMalformed {texts : List String} {t : String} {e : ParseError} (ht : t ∈ texts)
    (he : Condition.parse t = .error e) : ∃ first, FirstMalformed texts first := by
  rcases reads_or_firstMalformed texts with ⟨conditions, hreads⟩ | hfirst
  · obtain ⟨i, hi, rfl⟩ := List.getElem_of_mem ht
    have hc := hreads.get hi (hreads.length_eq ▸ hi)
    exact absurd (he.symm.trans hc) nofun
  · exact hfirst

/-- **What texts make of a set.** A malformed text is reported before anything else, the first one
    if there are several, whatever the mode. Then a lack of rules is, which is a conditional mode
    without texts, and no other fault is ever found. Else the set holds what the texts stand for, in
    order. A set that was built is made again from its texts, and texts that were written for a set
    come back as they are. -/
theorem ofTexts_outcome (mode : Mode) (texts : List String) :
    (∀ t ∈ texts, ∀ e, Condition.parse t = .error e →
      ∃ first, ofTexts mode texts = .error (.parse first)) ∧
    (∀ e, ofTexts mode texts = .error (.parse e) ↔ FirstMalformed texts e) ∧
    (∀ e, ofTexts mode texts = .error (.validation e) ↔
      e = .noRules ∧ mode.isConditional = true ∧ texts = []) ∧
    (∀ set, ofTexts mode texts = .ok set ↔ set.mode = mode ∧ Reads texts set.conditions ∧
      (mode.isConditional = true → texts ≠ [])) ∧
    (∀ conditions set, build mode conditions = .ok set →
      ofTexts set.mode set.texts = .ok set) ∧
    ∀ set, ofTexts mode texts = .ok set →
      (ofTexts set.mode set.texts).map ConditionSet.texts = .ok set.texts := by
  refine ⟨?_, fun _ => ofTexts_eq_parse_iff, fun _ => ofTexts_eq_validation_iff,
    fun _ => ofTexts_eq_ok_iff, ?_, ?_⟩
  · intro t ht e he
    obtain ⟨first, hfirst⟩ := exists_firstMalformed ht he
    exact ⟨first, ofTexts_of_firstMalformed hfirst mode⟩
  · intro conditions set hset
    exact ofTexts_texts (build_eq_ok_iff.1 hset).2
  · intro set hset
    rw [ofTexts_texts (valid_of_ofTexts hset)]
    rfl

/-- Two malformed texts behind one that is a condition. -/
def misspeltTexts : List String := ["essid is-not x", "ncu equals net0", "mac is 00:11"]

/-- A text with white space and an escape that are written in another way. -/
def looseTexts : List String := ["\u00a0essid\tcontains  \"a\\nb\""]

theorem ofTexts_outcome_misspelt :
    Condition.parse "mac is 00:11" = .error ⟨"mac is 00:11", 0, some .field⟩ ∧
      (∃ first, ofTexts .all misspeltTexts = .error (.parse first)) ∧
      ofTexts .all misspeltTexts = .error (.parse ⟨"ncu equals net0", 4, some .operator⟩) ∧
      ofTexts .any [] = .error (.validation .noRules) ∧
      ofTexts .any looseTexts = .ok ⟨.any, [⟨.essid, .contains, "a\\nb"⟩]⟩ ∧
      build .any [⟨.essid, .contains, "a\\nb"⟩] =
        .ok ⟨.any, [⟨.essid, .contains, "a\\nb"⟩]⟩ ∧
      ofTexts .any ["essid contains \"a\\\\nb\""] =
        .ok ⟨.any, [⟨.essid, .contains, "a\\nb"⟩]⟩ ∧
      (ofTexts .any ["essid contains \"a\\\\nb\""]).map ConditionSet.texts =
        .ok ["essid contains \"a\\\\nb\""] := by
  have hmac : Condition.parse "mac is 00:11" = .error ⟨"mac is 00:11", 0, some .field⟩ := by rfl
  have hfirst : FirstMalformed misspeltTexts ⟨"ncu equals net0", 4, some .operator⟩ := by
    refine ⟨["essid is-not x"], "ncu equals net0", ["mac is 00:11"], rfl, ?_, by rfl⟩
    intro u hu
    obtain rfl := List.mem_singleton.1 hu
    exact ⟨⟨.essid, .isNot, "x"⟩, by rfl⟩
  have hloose : ofTexts .any looseTexts = .ok ⟨.any, [⟨.essid, .contains, "a\\nb"⟩]⟩ := by rfl
  have hbuild : build .any [⟨.essid, .contains, "a\\nb"⟩] =
      .ok ⟨.any, [⟨.essid, .contains, "a\\nb"⟩]⟩ := by rfl
  obtain ⟨hmalformed, hparse, -, -, -, -⟩ := ofTexts_outcome .all misspeltTexts
  obtain ⟨-, -, hvalidation, -, -, -⟩ := ofTexts_outcome .any []
  obtain ⟨-, -, -, -, hmade, hstable⟩ := ofTexts_outcome .any looseTexts
  exact ⟨hmac, hmalformed _ (by simp [misspeltTexts]) _ hmac, (hparse _).2 hfirst,
    (hvalidation _).2 ⟨rfl, rfl, rfl⟩, hloose, hbuild, hmade _ _ hbuild, hstable _ hloose⟩

end NetActivation.ConditionSet
