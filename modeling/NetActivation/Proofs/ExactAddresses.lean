import NetActivation.Proofs.AddressRanges
import NetActivation.Proofs.EvaluationLaws

set_option autoImplicit false

/-! # Exact addresses as ranges

A condition asks for an address either exactly or within a range, and the two read their value with
different readers, of which the second tries networks before it tries addresses. But a text that
stands for an address has only digits, points and colons in it (`Address.isAddressChar_of_read?`)
and a network needs a slash, so no text is both. Hence an address is read as the network that holds
it alone (`Network.read?_of_address`), and the two conditions agree wherever both can be decided.
Main statement: `Condition.exact_address_agrees`. -/

namespace NetActivation

/-! ## The characters of an address -/

namespace Address

/-- A character that can stand in the text of an address. -/
def IsAddressChar (c : Char) : Prop := c = '.' ∨ c = ':' ∨ (Text.digit? 16 c).isSome = true

instance (c : Char) : Decidable (IsAddressChar c) := inferInstanceAs (Decidable (_ ∨ _))

variable {sp : Spelling} {s : List Char}

theorem isAddressChar_of_readOctet {o : Nat} (h : readOctet sp s = some o) :
    ∀ c ∈ s, IsAddressChar c := by
  rw [readOctet] at h
  split at h
  · intro c hc
    have hnumber := Option.eq_some_of_filter_eq_some h
    have hdigit := Text.isSome_digit?_of_number? hnumber c hc
    exact Or.inr (Or.inr (Text.isSome_digit?_mono (by decide) hdigit))
  · cases h

theorem isAddressChar_of_readGroup {g : Nat} (h : readGroup s = some g) :
    ∀ c ∈ s, IsAddressChar c := by
  rw [readGroup] at h
  split at h
  · intro c hc
    exact Or.inr (Or.inr (Text.isSome_digit?_of_number? h c hc))
  · cases h

theorem isAddressChar_of_mapM_readOctet {fs : List (List Char)} {os : List Nat}
    (h : fs.mapM (readOctet sp) = some os) : ∀ f ∈ fs, ∀ c ∈ f, IsAddressChar c := by
  induction fs generalizing os with
  | nil => exact nofun
  | cons f fs ih =>
      rw [List.mapM_cons] at h
      obtain ⟨o, ho, hrest⟩ := Option.bind_eq_some_iff.1 h
      obtain ⟨os', hos, -⟩ := Option.bind_eq_some_iff.1 hrest
      exact List.forall_mem_cons.2 ⟨isAddressChar_of_readOctet ho, ih hos⟩

/-- Between fields there are only separators. -/
theorem isAddressChar_of_fields {sep : Char} (hsep : IsAddressChar sep)
    (h : ∀ f ∈ Text.fields sep s, ∀ c ∈ f, IsAddressChar c) : ∀ c ∈ s, IsAddressChar c := by
  intro c hc
  have hcut : c = sep ∨ ∃ f ∈ Text.fields sep s, c ∈ f := Text.mem_fields hc
  rcases hcut with rfl | ⟨f, hf, hmem⟩
  · exact hsep
  · exact h f hf c hmem

theorem isAddressChar_of_readOctets {os : List Nat} (h : readOctets sp s = some os) :
    ∀ c ∈ s, IsAddressChar c := by
  simp only [readOctets] at h
  split at h
  · exact isAddressChar_of_fields (by decide) (isAddressChar_of_mapM_readOctet h)
  · cases h

theorem isAddressChar_of_readGroups {quad : Bool} {fs : List (List Char)} {gs : List Nat}
    (h : readGroups sp quad fs = some gs) : ∀ f ∈ fs, ∀ c ∈ f, IsAddressChar c := by
  fun_induction readGroups sp quad fs generalizing gs with
  | case1 => exact nofun
  | case2 f g hg => exact List.forall_mem_singleton.2 (isAddressChar_of_readGroup hg)
  | case3 f hnone hquad =>
      obtain ⟨os, hos, -⟩ := Option.map_eq_some_iff.1 h
      exact List.forall_mem_singleton.2 (isAddressChar_of_readOctets hos)
  | case4 => cases h
  | case5 f fs hne ih =>
      obtain ⟨g, hg, hrest⟩ := Option.bind_eq_some_iff.1 h
      obtain ⟨gs', hgs, -⟩ := Option.bind_eq_some_iff.1 hrest
      exact List.forall_mem_cons.2 ⟨isAddressChar_of_readGroup hg, ih hgs⟩

theorem isAddressChar_of_readSide {quad : Bool} {gs : List Nat}
    (h : readSide sp quad s = some gs) : ∀ c ∈ s, IsAddressChar c := by
  rw [readSide] at h
  split at h
  · next hempty =>
      intro c hc
      rw [List.isEmpty_iff.1 hempty] at hc
      cases hc
  · exact isAddressChar_of_fields (by decide) (isAddressChar_of_readGroups h)

/-- A text is cut at the first double colon, and nothing else of it is lost. -/
theorem eq_of_splitGap {before behind : List Char} (h : splitGap s = some (before, behind)) :
    s = before ++ ':' :: ':' :: behind := by
  fun_induction splitGap s generalizing before behind with
  | case1 => cases h
  | case2 rest =>
      cases h
      rfl
  | case3 c rest hne ih =>
      obtain ⟨⟨front, back⟩, hrest, heq⟩ := Option.map_eq_some_iff.1 h
      cases heq
      rw [ih hrest]
      rfl

theorem isAddressChar_of_readAllGroups {gs : List Nat} (h : readAllGroups sp s = some gs) :
    ∀ c ∈ s, IsAddressChar c := by
  rw [readAllGroups] at h
  split at h
  · exact isAddressChar_of_readSide (Option.eq_some_of_filter_eq_some h)
  · next before behind hgap =>
      obtain ⟨head, hhead, hrest⟩ := Option.bind_eq_some_iff.1 h
      obtain ⟨tail, htail, -⟩ := Option.bind_eq_some_iff.1 hrest
      have hcolon : IsAddressChar ':' := by decide
      rw [eq_of_splitGap hgap]
      refine List.forall_mem_append.2 ⟨isAddressChar_of_readSide hhead, ?_⟩
      exact List.forall_mem_cons.2 ⟨hcolon,
        List.forall_mem_cons.2 ⟨hcolon, isAddressChar_of_readSide htail⟩⟩

/-- What is read as an address has only digits, points and colons in it. -/
theorem isAddressChar_of_read? {a : Address} (h : read? sp s = some a) :
    ∀ c ∈ s, IsAddressChar c := by
  rw [read?] at h
  split at h
  · next os hos => exact isAddressChar_of_readOctets hos
  · obtain ⟨gs, hgs, -⟩ := Option.map_eq_some_iff.1 h
    exact isAddressChar_of_readAllGroups hgs

/-- No address has a slash in its text. -/
theorem slash_not_mem_of_read? {a : Address} (h : read? sp s = some a) : '/' ∉ s := by
  intro hslash
  have hchar := isAddressChar_of_read? h '/' hslash
  revert hchar
  decide

end Address

namespace Network

/-- What is read as an address is read as the network that holds this address alone. -/
theorem read?_of_address {s : List Char} {a : Address} (h : Address.read? .alone s = some a) :
    read? s = some (single a) := by
  rw [read?, readSlash?_of_slash_not_mem (Address.slash_not_mem_of_read? h), h]
  rfl

theorem contains_single_iff {a x : Address} : (single a).contains x = true ↔ x = a :=
  contains_iff.trans Address.agreeOn_width_iff

theorem any_contains_single (a : Address) (observed : List Address) :
    observed.any (single a).contains = observed.contains a := by
  rw [Bool.eq_iff_iff, List.any_eq_true, List.contains_iff_mem]
  constructor
  · rintro ⟨x, hx, hcontains⟩
    rwa [← contains_single_iff.1 hcontains]
  · intro ha
    exact ⟨a, ha, contains_single_iff.2 rfl⟩

end Network

namespace Condition

variable {value : String} {s : Snapshot}

/-! ## Both ways to ask -/

theorem eval_is_eq_none_iff : (⟨.ipAddress, .is, value⟩ : Condition).eval s = none ↔
    Address.read? .alone (Text.trim value.toList) = none := by
  simp [eval_eq_none_iff, Undecidable]

theorem eval_inRange_eq_none_iff : (⟨.ipAddress, .inRange, value⟩ : Condition).eval s = none ↔
    Network.readSlash? (Text.trim value.toList) = none ∧
      Address.read? .alone (Text.trim value.toList) = none := by
  simp [eval_eq_none_iff, Undecidable]

/-- An address found by its own is found in its range. -/
theorem eval_inRange_of_eval_is {result : Bool}
    (h : (⟨.ipAddress, .is, value⟩ : Condition).eval s = some result) :
    (⟨.ipAddress, .inRange, value⟩ : Condition).eval s = some result := by
  cases hread : Address.read? .alone (Text.trim value.toList) with
  | none =>
      rw [eval_is_eq_none_iff.2 hread] at h
      cases h
  | some a =>
      rw [eval_is_of_read? s hread] at h
      rw [eval_inRange_of_read? s (Network.read?_of_address hread), Network.any_contains_single, h]

/-- Of the texts that stand for a range, those with a slash do not stand for an address. -/
theorem eval_is_eq_none_iff_slash_mem
    (h : (⟨.ipAddress, .inRange, value⟩ : Condition).eval s ≠ none) :
    (⟨.ipAddress, .is, value⟩ : Condition).eval s = none ↔ '/' ∈ Text.trim value.toList := by
  rw [eval_is_eq_none_iff]
  constructor
  · intro hnone
    by_contra hslash
    exact h (eval_inRange_eq_none_iff.2 ⟨Network.readSlash?_of_slash_not_mem hslash, hnone⟩)
  · intro hslash
    cases hread : Address.read? .alone (Text.trim value.toList) with
    | none => rfl
    | some a => exact absurd hslash (Address.slash_not_mem_of_read? hread)

/-- White space around a value that is compared with addresses does not count. -/
theorem eval_onAddress {before behind : String} (hbefore : Text.AllWhite before.toList)
    (hbehind : Text.AllWhite behind.toList) (op : Operator) (value : String) (s : Snapshot) :
    (onAddress op before value behind).eval s = (⟨.ipAddress, op, value⟩ : Condition).eval s := by
  have htrim : Text.trim (before ++ value ++ behind).toList = Text.trim value.toList := by
    rw [String.toList_append, String.toList_append, List.append_assoc,
      Text.trim_surround hbefore hbehind]
  show evalAddress op (before ++ value ++ behind) s.addresses = evalAddress op value s.addresses
  unfold evalAddress
  rw [htrim]

/-- The operators that ask for one address, each with the one that asks for a range in its place. -/
def addressOperators : List (Operator × Operator) := [(.is, .inRange), (.isNot, .notInRange)]

/-- **Exact addresses and ranges agree.** Let one operator ask for an address and the other for a
    range, both either asserted or denied. Whatever the value and the network, if the first can be
    decided then so can the second, with the same result; and where the second can be decided, the
    first cannot exactly if there is a slash in the value. White space around the value does not
    count for any operator. -/
theorem exact_address_agrees {op range : Operator} (hpair : (op, range) ∈ addressOperators)
    (value : String) (s : Snapshot) :
    (∀ result, (⟨.ipAddress, op, value⟩ : Condition).eval s = some result →
      (⟨.ipAddress, range, value⟩ : Condition).eval s = some result) ∧
    ((⟨.ipAddress, range, value⟩ : Condition).eval s ≠ none →
      ((⟨.ipAddress, op, value⟩ : Condition).eval s = none ↔ '/' ∈ Text.trim value.toList)) ∧
    ∀ before behind : String, Text.AllWhite before.toList → Text.AllWhite behind.toList →
      ∀ anyOp, (onAddress anyOp before value behind).eval s =
        (⟨.ipAddress, anyOp, value⟩ : Condition).eval s := by
  have hwhite : ∀ before behind : String, Text.AllWhite before.toList →
      Text.AllWhite behind.toList → ∀ anyOp, (onAddress anyOp before value behind).eval s =
        (⟨.ipAddress, anyOp, value⟩ : Condition).eval s :=
    fun _ _ hbefore hbehind anyOp => eval_onAddress hbefore hbehind anyOp value s
  simp only [addressOperators, List.mem_cons, Prod.mk.injEq, List.not_mem_nil, or_false] at hpair
  obtain ⟨rfl, rfl⟩ | ⟨rfl, rfl⟩ := hpair
  · exact ⟨fun _ => eval_inRange_of_eval_is, eval_is_eq_none_iff_slash_mem, hwhite⟩
  · -- The denied operators turn the result round on both sides.
    have his := eval_negate ⟨.ipAddress, .is, value⟩ s
    have hrange := eval_negate ⟨.ipAddress, .inRange, value⟩ s
    simp only [negate, Operator.partner] at his hrange
    refine ⟨fun result h => ?_, fun h => ?_, hwhite⟩
    · rw [his] at h
      obtain ⟨found, hfound, rfl⟩ := Option.map_eq_some_iff.1 h
      rw [hrange, eval_inRange_of_eval_is hfound]
      rfl
    · rw [hrange, Ne, Option.map_eq_none_iff] at h
      rw [his, Option.map_eq_none_iff]
      exact eval_is_eq_none_iff_slash_mem h

/-- An address between white space, and a network whose address begins with a zero, as one that
    stands alone may not. -/
theorem exact_address_agrees_forms :
    (onAddress .notInRange "\u2003" "fe80::a" "\t").eval
        { addresses := [.v6 0xfe80000000000000000000000000000a] } = some false ∧
      (⟨.ipAddress, .inRange, "010.0.0.7/32"⟩ : Condition).eval
        { addresses := [.v4 0x0a000007] } = some true ∧
      (⟨.ipAddress, .is, "010.0.0.7/32"⟩ : Condition).eval
        { addresses := [.v4 0x0a000007] } = none := by
  have hbefore : Text.AllWhite "\u2003".toList := List.all_eq_true.1 rfl
  have hbehind : Text.AllWhite "\t".toList := List.all_eq_true.1 rfl
  have hdenied : (Operator.isNot, Operator.notInRange) ∈ addressOperators := by decide
  have hasserted : (Operator.is, Operator.inRange) ∈ addressOperators := by decide
  obtain ⟨hagree, -, hwhite⟩ := exact_address_agrees hdenied "fe80::a"
    { addresses := [.v6 0xfe80000000000000000000000000000a] }
  obtain ⟨-, hslash, -⟩ := exact_address_agrees hasserted "010.0.0.7/32"
    { addresses := [.v4 0x0a000007] }
  have hfound : (⟨.ipAddress, .inRange, "010.0.0.7/32"⟩ : Condition).eval
      { addresses := [.v4 0x0a000007] } = some true := by
    decide +kernel
  refine ⟨?_, hfound, (hslash (by rw [hfound]; exact nofun)).2 (by decide +kernel)⟩
  rw [hwhite _ _ hbefore hbehind]
  exact hagree false (by decide +kernel)

end Condition

end NetActivation
