import NetActivation.Address.Network
import NetActivation.Proofs.AddressText
import NetActivation.Proofs.DefiniteConditions

set_option autoImplicit false

/-! # Conditions on addresses compare first bits

A network is kept as an interval of numbers. An address lies in it exactly if it shares the first
bits with the network's own (`Network.contains_iff`): both numbers have the same quotient by the
size of the network, and the bits of the quotient are the first bits. A network is read from its
text (`Network.read?_text`), and an address as the network that holds it alone
(`Network.read?_chars`), so conditions on addresses mean what is written in them. Main statement:
`Condition.address_conditions_decided`. -/

namespace NetActivation

/-! ## Shared bits -/

/-- The bits of a quotient by a power of two are the first bits. -/
theorem div_eq_div_iff_getMsbD {w count : Nat} (hcount : count ≤ w) (a x : BitVec w) :
    a.toNat / (1 <<< (w - count)) = x.toNat / (1 <<< (w - count)) ↔
      ∀ i < count, a.getMsbD i = x.getMsbD i := by
  rw [Nat.one_shiftLeft]
  have hbit (y : BitVec w) {i : Nat} (hi : i < count) :
      (y.toNat / 2 ^ (w - count)).testBit (count - 1 - i) = y.getMsbD i := by
    have hwidth : i < w := Nat.lt_of_lt_of_le hi hcount
    have hplace : count - 1 - i + (w - count) = w - 1 - i := by omega
    rw [Nat.testBit_div_two_pow, BitVec.testBit_toNat, BitVec.getMsbD_eq_getLsbD, hplace,
      decide_eq_true hwidth, Bool.true_and]
  constructor
  · intro h i hi
    rw [← hbit a hi, ← hbit x hi, h]
  · intro h
    refine Nat.eq_of_testBit_eq fun j => ?_
    by_cases hj : j < count
    · have hplace : count - 1 - (count - 1 - j) = j := by omega
      have hless : count - 1 - j < count := by omega
      rw [← hplace, hbit a hless, hbit x hless, h _ hless]
    · -- Beyond the first bits both quotients are at their end.
      have hend : w ≤ j + (w - count) := by omega
      rw [Nat.testBit_div_two_pow, Nat.testBit_div_two_pow, BitVec.testBit_toNat,
        BitVec.testBit_toNat, BitVec.getLsbD_of_ge _ _ hend, BitVec.getLsbD_of_ge _ _ hend]

namespace Address

theorem width_eq_iff {a x : Address} : a.width = x.width ↔
    (∃ b c, a = v4 b ∧ x = v4 c) ∨ ∃ b c, a = v6 b ∧ x = v6 c := by
  cases a <;> cases x <;> simp [width]

/-- Without any bits to share, addresses of one family agree. -/
theorem agreeOn_zero_iff {a x : Address} : a.AgreeOn 0 x ↔ x.width = a.width := by
  rw [AgreeOn, eq_comm]
  simp

/-- With all bits to share, an address agrees with itself alone. -/
theorem agreeOn_width_iff {a x : Address} : a.AgreeOn a.width x ↔ x = a := by
  constructor
  · rintro ⟨hwidth, hbits⟩
    rcases width_eq_iff.1 hwidth with ⟨b, c, rfl, rfl⟩ | ⟨b, c, rfl, rfl⟩
    · exact congrArg v4 (BitVec.eq_of_getMsbD_eq fun i hi => (hbits i hi).symm)
    · exact congrArg v6 (BitVec.eq_of_getMsbD_eq fun i hi => (hbits i hi).symm)
  · rintro rfl
    exact ⟨rfl, fun _ _ => rfl⟩

theorem IsCrossed.width_ne {a x : Address} (h : a.IsCrossed x) : x.width ≠ a.width := by
  obtain ⟨b, c, ⟨rfl, rfl⟩ | ⟨rfl, rfl⟩⟩ := h
  · show 128 ≠ 32
    decide
  · show 32 ≠ 128
    decide

end Address

namespace Network

/-- The first bits of an address are its quotient by the size of a network. -/
theorem agreeOn_iff_div {n : Network} {x : Address} :
    n.address.AgreeOn n.bits x ↔
      n.address.width = x.width ∧ n.address.value / n.size = x.value / n.size := by
  obtain ⟨a, bits, hbits⟩ := n
  refine and_congr_right fun hwidth => ?_
  rcases Address.width_eq_iff.1 hwidth with ⟨b, c, rfl, rfl⟩ | ⟨b, c, rfl, rfl⟩
  · exact (div_eq_div_iff_getMsbD hbits b c).symm
  · exact (div_eq_div_iff_getMsbD hbits b c).symm

theorem size_pos (n : Network) : 0 < n.size := by
  rw [size, Nat.one_shiftLeft]
  exact Nat.two_pow_pos _

/-- A network holds the addresses that share its first bits. -/
theorem contains_iff {n : Network} {x : Address} :
    n.contains x = true ↔ n.address.AgreeOn n.bits x := by
  have hquotient : n.address.value / n.size = x.value / n.size ↔
      n.first ≤ x.value ∧ x.value ≤ n.last := by
    rw [eq_comm, Nat.div_eq_iff n.size_pos, last, first, Nat.add_sub_assoc n.size_pos]
  rw [agreeOn_iff_div, hquotient]
  simp [contains, and_assoc]

/-! ## Reading back -/

theorem slash_not_mem_chars (a : Address) : '/' ∉ a.chars := fun h =>
  Address.forall_mem_chars (P := (· ≠ '/')) (by decide) (by decide) (by decide) a _ h rfl

/-- The number of shared bits has no more digits than a reader lets pass. -/
theorem length_toDigits_le_maxDigits {a : Address} {bits : Nat} (h : bits ≤ a.width) :
    (Nat.toDigits 10 bits).length ≤ maxDigits a := by
  cases a with
  | v4 b =>
      have hwidth : bits ≤ 32 := h
      rw [maxDigits, Nat.length_toDigits_le_iff (by decide) (by decide)]
      omega
  | v6 b =>
      have hwidth : bits ≤ 128 := h
      rw [maxDigits, Nat.length_toDigits_le_iff (by decide) (by decide)]
      omega

theorem toList_text (n : Network) :
    n.text.toList = n.address.chars ++ '/' :: Nat.toDigits 10 n.bits := by
  simp [text, Address.text, Nat.repr]

/-- A network is read from its own text. -/
theorem read?_text (n : Network) : read? n.text.toList = some n := by
  have hslash : '/' ∉ Nat.toDigits 10 n.bits :=
    Address.not_mem_toDigits (by decide) (by decide) (by decide)
  have hfields : Text.fields '/' n.text.toList = [n.address.chars, Nat.toDigits 10 n.bits] := by
    rw [toList_text, Text.fields_append_cons (slash_not_mem_chars n.address),
      Text.fields_of_not_mem hslash]
  have hread : readSlash? n.text.toList = some n := by
    simp only [readSlash?, hfields, Address.read?_chars, bind, Option.bind_some,
      length_toDigits_le_maxDigits n.bits_le, if_true,
      Text.number?_toDigits (n := n.bits) (show 1 < 10 by decide) (by decide),
      dif_pos n.bits_le]
    rfl
  rw [read?, hread]

/-- An address that stands alone is read as the network that holds nothing else. -/
theorem read?_chars (a : Address) : read? a.chars = some (single a) := by
  rw [read?, readSlash?_of_slash_not_mem (slash_not_mem_chars a), Address.read?_chars]
  rfl

end Network

/-! ## White space around a value -/

theorem Address.not_isWhite_of_mem_text (a : Address) :
    ∀ c ∈ a.text.toList, Text.isWhite c = false := by
  rw [text, String.toList_ofList]
  exact forall_mem_chars (P := fun c => Text.isWhite c = false) (by decide) (by decide)
    (by decide) a

theorem Network.not_isWhite_of_mem_text (n : Network) :
    ∀ c ∈ n.text.toList, Text.isWhite c = false := by
  intro c hc
  rw [toList_text] at hc
  rcases List.mem_append.1 hc with hc | hc
  · refine n.address.not_isWhite_of_mem_text c ?_
    rwa [Address.text, String.toList_ofList]
  · rcases List.mem_cons.1 hc with rfl | hc
    · rfl
    · have hdigit : ∀ d < 10, Text.isWhite (Nat.digitChar d) = false := by decide
      obtain ⟨d, hd, rfl⟩ := Text.exists_digitChar_of_mem_toDigits (by decide) hc
      exact hdigit d hd

namespace Condition

/-- A condition on addresses, with something around the text of its value. -/
def onAddress (op : Operator) (before text behind : String) : Condition :=
  ⟨.ipAddress, op, before ++ text ++ behind⟩

section

variable {value : String} (s : Snapshot)

theorem eval_inRange_of_read? {n : Network}
    (h : Network.read? (Text.trim value.toList) = some n) :
    (⟨.ipAddress, .inRange, value⟩ : Condition).eval s = some (s.addresses.any n.contains) := by
  show evalAddress .inRange value s.addresses = _
  rw [evalAddress, h]
  simp [decided, Operator.isNegated]

theorem eval_is_of_read? {a : Address} (h : Address.read? .alone (Text.trim value.toList) = some a) :
    (⟨.ipAddress, .is, value⟩ : Condition).eval s = some (s.addresses.contains a) := by
  show evalAddress .is value s.addresses = _
  rw [evalAddress, h]
  simp [decided, Operator.isNegated]

end

section

variable {before behind : String} (hbefore : Text.AllWhite before.toList)
  (hbehind : Text.AllWhite behind.toList)

include hbefore hbehind

theorem trim_around {text : String} (htext : ∀ c ∈ text.toList, Text.isWhite c = false) :
    Text.trim (before ++ text ++ behind).toList = text.toList := by
  rw [String.toList_append, String.toList_append, List.append_assoc]
  exact Text.trim_append hbefore hbehind (fun c hc => htext c (List.mem_of_mem_head? hc))
    fun c hc => htext c (List.mem_of_mem_getLast? hc)

theorem eval_inRange_network (n : Network) (s : Snapshot) :
    (onAddress .inRange before n.text behind).eval s = some (s.addresses.any n.contains) := by
  refine eval_inRange_of_read? s ?_
  rw [trim_around hbefore hbehind n.not_isWhite_of_mem_text, n.read?_text]

theorem eval_inRange_address (a : Address) (s : Snapshot) :
    (onAddress .inRange before a.text behind).eval s =
      some (s.addresses.any (Network.single a).contains) := by
  refine eval_inRange_of_read? s ?_
  rw [trim_around hbefore hbehind a.not_isWhite_of_mem_text, Address.text,
    String.toList_ofList, Network.read?_chars]

theorem eval_is_address (a : Address) (s : Snapshot) :
    (onAddress .is before a.text behind).eval s = some (s.addresses.contains a) := by
  refine eval_is_of_read? s ?_
  rw [trim_around hbefore hbehind a.not_isWhite_of_mem_text, Address.text,
    String.toList_ofList, Address.read?_chars]

end

/-- **Conditions on addresses compare first bits.** A range that is named by an address and a number
    of bits is always decided, and holds if and only if some observed address of the same family has
    the same first bits. No bits at all let every address of the family in, and all bits only the
    address itself, which is also what the address means without a number. A test for the address
    itself holds if and only if it was observed. White space around the value does not count. An
    address of 32 bits and one that stands for such an address never match. -/
theorem address_conditions_decided (a : Address) (s : Snapshot) {before behind : String}
    (hbefore : Text.AllWhite before.toList) (hbehind : Text.AllWhite behind.toList) :
    (∀ bits (h : bits ≤ a.width),
      (onAddress .inRange before (Network.mk a bits h).text behind).DecidedBy s
        (∃ x ∈ s.addresses, a.AgreeOn bits x)) ∧
    (∀ x, a.AgreeOn 0 x ↔ x.width = a.width) ∧
    (∀ x, a.AgreeOn a.width x ↔ x = a) ∧
    (onAddress .inRange before a.text behind).eval s =
      (onAddress .inRange before (Network.single a).text behind).eval s ∧
    (onAddress .is before a.text behind).DecidedBy s (a ∈ s.addresses) ∧
    ((∀ x ∈ s.addresses, a.IsCrossed x) →
      (∀ bits (h : bits ≤ a.width),
        (onAddress .inRange before (Network.mk a bits h).text behind).eval s = some false) ∧
      (onAddress .inRange before a.text behind).eval s = some false ∧
      (onAddress .is before a.text behind).eval s = some false) := by
  have hrange (n : Network) : (onAddress .inRange before n.text behind).DecidedBy s
      (∃ x ∈ s.addresses, n.address.AgreeOn n.bits x) := by
    refine ⟨_, eval_inRange_network hbefore hbehind n s, ?_⟩
    simp only [List.any_eq_true, Network.contains_iff]
  have hsame : (onAddress .inRange before a.text behind).eval s =
      (onAddress .inRange before (Network.single a).text behind).eval s := by
    rw [eval_inRange_address hbefore hbehind, eval_inRange_network hbefore hbehind]
  have his : (onAddress .is before a.text behind).DecidedBy s (a ∈ s.addresses) :=
    ⟨_, eval_is_address hbefore hbehind a s, List.contains_iff_mem⟩
  refine ⟨fun bits h => hrange ⟨a, bits, h⟩, fun x => Address.agreeOn_zero_iff,
    fun x => Address.agreeOn_width_iff, hsame, his, fun hcrossed => ?_⟩
  have hnone (bits : Nat) : ¬∃ x ∈ s.addresses, a.AgreeOn bits x := by
    rintro ⟨x, hx, hwidth, -⟩
    exact (hcrossed x hx).width_ne hwidth.symm
  refine ⟨fun bits h => (hrange ⟨a, bits, h⟩).eq_false (hnone bits), ?_, his.eq_false fun ha => ?_⟩
  · rw [hsame]
    exact (hrange (Network.single a)).eq_false (hnone a.width)
  · exact (hcrossed a ha).width_ne rfl

/-- A network with a run of zeros left out of its text, and one of 32 bits that has all addresses
    of its family but none that stands for one of them. -/
theorem address_conditions_decided_forms :
    (⟨.ipAddress, .inRange, "\u2003fe80::a:0:0:1/10\t"⟩ : Condition).eval
        { addresses := [.mapped 0x0a010203, .v6 0xfebf0000000000000000000000000000] } = some true ∧
      (⟨.ipAddress, .inRange, "\u200310.1.2.3/0\t"⟩ : Condition).eval
        { addresses := [.mapped 0x0a010203] } = some false := by
  have hbefore : Text.AllWhite "\u2003".toList := List.all_eq_true.1 rfl
  have hbehind : Text.AllWhite "\t".toList := List.all_eq_true.1 rfl
  have hshort : "\u2003fe80::a:0:0:1/10\t" = "\u2003" ++
      (Network.mk (.v6 0xfe80000000000000000a000000000001) 10 (by decide)).text ++ "\t" := by
    decide +kernel
  have hall : "\u200310.1.2.3/0\t" = "\u2003" ++
      (Network.mk (.v4 0x0a010203) 0 (by decide)).text ++ "\t" := by
    decide +kernel
  obtain ⟨hrange, -⟩ := address_conditions_decided (.v6 0xfe80000000000000000a000000000001)
    { addresses := [.mapped 0x0a010203, .v6 0xfebf0000000000000000000000000000] } hbefore hbehind
  obtain ⟨-, -, -, -, -, hcrossed⟩ := address_conditions_decided (.v4 0x0a010203)
    { addresses := [.mapped 0x0a010203] } hbefore hbehind
  obtain ⟨found, heval, hfound⟩ := hrange 10 (by decide)
  obtain ⟨hnever, -⟩ := hcrossed fun x hx =>
    ⟨0x0a010203, 0x0a010203, Or.inl ⟨rfl, List.mem_singleton.1 hx⟩⟩
  have hholds : found = true := hfound.2 (by decide)
  subst hholds
  rw [hshort, hall]
  exact ⟨heval, hnever 0 (by decide)⟩

end Condition

end NetActivation
