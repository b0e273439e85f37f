import NetActivation.Condition.Printer
import NetActivation.Condition.Reader

set_option autoImplicit false

/-! # Written conditions read back

The printer and the reader of conditions follow different rules: a number sign or a backslash makes
the printer quote a value that the reader would take bare, and the reader keeps escapes that the
printer never writes. Both agree on what the printer writes. The words that it writes consist of
word characters and end at a space, so the greedy reader takes exactly them; a value stands bare
only if every character of it is bare, and else it is a literal.

`Condition.parse_text_round_trip` says this of all conditions: the text of a condition is read as
that condition, unless no field was chosen, for which there is no word. -/

namespace NetActivation

/-! ## Keywords -/

/-- A field is found by its word and by no other. -/
theorem Field.ofKeyword?_eq_some_iff {word : String} {f : Field} :
    Field.ofKeyword? word = some f ↔ f.keyword? = some word := by
  constructor
  · intro h
    simpa using List.find?_some h
  · intro h
    cases f <;> simp only [Field.keyword?, Option.some.injEq, reduceCtorEq] at h <;> subst h <;> rfl

/-- An operator is found by its word and by no other. -/
theorem Operator.ofKeyword?_eq_some_iff {word : String} {op : Operator} :
    Operator.ofKeyword? word = some op ↔ op.keyword = word := by
  constructor
  · intro h
    simpa using List.find?_some h
  · rintro rfl
    cases op <;> rfl

namespace Condition

theorem isWordChar_of_mem_fieldText {f : Field} (h : f ≠ .blank) :
    ∀ c ∈ f.text.toList, isWordChar c = true := by
  rw [← List.all_eq_true]
  cases f <;> first | rfl | exact absurd rfl h

theorem isWordChar_of_mem_keyword (op : Operator) :
    ∀ c ∈ op.keyword.toList, isWordChar c = true := by
  rw [← List.all_eq_true]
  cases op <;> rfl

/-! ## Runs of characters -/

/-- A text does not start with a character of a sort: a greedy reader of that sort stops in front
    of it. -/
def StopsAt (p : Char → Bool) (s : List Char) : Prop := ∀ c ∈ s.head?, p c = false

theorem stopsAt_nil (p : Char → Bool) : StopsAt p [] := by
  intro c hc
  simp at hc

theorem stopsAt_cons {p : Char → Bool} {c : Char} {s : List Char} (h : p c = false) :
    StopsAt p (c :: s) := by
  intro d hd
  simp only [List.head?_cons, Option.mem_def, Option.some.injEq] at hd
  rw [← hd, h]

theorem takeWhile_append_of_stopsAt {p : Char → Bool} {w s : List Char} (hw : ∀ c ∈ w, p c = true)
    (hs : StopsAt p s) : (w ++ s).takeWhile p = w := by
  rw [List.takeWhile_append_of_pos hw]
  cases s with
  | nil => simp
  | cons c s =>
      have hc : p c = false := hs c rfl
      simp [hc]

theorem dropWhile_append_of_stopsAt {p : Char → Bool} {w s : List Char} (hw : ∀ c ∈ w, p c = true)
    (hs : StopsAt p s) : (w ++ s).dropWhile p = s := by
  rw [List.dropWhile_append_of_pos hw]
  cases s with
  | nil => rfl
  | cons c s =>
      have hc : p c = false := hs c rfl
      simp [hc]

theorem dropWhite_of_stopsAt {s : List Char} (hs : StopsAt Text.isWhite s) :
    Text.dropWhite s = s :=
  dropWhile_append_of_stopsAt (w := []) (by simp) hs

/-- A space between two parts is all that is dropped in front of the second. -/
theorem dropWhite_space {s : List Char} (hs : StopsAt Text.isWhite s) :
    Text.dropWhite (' ' :: s) = s :=
  dropWhile_append_of_stopsAt (w := [' ']) (List.all_eq_true.1 rfl) hs

/-! ## Words -/

theorem isWhite_range {c : Char} (h : Text.isWhite c = true) : c.toNat ≤ 0x20 ∨ 0x85 ≤ c.toNat := by
  simp only [Text.isWhite, Bool.or_eq_true, Bool.and_eq_true, decide_eq_true_eq, beq_iff_eq] at h
  omega

theorem isWordChar_range {c : Char} (h : isWordChar c = true) :
    0x2D ≤ c.toNat ∧ c.toNat ≤ 0x7A := by
  change ((decide (c.val ≥ 'A'.val ∧ c.val ≤ 'Z'.val) || (c.val ≥ 'a'.val && c.val ≤ 'z'.val)) ||
    (c.val ≥ '0'.val && c.val ≤ '9'.val) || c == '-') = true at h
  simp only [Bool.or_eq_true, Bool.and_eq_true, decide_eq_true_eq, beq_iff_eq, ge_iff_le,
    UInt32.le_iff_toNat_le] at h
  rcases h with ((h | h) | h) | rfl
  · exact ⟨Nat.le_trans (by decide) h.1, Nat.le_trans h.2 (by decide)⟩
  · exact ⟨Nat.le_trans (by decide) h.1, Nat.le_trans h.2 (by decide)⟩
  · exact ⟨Nat.le_trans (by decide) h.1, Nat.le_trans h.2 (by decide)⟩
  · decide

/-- Words hold no white space. -/
theorem not_isWhite_of_isWordChar {c : Char} (h : isWordChar c = true) :
    Text.isWhite c = false := by
  have hword := isWordChar_range h
  cases hwhite : Text.isWhite c with
  | false => rfl
  | true =>
      have := isWhite_range hwhite
      omega

theorem stopsAt_isWhite_word {w s : List Char} (hne : w ≠ [])
    (hw : ∀ c ∈ w, isWordChar c = true) : StopsAt Text.isWhite (w ++ s) := by
  obtain ⟨c, cs, rfl⟩ := List.exists_cons_of_ne_nil hne
  exact stopsAt_cons (not_isWhite_of_isWordChar (hw c (by simp)))

theorem readWord_append {α : Type} {lookUp : String → Option α} {expected : Expectation}
    {w s : List Char} {a : α} (hw : ∀ c ∈ w, isWordChar c = true) (hs : StopsAt isWordChar s)
    (ha : lookUp (String.ofList w) = some a) :
    readWord lookUp expected (w ++ s) = .ok (a, s) := by
  rw [readWord, takeWhile_append_of_stopsAt hw hs, dropWhile_append_of_stopsAt hw hs, ha]

/-- What a reader of words found stands for the longest run of word characters. -/
theorem readWord_eq_ok {α : Type} {lookUp : String → Option α} {expected : Expectation}
    {s r : List Char} {a : α} (h : readWord lookUp expected s = .ok (a, r)) :
    lookUp (String.ofList (s.takeWhile isWordChar)) = some a ∧ r = s.dropWhile isWordChar := by
  rw [readWord] at h
  split at h
  · next b hb =>
      simp only [Except.ok.injEq, Prod.mk.injEq] at h
      obtain ⟨rfl, rfl⟩ := h
      exact ⟨hb, rfl⟩
  · exact absurd h (by simp)

/-! ## Values -/

/-- A literal reads as what it was written for, whatever follows it. -/
theorem readValue_quote (value s : List Char) :
    readValue (Text.Quoted.quote value ++ s) = .ok (value, s) := by
  have h : Text.Quoted.quote value ++ s = '"' :: (Text.Quoted.escape value ++ '"' :: s) := by
    simp [Text.Quoted.quote]
  rw [h, readValue, Text.Quoted.readBody_escape]

theorem readValue_bare {value s : List Char} (hne : value ≠ []) (hv : ∀ c ∈ value, isBare c = true)
    (hs : StopsAt isBare s) : readValue (value ++ s) = .ok (value, s) := by
  obtain ⟨c, cs, rfl⟩ := List.exists_cons_of_ne_nil hne
  have hc : c ≠ '"' := by
    rintro rfl
    exact absurd (hv '"' (by simp)) (by decide)
  have htake := takeWhile_append_of_stopsAt hv hs
  have hdrop := dropWhile_append_of_stopsAt hv hs
  rw [List.cons_append] at htake hdrop ⊢
  rw [readValue]
  · rw [htake, hdrop]
  · -- A bare value is no literal, because it starts with another character than a quote.
    exact fun body h => hc (List.cons.inj h).1

/-- A character that does not make the printer quote a value can stand bare. -/
theorem isBare_of_not_needsQuotes {c : Char} (h : needsQuotes c = false) : isBare c = true := by
  simp only [needsQuotes, Bool.or_eq_false_iff] at h
  obtain ⟨⟨⟨hwhite, hquote⟩, -⟩, -⟩ := h
  simp only [isBare, hwhite, bne, hquote, Bool.not_false, Bool.and_self]

/-- A written value reads back in front of anything that ends a bare value. -/
theorem readValue_valueText (value : List Char) {s : List Char} (hs : StopsAt isBare s) :
    readValue (valueText value ++ s) = .ok (value, s) := by
  rcases valueText_cases value with hquote | ⟨hbare, hne, hplain⟩
  · rw [hquote]
    exact readValue_quote value s
  · rw [hbare]
    exact readValue_bare hne (fun c hc => isBare_of_not_needsQuotes (hplain c hc)) hs

/-- A written value does not start with white space. -/
theorem stopsAt_isWhite_valueText (value : List Char) :
    StopsAt Text.isWhite (valueText value) := by
  rcases valueText_cases value with hquote | ⟨hbare, -, hplain⟩
  · rw [hquote]
    exact stopsAt_cons (by decide)
  · rw [hbare]
    intro c hc
    have hc' := hplain c (List.mem_of_mem_head? hc)
    simp only [needsQuotes, Bool.or_eq_false_iff] at hc'
    exact hc'.1.1.1

/-! ## Conditions -/

/-- The written form of a field that has a word, an operator and a value is read as these. -/
theorem read_written {f : Field} (hf : f ≠ .blank) (op : Operator) (value : List Char) :
    read (f.text.toList ++ ' ' :: op.keyword.toList ++ ' ' :: valueText value) =
      .ok ⟨f, op, String.ofList value⟩ := by
  have hfield : Field.ofKeyword? (String.ofList f.text.toList) = some f := by
    rw [String.ofList_toList, Field.ofKeyword?_eq_some_iff, Field.keyword?_eq_some_text hf]
  have hop : Operator.ofKeyword? (String.ofList op.keyword.toList) = some op := by
    rw [String.ofList_toList, Operator.ofKeyword?_eq_some_iff]
  have hspace (s : List Char) : StopsAt isWordChar (' ' :: s) := stopsAt_cons (by decide)
  have hfne : f.text.toList ≠ [] := by cases f <;> decide
  have hone : op.keyword.toList ≠ [] := by cases op <;> decide
  -- Every reader stops at the space behind its part, which the next one drops.
  have hfchars := isWordChar_of_mem_fieldText hf
  have hochars := isWordChar_of_mem_keyword op
  rw [read, List.append_assoc, List.cons_append,
    dropWhite_of_stopsAt (stopsAt_isWhite_word hfne hfchars),
    readWord_append hfchars (hspace _) hfield]
  simp only [bind, Except.bind]
  rw [dropWhite_space (stopsAt_isWhite_word hone hochars), readWord_append hochars (hspace _) hop]
  simp only
  have hvalue : readValue (valueText value) = .ok (value, []) := by
    simpa using readValue_valueText value (stopsAt_nil isBare)
  rw [dropWhite_space (stopsAt_isWhite_valueText value), hvalue]
  rfl

/-- There is no word for the blank field, so reading its written form fails at once. -/
theorem read_blank (rest : List Char) :
    read (Field.blank.text.toList ++ rest) =
      .error ⟨Field.blank.text.toList ++ rest, some .field⟩ := by
  have h : Field.blank.text.toList = ['<', 'n', 'o', 'n', 'e', '>'] := by decide
  rw [h]
  rfl

/-- What a successful reading found, part by part. -/
theorem parts_of_read {s : List Char} {c : Condition} (h : read s = .ok c) :
    ∃ s₁ s₂ s₃ value,
      readWord Field.ofKeyword? .field (Text.dropWhite s) = .ok (c.field, s₁) ∧
      readWord Operator.ofKeyword? .operator (Text.dropWhite s₁) = .ok (c.op, s₂) ∧
      readValue (Text.dropWhite s₂) = .ok (value, s₃) ∧
      Text.dropWhite s₃ = [] ∧ c.value = String.ofList value := by
  simp only [read, bind, Except.bind] at h
  split at h
  · exact absurd h (by simp)
  · next p hfield =>
      obtain ⟨f, s₁⟩ := p
      simp only at h
      split at h
      · exact absurd h (by simp)
      · next p hop =>
          obtain ⟨op, s₂⟩ := p
          simp only at h
          split at h
          · exact absurd h (by simp)
          · next p hvalue =>
              obtain ⟨value, s₃⟩ := p
              simp only at h
              split at h
              · next hrest =>
                  simp only [Except.ok.injEq] at h
                  subst h
                  exact ⟨s₁, s₂, s₃, value, hfield, hop, hvalue, hrest, rfl⟩
              · exact absurd h (by simp)

/-- What is read has a field: the blank one has no word. -/
theorem field_ne_blank_of_read {s : List Char} {c : Condition} (h : read s = .ok c) :
    c.field ≠ .blank := by
  obtain ⟨s₁, -, -, -, hfield, -⟩ := parts_of_read h
  have hkeyword := Field.ofKeyword?_eq_some_iff.1 (readWord_eq_ok hfield).1
  intro hblank
  rw [hblank] at hkeyword
  exact absurd hkeyword (by simp [Field.keyword?])

/-- The text of a condition reads as that condition, unless no field was chosen. -/
theorem parse_text_of_ne_blank {c : Condition} (h : c.field ≠ .blank) : parse c.text = .ok c := by
  obtain ⟨f, op, value⟩ := c
  rw [parse, text, String.toList_ofList, read_written h, String.ofList_toList]
  rfl

theorem field_ne_blank_of_parse {s : String} {c : Condition} (h : parse s = .ok c) :
    c.field ≠ .blank := by
  rw [parse] at h
  cases hr : read s.toList with
  | error e =>
      rw [hr] at h
      cases h
  | ok d =>
      rw [hr] at h
      cases h
      exact field_ne_blank_of_read hr

/-- The text of a condition without a field is refused at its start. -/
theorem parse_text_of_blank {c : Condition} (h : c.field = .blank) :
    parse c.text = .error ⟨c.text, 0, some .field⟩ := by
  have hread : read c.text.toList = .error ⟨c.text.toList, some .field⟩ := by
    simp only [text, String.toList_ofList, h, List.append_assoc]
    exact read_blank _
  rw [parse, hread]
  show Except.error (Failure.toParseError c.text _) = _
  rw [Failure.toParseError, Nat.sub_self]

/-- **Written conditions read back.** The text of a condition is read as that condition, whatever
    its operator and its value; only without a field it is refused. So what is read from any text
    at all is written as a text that is read as the same condition again, and that writing it once
    more does not change. -/
theorem parse_text_round_trip (c : Condition) :
    parse c.text = (if c.field = .blank then .error ⟨c.text, 0, some .field⟩ else .ok c) ∧
    ∀ s, parse s = .ok c →
      parse c.text = .ok c ∧ (parse c.text).map text = .ok c.text := by
  constructor
  · split
    · next h => exact parse_text_of_blank h
    · next h => exact parse_text_of_ne_blank h
  · intro s hs
    have h := parse_text_of_ne_blank (field_ne_blank_of_parse hs)
    exact ⟨h, by rw [h]; rfl⟩

/-- A value with a kept escape, a number sign and white space around the parts. -/
theorem parse_text_round_trip_escaped :
    parse "\u2003essid\tcontains \"a\\n #\" " = .ok ⟨.essid, .contains, "a\\n #"⟩ ∧
    parse "essid contains \"a\\\\n #\"" = .ok ⟨.essid, .contains, "a\\n #"⟩ := by
  have h : parse "\u2003essid\tcontains \"a\\n #\" " = .ok ⟨.essid, .contains, "a\\n #"⟩ := by
    rfl
  exact ⟨h, ((parse_text_round_trip ⟨.essid, .contains, "a\\n #"⟩).2 _ h).1⟩

end Condition

end NetActivation
