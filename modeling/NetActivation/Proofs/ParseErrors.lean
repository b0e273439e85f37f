import NetActivation.Proofs.ConditionGrammar

set_option autoImplicit false

/-! # Errors point at what is wrong

The reader of conditions reports where it stopped. `Fails` lists the ways in which a text can go
wrong, each with its place and without a reader. Both agree: what the reader reports is one of these
ways (`fails_of_read`), and each of them is what the reader reports (`read_of_fails`), so no text
goes wrong in two ways or at two places. It follows from the list that every place is well chosen:
the text can be completed from there on, and it is complete there only if nothing was expected.
Main statement: `parse_error_place`. -/

namespace NetActivation.Condition

/-! ## Readers that fail -/

theorem ofKeyword?_field_eq_none_iff {word : String} :
    Field.ofKeyword? word = none ↔ ∀ f : Field, f.keyword? ≠ some word := by
  simp only [Option.eq_none_iff_forall_ne_some, ne_eq, Field.ofKeyword?_eq_some_iff]

theorem ofKeyword?_operator_eq_none_iff {word : String} :
    Operator.ofKeyword? word = none ↔ ∀ op : Operator, op.keyword ≠ word := by
  simp only [Option.eq_none_iff_forall_ne_some, ne_eq, Operator.ofKeyword?_eq_some_iff]

theorem readWord_eq_error_iff {α : Type} {lookUp : String → Option α} {expected : Expectation}
    {s : List Char} {x : Failure} :
    readWord lookUp expected s = .error x ↔
      lookUp (wordAt s) = none ∧ x = ⟨s, some expected⟩ := by
  rw [readWord, wordAt]
  cases lookUp (String.ofList (s.takeWhile isWordChar)) with
  | some a => simp
  | none =>
      rw [Except.error.injEq, eq_comm]
      simp

/-- A reader of values finds none at the end of the text or in a literal that does not end. -/
theorem readValue_eq_error_iff {s : List Char} (hs : StopsAt Text.isWhite s) {x : Failure} :
    readValue s = .error x ↔ x = ⟨[], some .value⟩ ∧
      (s = [] ∨ ∃ body, s = '"' :: body ∧ Text.Quoted.Unclosed body) := by
  cases s with
  | nil =>
      rw [readValue.eq_def]
      simp [eq_comm]
  | cons c s =>
      by_cases hquote : c = '"'
      · subst hquote
        simp only [readValue, reduceCtorEq, false_or, List.cons.injEq, true_and, exists_eq_left',
          ← Text.Quoted.readBody_eq_none_iff]
        cases Text.Quoted.readBody s <;> simp [eq_comm]
      · -- A bare value has at least this character.
        have hbare : isBare c = true := isBare_iff.2 ⟨hs c rfl, hquote⟩
        have hread : readValue (c :: s) =
            .ok (c :: s.takeWhile isBare, s.dropWhile isBare) := by
          rw [readValue]
          · simp only [List.takeWhile_cons_of_pos hbare, List.dropWhile_cons_of_pos hbare]
          · exact fun body h => hquote (List.cons.inj h).1
        rw [hread]
        simp [hquote]

/-- White space behind a value ends it, so what counts is the last character of both. -/
theorem endsBare_append_iff {front spelling w rest : List Char} (hne : spelling ≠ [])
    (hw : Text.AllWhite w) :
    EndsBare (front ++ (spelling ++ w)) rest ↔ EndsBare spelling (w ++ rest) := by
  by_cases hgap : w = []
  · have hlast := List.getLast?_eq_some_getLast hne
    subst hgap
    rw [EndsBare, List.append_nil, List.getLast?_append, hlast, Option.some_or, ← hlast]
    exact Iff.rfl
  · constructor
    · intro _ last _ _
      exact (stopsAt_append_iff hgap).2 (stopsAt_isBare_white hw)
    · intro _ last hlast hbare
      have hmem : last ∈ w.getLast? := by
        rw [List.getLast?_eq_some_getLast hgap]
        rwa [List.getLast?_append, List.getLast?_append, List.getLast?_eq_some_getLast hgap,
          Option.some_or, Option.some_or] at hlast
      rw [not_isBare_of_isWhite (hw last (List.mem_of_mem_getLast? hmem))] at hbare
      cases hbare

/-! ## What is reported -/

theorem fails_of_readTail {s s₁ s₂ rest : List Char} {f : Field} {op : Operator}
    {expected : Option Expectation}
    (hfield : readWord Field.ofKeyword? .field (Text.dropWhite s) = .ok (f, s₁))
    (hop : readWord Operator.ofKeyword? .operator (Text.dropWhite s₁) = .ok (op, s₂))
    (h : readTail f op (Text.dropWhite s₂) = .error ⟨rest, expected⟩) :
    ∃ before, s = before ++ rest ∧ Fails before rest expected := by
  obtain ⟨w₀, w₁, w₂, word, hkeyword, h₀, h₁, h₂, hne, hopStops, rfl⟩ := exists_words hfield hop
  have hstart : StopsAt Text.isWhite (Text.dropWhite s₂) := stopsAt_dropWhile _ _
  generalize Text.dropWhite s₂ = tail at *
  cases hvalue : readValue tail with
  | error x =>
      obtain ⟨rfl, hnone⟩ := (readValue_eq_error_iff hstart).1 hvalue
      rw [readTail, hvalue] at h
      cases h
      rcases hnone with rfl | ⟨body, rfl, hbody⟩
      · exact ⟨_, by simp, .noValue op hkeyword h₀ h₁ h₂ hne⟩
      · exact ⟨_, by simp, .unclosed op hkeyword hbody h₀ h₁ h₂ hne⟩
  | ok found =>
      obtain ⟨value, s₃⟩ := found
      obtain ⟨spelling, hspells, rfl, hends⟩ := exists_spells_of_readValue hvalue
      obtain ⟨w₃, h₃, hs₃⟩ := Text.exists_allWhite_append s₃
      have hrestStart : StopsAt Text.isWhite (Text.dropWhite s₃) := stopsAt_dropWhile _ _
      simp only [readTail, hvalue, bind, Except.bind] at h
      generalize Text.dropWhite s₃ = left at *
      subst hs₃
      cases left with
      | nil => cases h
      | cons d left =>
          cases h
          have hspells' : Spells spelling (String.ofList value).toList := by
            rwa [String.toList_ofList]
          have hbefore : Derives _ ⟨f, op, String.ofList value⟩ :=
            .parts hkeyword hspells' h₀ h₁ h₂ h₃ hne (gap_of_stopsAt hspells.ne_nil hopStops)
          refine ⟨_, by simp, .leftover hbefore (List.cons_ne_nil _ _) hrestStart ?_⟩
          simp only [← List.append_assoc _ _ (spelling ++ w₃)]
          exact (endsBare_append_iff hspells.ne_nil h₃).2 hends

/-- What the reader reports is a way to go wrong. -/
theorem fails_of_read {s rest : List Char} {expected : Option Expectation}
    (h : read s = .error ⟨rest, expected⟩) :
    ∃ before, s = before ++ rest ∧ Fails before rest expected := by
  cases hfield : readWord Field.ofKeyword? .field (Text.dropWhite s) with
  | error x =>
      rw [read, hfield] at h
      cases h
      obtain ⟨hnone, hx⟩ := readWord_eq_error_iff.1 hfield
      cases hx
      obtain ⟨w₀, h₀, hs⟩ := Text.exists_allWhite_append s
      exact ⟨w₀, hs, .field (ofKeyword?_field_eq_none_iff.1 hnone) h₀ (stopsAt_dropWhile _ _)⟩
  | ok found =>
      obtain ⟨f, s₁⟩ := found
      cases hop : readWord Operator.ofKeyword? .operator (Text.dropWhite s₁) with
      | error x =>
          simp only [read, bind, Except.bind, hfield, hop] at h
          cases h
          obtain ⟨hnone, hx⟩ := readWord_eq_error_iff.1 hop
          cases hx
          obtain ⟨word, hword, -, hstops, hknown⟩ := readWord_eq_ok_iff.1 hfield
          obtain ⟨w₀, h₀, hs⟩ := Text.exists_allWhite_append s
          obtain ⟨w₁, h₁, hs₁⟩ := Text.exists_allWhite_append s₁
          refine ⟨w₀ ++ (word.toList ++ w₁), ?_, .operator
            (Field.ofKeyword?_eq_some_iff.1 hknown) (ofKeyword?_operator_eq_none_iff.1 hnone) h₀ h₁
            (hs₁ ▸ hstops) (stopsAt_dropWhile _ _)⟩
          rw [List.append_assoc, List.append_assoc]
          exact hs.trans (by rw [hword, ← hs₁])
      | ok found =>
          rw [read_of_words hfield hop] at h
          exact fails_of_readTail hfield hop h

/-- Each way to go wrong is what the reader reports. -/
theorem read_of_fails {before rest : List Char} {expected : Option Expectation}
    (h : Fails before rest expected) : read (before ++ rest) = .error ⟨rest, expected⟩ := by
  cases h with
  | field hword h₀ hstart =>
      have hfield : readWord Field.ofKeyword? .field rest = .error ⟨rest, some .field⟩ :=
        readWord_eq_error_iff.2 ⟨ofKeyword?_field_eq_none_iff.2 hword, rfl⟩
      simp only [read, Text.dropWhite_append h₀ hstart, hfield, bind, Except.bind]
  | @operator w₀ w₁ _ word f hfield hword h₀ h₁ hfieldEnds hstart =>
      obtain ⟨hfieldNe, hfieldChars⟩ := word_of_keyword? hfield
      have hfieldRead := readWord_behind_white .field h₀ hfieldNe hfieldChars hfieldEnds
        (Field.ofKeyword?_eq_some_iff.2 hfield)
      have hop : readWord Operator.ofKeyword? .operator rest = .error ⟨rest, some .operator⟩ :=
        readWord_eq_error_iff.2 ⟨ofKeyword?_operator_eq_none_iff.2 hword, rfl⟩
      rw [List.append_assoc, List.append_assoc]
      simp only [read, hfieldRead, Text.dropWhite_append h₁ hstart, hop, bind, Except.bind]
  | @noValue w₀ w₁ w₂ word f op hfield h₀ h₁ h₂ hfieldEnds =>
      have hopStops : StopsAt isWordChar (w₂ ++ []) := by
        rw [List.append_nil]
        exact stopsAt_isWordChar_of_allWhite h₂
      have hread := read_behind_words op hfield h₀ h₁ h₂ hfieldEnds hopStops
        (stopsAt_nil _)
      rw [List.append_nil] at hread ⊢
      rw [hread]
      rfl
  | @unclosed w₀ w₁ w₂ body word f op hfield hbody h₀ h₁ h₂ hfieldEnds =>
      have hquote : StopsAt isWordChar ('"' :: body) := stopsAt_cons (by decide)
      have hopStops := stopsAt_gap (r := []) (List.cons_ne_nil _ _) h₂ (Or.inr hquote)
      rw [List.append_nil] at hopStops ⊢
      rw [read_behind_words op hfield h₀ h₁ h₂ hfieldEnds hopStops (stopsAt_cons (by decide))]
      simp only [readTail, readValue, Text.Quoted.readBody_eq_none_iff.2 hbody, bind, Except.bind]
  | @leftover _ _ c hbefore hrest hstart hvalueEnds =>
      cases hbefore with
      | @parts w₀ w₁ w₂ w₃ spelling word _ hfield hvalue h₀ h₁ h₂ h₃ hfieldEnds hopEnds =>
          simp only [← List.append_assoc _ _ (spelling ++ w₃)] at hvalueEnds
          have hvalueRead := readValue_of_spells hvalue
            ((endsBare_append_iff hvalue.ne_nil h₃).1 hvalueEnds)
          have hvalueStart := (stopsAt_append_iff (t := w₃ ++ rest) hvalue.ne_nil).2
            hvalue.stopsAt_isWhite
          simp only [List.append_assoc]
          rw [read_behind_words c.op hfield h₀ h₁ h₂ hfieldEnds
            (stopsAt_gap hvalue.ne_nil h₂ hopEnds) hvalueStart]
          simp only [readTail, hvalueRead, Text.dropWhite_append h₃ hstart, bind, Except.bind]

/-- The reader fails exactly where a text goes wrong. -/
theorem read_eq_error_iff {s rest : List Char} {expected : Option Expectation} :
    read s = .error ⟨rest, expected⟩ ↔
      ∃ before, s = before ++ rest ∧ Fails before rest expected := by
  constructor
  · exact fails_of_read
  · rintro ⟨before, rfl, hfails⟩
    exact read_of_fails hfails

/-! ## What stands in front of the place -/

theorem spells_singleton {c : Char} (hwhite : Text.isWhite c = false) (hquote : c ≠ '"') :
    Spells [c] [c] := by
  refine .bare (List.cons_ne_nil _ _) fun d hd => ?_
  rw [List.mem_singleton.1 hd]
  exact ⟨hwhite, hquote⟩

/-- Behind two words and white space any value will do. -/
theorem derives_behind_words {w₀ w₁ w₂ : List Char} {word : String} {f : Field} (op : Operator)
    (hfield : f.keyword? = some word) (h₀ : Text.AllWhite w₀) (h₁ : Text.AllWhite w₁)
    (h₂ : Text.AllWhite w₂) (hfieldEnds : w₁ ≠ []) (hopEnds : w₂ ≠ []) :
    Derives (w₀ ++ (word.toList ++ (w₁ ++ (op.keyword.toList ++ (w₂ ++ ['x'])))))
      ⟨f, op, "x"⟩ := by
  have hvalue : Spells ['x'] "x".toList := spells_singleton rfl (by decide)
  have h₃ : Text.AllWhite [] := nofun
  exact .parts (c := ⟨f, op, "x"⟩) hfield hvalue h₀ h₁ h₂ h₃ hfieldEnds (Or.inl hopEnds)

theorem allWhite_concat_space {w : List Char} (hw : Text.AllWhite w) :
    Text.AllWhite (w ++ [' ']) := by
  intro c hc
  rcases List.mem_append.1 hc with hc | hc
  · exact hw c hc
  · rw [List.mem_singleton.1 hc]
    rfl

/-- What stands in front of the place is the start of a condition. -/
theorem Fails.exists_completion {before rest : List Char} {expected : Option Expectation}
    (h : Fails before rest expected) : ∃ more c, Derives (before ++ more) c := by
  have hspace : Text.AllWhite [' '] := allWhite_concat_space (w := []) nofun
  cases h with
  | field hword h₀ hstart =>
      exact ⟨"essid is x".toList, _,
        derives_behind_words .is (f := .essid) rfl h₀ hspace hspace (by decide) (by decide)⟩
  | operator hfield hword h₀ h₁ hfieldEnds hstart =>
      have hderives := derives_behind_words .is hfield h₀ (allWhite_concat_space h₁) hspace
        (by simp) (by decide)
      exact ⟨" is x".toList, _, by simpa [Operator.keyword] using hderives⟩
  | noValue op hfield h₀ h₁ h₂ hfieldEnds =>
      have hderives := derives_behind_words op hfield h₀ h₁ (allWhite_concat_space h₂) hfieldEnds
        (by simp)
      exact ⟨" x".toList, _, by simpa using hderives⟩
  | unclosed op hfield hbody h₀ h₁ h₂ hfieldEnds =>
      obtain ⟨closing, body, value, hclosed, hdecodes⟩ := hbody.exists_closing
      have hvalue : Spells ('"' :: (body ++ ['"'])) (String.ofList value).toList := by
        rw [String.toList_ofList]
        exact .quoted hdecodes
      have h₃ : Text.AllWhite [] := nofun
      have hderives : Derives _ ⟨_, op, String.ofList value⟩ :=
        .parts hfield hvalue h₀ h₁ h₂ h₃ hfieldEnds (Or.inr (stopsAt_cons (by decide)))
      rw [← hclosed] at hderives
      exact ⟨closing, _, by simpa using hderives⟩
  | @leftover _ _ c hbefore hrest hstart hvalueEnds =>
      exact ⟨[], c, by rwa [List.append_nil]⟩

/-- Where something was expected, nothing that goes on with the text stands behind the place. So
    the text up to there goes wrong in the same way. -/
theorem Fails.at_end {before rest : List Char} {x : Expectation}
    (h : Fails before rest (some x)) : Fails before [] (some x) := by
  cases h with
  | field hword h₀ hstart =>
      refine .field (fun f => ?_) h₀ nofun
      cases f <;> decide
  | operator hfield hword h₀ h₁ hfieldEnds hstart =>
      refine .operator hfield (fun op => ?_) h₀ h₁ ?_ nofun
      · cases op <;> decide
      · rw [List.append_nil]
        exact stopsAt_isWordChar_of_allWhite h₁
  | noValue op hfield h₀ h₁ h₂ hfieldEnds => exact .noValue op hfield h₀ h₁ h₂ hfieldEnds
  | unclosed op hfield hbody h₀ h₁ h₂ hfieldEnds =>
      exact .unclosed op hfield hbody h₀ h₁ h₂ hfieldEnds

/-- What stands in front of the place is a whole condition exactly if nothing was expected. -/
theorem Fails.exists_derives_iff {before rest : List Char} {expected : Option Expectation}
    (h : Fails before rest expected) : (∃ c, Derives before c) ↔ expected = none := by
  cases expected with
  | some x =>
      refine iff_of_false ?_ (by simp)
      rintro ⟨c, hc⟩
      have hread := read_of_fails h.at_end
      rw [List.append_nil, read_of_derives hc] at hread
      cases hread
  | none =>
      refine iff_of_true ?_ rfl
      cases h with
      | leftover hbefore hrest hstart hvalueEnds => exact ⟨_, hbefore⟩

/-! ## Errors -/

theorem parse_eq_error_iff {s : String} {e : ParseError} :
    parse s = .error e ↔
      ∃ rest, read s.toList = .error ⟨rest, e.expected⟩ ∧
        e = Failure.toParseError s ⟨rest, e.expected⟩ := by
  rw [parse]
  cases read s.toList with
  | ok c =>
      constructor
      · intro h
        cases h
      · rintro ⟨rest, h, -⟩
        cases h
  | error x =>
      constructor
      · intro h
        cases h
        exact ⟨x.rest, rfl, rfl⟩
      · rintro ⟨rest, h, he⟩
        cases h
        exact congrArg Except.error he.symm

/-- The error of a text is the one that marks where it goes wrong. -/
theorem parse_eq_error_iff_marks {s : String} {e : ParseError} :
    parse s = .error e ↔ e.input = s ∧ ∃ before rest, e.Marks before rest := by
  rw [parse_eq_error_iff]
  constructor
  · rintro ⟨rest, hread, he⟩
    obtain ⟨before, hs, hfails⟩ := read_eq_error_iff.1 hread
    have hparts : s = String.ofList before ++ String.ofList rest := by
      rw [← String.ofList_append, ← hs, String.ofList_toList]
    refine ⟨by rw [he]; rfl, String.ofList before, String.ofList rest, ?_, ?_, ?_⟩
    · rw [he, ← hparts]
      rfl
    · rw [he, ← Text.byteLength_toList, String.toList_ofList]
      show Text.byteLength s.toList - Text.byteLength rest = Text.byteLength before
      rw [hs, Text.byteLength_append, Nat.add_sub_cancel]
    · rwa [String.toList_ofList, String.toList_ofList]
  · rintro ⟨rfl, before, rest, hinput, hoffset, hfails⟩
    refine ⟨rest.toList, ?_, ?_⟩
    · rw [hinput, String.toList_append]
      exact read_eq_error_iff.2 ⟨_, rfl, hfails⟩
    · have hplace : Text.byteLength e.input.toList - Text.byteLength rest.toList = e.offset := by
        rw [hinput, hoffset, String.toList_append, Text.byteLength_append, Nat.add_sub_cancel,
          Text.byteLength_toList]
      rw [Failure.toParseError, hplace]

/-- **An error points at what is wrong.** The error of a text that is no condition marks a place in
    it, and any error that marks a place where the text goes wrong is the one that is reported. The
    place lies in the text, between two characters. What stands in front of it can be completed to a
    condition, and is one exactly if nothing was expected there. -/
theorem parse_error_place (s : String) (e : ParseError) :
    (parse s = .error e ↔ e.input = s ∧ ∃ before rest, e.Marks before rest) ∧
      ∀ before rest, e.Marks before rest →
        e.offset ≤ e.input.utf8ByteSize ∧
        (∃ more c, parse (before ++ more) = .ok c) ∧
        ((∃ c, parse before = .ok c) ↔ e.expected = none) := by
  refine ⟨parse_eq_error_iff_marks, ?_⟩
  rintro before rest ⟨hinput, hoffset, hfails⟩
  refine ⟨?_, ?_, ?_⟩
  · rw [hinput, hoffset, String.utf8ByteSize_append]
    exact Nat.le_add_right _ _
  · obtain ⟨more, c, hderives⟩ := hfails.exists_completion
    refine ⟨String.ofList more, c, parse_eq_ok_iff_read.2 ?_⟩
    rw [String.toList_append, String.toList_ofList]
    exact read_of_derives hderives
  · rw [← hfails.exists_derives_iff]
    simp only [parse_eq_ok_iff_read, read_eq_ok_iff_derives]

/-- A stray quote behind a bare value, in a text that starts with a character of three bytes. -/
theorem parse_error_place_stray_quote :
    parse "\u2003essid is a\"b" = .error ⟨"\u2003essid is a\"b", 13, none⟩ ∧
      ∃ c, parse "\u2003essid is a" = .ok c := by
  have hspells : Spells ['a'] "a".toList := spells_singleton rfl (by decide)
  have hfirst : Text.AllWhite ['\u2003'] := List.all_eq_true.1 rfl
  have hspace : Text.AllWhite [' '] := List.all_eq_true.1 rfl
  have hnone : Text.AllWhite [] := nofun
  have hbefore : Derives "\u2003essid is a".toList ⟨.essid, .is, "a"⟩ :=
    .parts (c := ⟨.essid, .is, "a"⟩) rfl hspells hfirst hspace hspace hnone
      (by decide) (Or.inl (by decide))
  have hmarks : (ParseError.mk "\u2003essid is a\"b" 13 none).Marks "\u2003essid is a" "\"b" :=
    ⟨by decide, by decide, .leftover hbefore (by decide) (stopsAt_cons (s := ['b']) rfl)
      fun _ _ _ => stopsAt_cons (s := ['b']) rfl⟩
  obtain ⟨hreported, hplace⟩ := parse_error_place "\u2003essid is a\"b"
    ⟨"\u2003essid is a\"b", 13, none⟩
  obtain ⟨-, -, hwhole⟩ := hplace _ _ hmarks
  exact ⟨hreported.2 ⟨rfl, _, _, hmarks⟩, hwhole.2 rfl⟩

end NetActivation.Condition
