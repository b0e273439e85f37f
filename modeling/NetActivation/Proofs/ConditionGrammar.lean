import NetActivation.Condition.Grammar
import NetActivation.Proofs.ConditionText

set_option autoImplicit false

/-! # The reader of conditions accepts its grammar

The reader is greedy: it takes white space and words as far as they go and gives nothing back. The
grammar asks only for parts that fit together. Both accept the same texts, because the grammar lets
no word run on into what follows it. Each reader of a part has a statement of its own, and
`read_eq_ok_iff_derives` puts them together. `parse_eq_ok_iff_derives` says the same of whole
texts, and that no text stands for two conditions. -/

namespace NetActivation.Condition

/-! ## Where readers stop -/

theorem stopsAt_dropWhile (p : Char → Bool) (s : List Char) : StopsAt p (s.dropWhile p) := by
  induction s with
  | nil => exact stopsAt_nil p
  | cons c s ih =>
      rw [List.dropWhile_cons]
      split
      · exact ih
      · next hc => exact stopsAt_cons (by simpa using hc)

theorem not_isWordChar_of_isWhite {c : Char} (h : Text.isWhite c = true) :
    isWordChar c = false := by
  cases hword : isWordChar c with
  | false => rfl
  | true =>
      rw [not_isWhite_of_isWordChar hword] at h
      exact absurd h (by simp)

/-- A reader of words stops at white space. -/
theorem stopsAt_isWordChar_white {w s : List Char} (hne : w ≠ []) (hw : Text.AllWhite w) :
    StopsAt isWordChar (w ++ s) := by
  obtain ⟨c, cs, rfl⟩ := List.exists_cons_of_ne_nil hne
  exact stopsAt_cons (not_isWordChar_of_isWhite (hw c (by simp)))

/-- So it does if nothing follows. -/
theorem stopsAt_isWordChar_of_allWhite {w : List Char} (hw : Text.AllWhite w) :
    StopsAt isWordChar w :=
  fun c hc => not_isWordChar_of_isWhite (hw c (List.mem_of_mem_head? hc))

theorem not_isBare_of_isWhite {c : Char} (h : Text.isWhite c = true) : isBare c = false := by
  rw [isBare, h]
  rfl

/-- A reader of bare values stops at white space, or at the end of the text. -/
theorem stopsAt_isBare_white {w : List Char} (hw : Text.AllWhite w) : StopsAt isBare w :=
  fun c hc => not_isBare_of_isWhite (hw c (List.mem_of_mem_head? hc))

/-- In front of a word no reader of words stops. -/
theorem not_stopsAt_word {w s : List Char} (hne : w ≠ []) (hw : ∀ c ∈ w, isWordChar c = true) :
    ¬StopsAt isWordChar (w ++ s) := by
  obtain ⟨c, cs, rfl⟩ := List.exists_cons_of_ne_nil hne
  intro hstop
  have hc : isWordChar c = false := hstop c rfl
  rw [hw c (by simp)] at hc
  exact absurd hc (by simp)

/-- What follows a part does not matter to a reader that looks at the part. -/
theorem stopsAt_append_iff {p : Char → Bool} {s t : List Char} (hne : s ≠ []) :
    StopsAt p (s ++ t) ↔ StopsAt p s := by
  obtain ⟨c, cs, rfl⟩ := List.exists_cons_of_ne_nil hne
  exact Iff.rfl

/-! ## Words and values -/

/-- A reader of words takes a word that ends there and is known. -/
theorem readWord_eq_ok_iff {α : Type} {lookUp : String → Option α} {expected : Expectation}
    {s r : List Char} {a : α} :
    readWord lookUp expected s = .ok (a, r) ↔
      ∃ word : String, s = word.toList ++ r ∧ (∀ c ∈ word.toList, isWordChar c = true) ∧
        StopsAt isWordChar r ∧ lookUp word = some a := by
  constructor
  · intro h
    obtain ⟨hword, rfl⟩ := readWord_eq_ok h
    refine ⟨_, ?_, ?_, stopsAt_dropWhile _ _, hword⟩
    · rw [String.toList_ofList, List.takeWhile_append_dropWhile]
    · rw [String.toList_ofList]
      exact List.all_eq_true.1 List.all_takeWhile
  · rintro ⟨word, rfl, hchars, hends, hword⟩
    rw [← String.ofList_toList (s := word)] at hword
    exact readWord_append hchars hends hword

/-- A word is read from behind white space up to where it ends. -/
theorem readWord_behind_white {α : Type} {lookUp : String → Option α} {w r : List Char}
    {word : String} {a : α} (expected : Expectation) (hw : Text.AllWhite w) (hne : word.toList ≠ [])
    (hchars : ∀ c ∈ word.toList, isWordChar c = true) (hends : StopsAt isWordChar r)
    (hword : lookUp word = some a) :
    readWord lookUp expected (Text.dropWhite (w ++ (word.toList ++ r))) = .ok (a, r) := by
  rw [Text.dropWhite_append hw (stopsAt_isWhite_word hne hchars)]
  exact readWord_eq_ok_iff.2 ⟨word, rfl, hchars, hends, hword⟩

/-- The word of a field is one that a reader of words can take. -/
theorem word_of_keyword? {f : Field} {word : String} (h : f.keyword? = some word) :
    word.toList ≠ [] ∧ ∀ c ∈ word.toList, isWordChar c = true := by
  have hne : f ≠ .blank := by
    rintro rfl
    exact absurd h (by simp [Field.keyword?])
  rw [Field.keyword?_eq_some_text hne] at h
  obtain rfl := Option.some.inj h
  exact ⟨by cases f <;> decide, isWordChar_of_mem_fieldText hne⟩

theorem isBare_iff {c : Char} : isBare c = true ↔ Text.isWhite c = false ∧ c ≠ '"' := by
  simp [isBare]

/-- Whether a text cannot go on with a character that a bare value in front of it would take. -/
def EndsBare (spelling r : List Char) : Prop :=
  ∀ last ∈ spelling.getLast?, isBare last = true → StopsAt isBare r

theorem endsBare_concat_quote (body r : List Char) : EndsBare (body ++ ['"']) r := by
  intro last hlast hbare
  rw [List.getLast?_concat, Option.mem_some_iff] at hlast
  subst hlast
  exact absurd hbare (by decide)

/-- A reader of values takes a way to write the value, and a bare one as far as it goes. -/
theorem exists_spells_of_readValue {s value r : List Char} (h : readValue s = .ok (value, r)) :
    ∃ spelling, Spells spelling value ∧ s = spelling ++ r ∧ EndsBare spelling r := by
  rw [readValue.eq_def] at h
  split at h
  · next body =>
      split at h
      · next found hbody =>
          obtain rfl := Except.ok.inj h
          obtain ⟨inside, hdecodes, rfl⟩ := Text.Quoted.exists_decodes_of_readBody hbody
          exact ⟨_, .quoted hdecodes, by simp, endsBare_concat_quote (_ :: inside) _⟩
      · exact absurd h (by simp)
  · split at h
    · exact absurd h (by simp)
    · next hne =>
        simp only [Except.ok.injEq, Prod.mk.injEq] at h
        obtain ⟨rfl, rfl⟩ := h
        refine ⟨_, .bare hne ?_, List.takeWhile_append_dropWhile.symm,
          fun _ _ _ => stopsAt_dropWhile _ _⟩
        intro c hc
        exact isBare_iff.1 (List.all_eq_true.1 List.all_takeWhile c hc)

/-- Whichever way a value is written, it is read as that value. -/
theorem readValue_of_spells {spelling value r : List Char} (h : Spells spelling value)
    (hr : EndsBare spelling r) : readValue (spelling ++ r) = .ok (value, r) := by
  cases h with
  | bare hne hbare =>
      have hlast := hbare _ (List.getLast_mem hne)
      have hends := hr _ (List.getLast?_eq_some_getLast hne) (isBare_iff.2 hlast)
      exact readValue_bare hne (fun c hc => isBare_iff.2 (hbare c hc)) hends
  | @quoted body _ hdecodes =>
      have hbody := Text.Quoted.readBody_append hdecodes r
      rw [List.cons_append, List.append_assoc, List.singleton_append, readValue, hbody]

theorem Spells.ne_nil {spelling value : List Char} (h : Spells spelling value) :
    spelling ≠ [] := by
  cases h with
  | bare hne hbare => exact hne
  | quoted hdecodes => exact List.cons_ne_nil _ _

/-- A written value starts with a character that is no white space. -/
theorem Spells.stopsAt_isWhite {spelling value : List Char} (h : Spells spelling value) :
    StopsAt Text.isWhite spelling := by
  cases h with
  | bare hne hbare => exact fun c hc => (hbare c (List.mem_of_mem_head? hc)).1
  | quoted hdecodes => exact stopsAt_cons (by decide)

/-! ## Conditions -/

/-- Reads what stands behind the two words of a condition. -/
def readTail (f : Field) (op : Operator) (s : List Char) : Except Failure Condition := do
  let (value, s) ← readValue s
  match Text.dropWhite s with
  | [] => .ok ⟨f, op, String.ofList value⟩
  | rest => .error ⟨rest, none⟩

/-- What comes of a reading that found two words is said by what stands behind them. -/
theorem read_of_words {s s₁ s₂ : List Char} {f : Field} {op : Operator}
    (hfield : readWord Field.ofKeyword? .field (Text.dropWhite s) = .ok (f, s₁))
    (hop : readWord Operator.ofKeyword? .operator (Text.dropWhite s₁) = .ok (op, s₂)) :
    read s = readTail f op (Text.dropWhite s₂) := by
  simp only [read, bind, Except.bind, hfield, hop]
  rfl

theorem keyword_ne_nil (op : Operator) : op.keyword.toList ≠ [] := by
  cases op <;> decide

/-- Two words that end where they should are read, whatever stands behind them. -/
theorem read_behind_words {w₀ w₁ w₂ r : List Char} {word : String} {f : Field} (op : Operator)
    (hfield : f.keyword? = some word) (h₀ : Text.AllWhite w₀) (h₁ : Text.AllWhite w₁)
    (h₂ : Text.AllWhite w₂) (hfieldEnds : w₁ ≠ []) (hopStops : StopsAt isWordChar (w₂ ++ r))
    (hstart : StopsAt Text.isWhite r) :
    read (w₀ ++ (word.toList ++ (w₁ ++ (op.keyword.toList ++ (w₂ ++ r))))) = readTail f op r := by
  obtain ⟨hfieldNe, hfieldChars⟩ := word_of_keyword? hfield
  have hfieldStops := stopsAt_isWordChar_white (s := op.keyword.toList ++ (w₂ ++ r)) hfieldEnds h₁
  have hfieldRead := readWord_behind_white .field h₀ hfieldNe hfieldChars hfieldStops
    (Field.ofKeyword?_eq_some_iff.2 hfield)
  have hopRead := readWord_behind_white .operator h₁ (keyword_ne_nil op)
    (isWordChar_of_mem_keyword op) hopStops (Operator.ofKeyword?_eq_some_iff.2 rfl)
  rw [read_of_words hfieldRead hopRead, Text.dropWhite_append h₂ hstart]

/-- The two words that were read, with the white space around them. -/
theorem exists_words {s s₁ s₂ : List Char} {f : Field} {op : Operator}
    (hfield : readWord Field.ofKeyword? .field (Text.dropWhite s) = .ok (f, s₁))
    (hop : readWord Operator.ofKeyword? .operator (Text.dropWhite s₁) = .ok (op, s₂)) :
    ∃ w₀ w₁ w₂ word, f.keyword? = some word ∧ Text.AllWhite w₀ ∧ Text.AllWhite w₁ ∧
      Text.AllWhite w₂ ∧ w₁ ≠ [] ∧ StopsAt isWordChar (w₂ ++ Text.dropWhite s₂) ∧
      s = w₀ ++ (word.toList ++ (w₁ ++ (op.keyword.toList ++ (w₂ ++ Text.dropWhite s₂)))) := by
  obtain ⟨word, hword, -, hfieldStops, hfieldKnown⟩ := readWord_eq_ok_iff.1 hfield
  obtain ⟨opWord, hopWord, hopChars, hopStops, hopKnown⟩ := readWord_eq_ok_iff.1 hop
  rw [Field.ofKeyword?_eq_some_iff] at hfieldKnown
  rw [Operator.ofKeyword?_eq_some_iff] at hopKnown
  subst hopKnown
  obtain ⟨w₀, h₀, hs⟩ := Text.exists_allWhite_append s
  obtain ⟨w₁, h₁, hs₁⟩ := Text.exists_allWhite_append s₁
  obtain ⟨w₂, h₂, hs₂⟩ := Text.exists_allWhite_append s₂
  rw [hword] at hs
  rw [hopWord] at hs₁
  refine ⟨w₀, w₁, w₂, word, hfieldKnown, h₀, h₁, h₂, ?_, hs₂ ▸ hopStops, ?_⟩
  · rintro rfl
    rw [hs₁] at hfieldStops
    exact not_stopsAt_word (keyword_ne_nil op) hopChars hfieldStops
  · rw [← hs₂, ← hs₁, ← hs]

/-- Behind the operator's word there is white space, or a value that does not go on with it. -/
theorem gap_of_stopsAt {w spelling r : List Char} (hne : spelling ≠ [])
    (h : StopsAt isWordChar (w ++ (spelling ++ r))) :
    w ≠ [] ∨ ∀ first ∈ spelling.head?, isWordChar first = false := by
  by_cases hgap : w = []
  · subst hgap
    exact Or.inr ((stopsAt_append_iff hne).1 h)
  · exact Or.inl hgap

theorem stopsAt_gap {w spelling r : List Char} (hne : spelling ≠ []) (hw : Text.AllWhite w)
    (h : w ≠ [] ∨ ∀ first ∈ spelling.head?, isWordChar first = false) :
    StopsAt isWordChar (w ++ (spelling ++ r)) := by
  by_cases hgap : w = []
  · subst hgap
    exact (stopsAt_append_iff hne).2 (h.resolve_left fun h => h rfl)
  · exact stopsAt_isWordChar_white hgap hw

theorem derives_of_read {s : List Char} {c : Condition} (h : read s = .ok c) : Derives s c := by
  obtain ⟨s₁, s₂, s₃, value, hfield, hop, hvalue, hrest, hc⟩ := parts_of_read h
  obtain ⟨w₀, w₁, w₂, word, hkeyword, h₀, h₁, h₂, hne, hopStops, rfl⟩ := exists_words hfield hop
  obtain ⟨spelling, hspells, hspelling, -⟩ := exists_spells_of_readValue hvalue
  obtain ⟨w₃, h₃, hs₃⟩ := Text.exists_allWhite_append s₃
  rw [hrest, List.append_nil] at hs₃
  subst hs₃
  have hspells : Spells spelling c.value.toList := by rwa [hc, String.toList_ofList]
  rw [hspelling] at hopStops ⊢
  exact .parts hkeyword hspells h₀ h₁ h₂ h₃ hne (gap_of_stopsAt hspells.ne_nil hopStops)

theorem read_of_derives {s : List Char} {c : Condition} (h : Derives s c) : read s = .ok c := by
  cases h with
  | @parts w₀ w₁ w₂ w₃ spelling word _ hfield hvalue h₀ h₁ h₂ h₃ hfieldEnds hopEnds =>
      have hopStops := stopsAt_gap (r := w₃) hvalue.ne_nil h₂ hopEnds
      have hstart := (stopsAt_append_iff (t := w₃) hvalue.ne_nil).2 hvalue.stopsAt_isWhite
      have hvalueRead : readValue (spelling ++ w₃) = .ok (c.value.toList, w₃) :=
        readValue_of_spells hvalue fun _ _ _ => stopsAt_isBare_white h₃
      have hrest : Text.dropWhite w₃ = [] := Text.dropWhite_eq_nil_iff.2 h₃
      rw [read_behind_words c.op hfield h₀ h₁ h₂ hfieldEnds hopStops hstart]
      simp only [readTail, hvalueRead, bind, Except.bind, hrest, String.ofList_toList]

/-- The reader accepts the texts that the grammar derives, and no others. -/
theorem read_eq_ok_iff_derives {s : List Char} {c : Condition} :
    read s = .ok c ↔ Derives s c :=
  ⟨derives_of_read, read_of_derives⟩

/-- No text stands for two conditions. -/
theorem Derives.unique {s : List Char} {c d : Condition} (hc : Derives s c) (hd : Derives s d) :
    c = d :=
  Except.ok.inj ((read_of_derives hc).symm.trans (read_of_derives hd))

theorem parse_eq_ok_iff_read {s : String} {c : Condition} :
    parse s = .ok c ↔ read s.toList = .ok c := by
  rw [parse]
  cases read s.toList with
  | error e =>
      constructor
      · intro h
        cases h
      · intro h
        cases h
  | ok d =>
      constructor
      · intro h
        cases h
        rfl
      · intro h
        cases h
        rfl

/-- **The reader accepts its grammar.** A text is read as a condition if and only if the grammar
    derives it for that condition: white space, the field's word, white space, the operator's word,
    the value in one of its spellings and white space. No text is derived for two conditions. -/
theorem parse_eq_ok_iff_derives (s : String) :
    (∀ c, parse s = .ok c ↔ Derives s.toList c) ∧
      ∀ c d, Derives s.toList c → Derives s.toList d → c = d :=
  ⟨fun _ => parse_eq_ok_iff_read.trans read_eq_ok_iff_derives, fun _ _ => Derives.unique⟩

/-- A literal right behind the operator's word, with a kept backslash and a quote in it. -/
theorem parse_eq_ok_iff_derives_glued :
    Derives "\u2003essid\tcontains\"a\\n\\\"\"".toList ⟨.essid, .contains, "a\\n\""⟩ ∧
      parse "\u2003essid\tcontains\"a\\n\\\"\"" = .ok ⟨.essid, .contains, "a\\n\""⟩ ∧
      ∀ d, Derives "\u2003essid\tcontains\"a\\n\\\"\"".toList d →
        d = ⟨.essid, .contains, "a\\n\""⟩ := by
  have hbody : Text.Quoted.Decodes ['a', '\\', 'n', '\\', '"'] ['a', '\\', 'n', '"'] :=
    .plain (by decide) (by decide) (.kept (by decide) (by decide) (.quote .nil))
  have hspace : Text.AllWhite ['\u2003'] := List.all_eq_true.1 rfl
  have htab : Text.AllWhite ['\t'] := List.all_eq_true.1 rfl
  have hnone : Text.AllWhite [] := nofun
  have hderives : Derives "\u2003essid\tcontains\"a\\n\\\"\"".toList
      ⟨.essid, .contains, "a\\n\""⟩ := by
    have hvalue : Spells ('"' :: (['a', '\\', 'n', '\\', '"'] ++ ['"'])) "a\\n\"".toList :=
      .quoted hbody
    exact .parts (c := ⟨.essid, .contains, "a\\n\""⟩) rfl hvalue hspace htab hnone hnone
      (by decide) (Or.inr (stopsAt_cons (by decide)))
  obtain ⟨haccepts, hunique⟩ :=
    parse_eq_ok_iff_derives "\u2003essid\tcontains\"a\\n\\\"\""
  exact ⟨hderives, (haccepts _).2 hderives, fun d hd => hunique _ _ hd hderives⟩

end NetActivation.Condition
