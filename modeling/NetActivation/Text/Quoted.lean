set_option autoImplicit false

/-! # Quoted literals

A value that cannot stand bare is written between double quotes, with a backslash before each
quote and each backslash. Reading is more generous than writing: a backslash before any other
character stands for itself, and that character is kept. `Decodes` says what a literal stands for,
and `readBody_append` and `exists_decodes_of_readBody` that reading follows it and leaves the text
behind the literal alone. `Unclosed` says which literals do not end, and so are not read
(`readBody_eq_none_iff`). A written literal is one that is decoded to what it was written for
(`decodes_escape`), so it reads back. -/

namespace NetActivation.Text.Quoted

/-- Whether a character is written with a backslash in front of it. -/
def isEscaped (c : Char) : Bool := c == '"' || c == '\\'

/-- The text between the quotes of a literal. -/
def escape : List Char → List Char
  | [] => []
  | c :: cs => if isEscaped c then '\\' :: c :: escape cs else c :: escape cs

def quote (s : List Char) : List Char := '"' :: (escape s ++ ['"'])

/-- What a backslash followed by `c` stands for. -/
def unescape (c : Char) : List Char := if isEscaped c then [c] else ['\\', c]

/-- Reads a literal from behind its opening quote to its closing quote: the text it stands for
    and the text behind it. There is none if the literal does not end. -/
def readBody : List Char → Option (List Char × List Char)
  | [] => none
  | '"' :: rest => some ([], rest)
  | ['\\'] => none
  | '\\' :: c :: rest => (readBody rest).map fun (s, r) => (unescape c ++ s, r)
  | c :: rest => (readBody rest).map fun (s, r) => (c :: s, r)

/-- What the text between the quotes of a literal stands for. A quote in it needs a backslash, so
    that it does not end the literal. -/
inductive Decodes : List Char → List Char → Prop where
  | nil : Decodes [] []
  /-- a quote with a backslash in front of it -/
  | quote {body s : List Char} (h : Decodes body s) : Decodes ('\\' :: '"' :: body) ('"' :: s)
  /-- a backslash with a backslash in front of it -/
  | backslash {body s : List Char} (h : Decodes body s) :
      Decodes ('\\' :: '\\' :: body) ('\\' :: s)
  /-- a backslash in front of any other character: both stand for themselves -/
  | kept {c : Char} {body s : List Char} (hquote : c ≠ '"') (hbackslash : c ≠ '\\')
      (h : Decodes body s) : Decodes ('\\' :: c :: body) ('\\' :: c :: s)
  /-- any other character -/
  | plain {c : Char} {body s : List Char} (hquote : c ≠ '"') (hbackslash : c ≠ '\\')
      (h : Decodes body s) : Decodes (c :: body) (c :: s)

/-- A literal behind its opening quote that does not end: every quote in it has a backslash in front
    of it. -/
inductive Unclosed : List Char → Prop where
  | nil : Unclosed []
  /-- a backslash with nothing behind it -/
  | lone : Unclosed ['\\']
  /-- any character with a backslash in front of it -/
  | escaped (c : Char) {body : List Char} (h : Unclosed body) : Unclosed ('\\' :: c :: body)
  /-- any other character -/
  | plain {c : Char} {body : List Char} (hquote : c ≠ '"') (hbackslash : c ≠ '\\')
      (h : Unclosed body) : Unclosed (c :: body)

theorem not_isEscaped {c : Char} (hquote : c ≠ '"') (hbackslash : c ≠ '\\') :
    ¬isEscaped c = true := by
  simp [isEscaped, hquote, hbackslash]

/-- Any character can stand behind a backslash. -/
theorem Decodes.escaped (c : Char) {body s : List Char} (h : Decodes body s) :
    Decodes ('\\' :: c :: body) (unescape c ++ s) := by
  by_cases hquote : c = '"'
  · subst hquote
    exact .quote h
  · by_cases hbackslash : c = '\\'
    · subst hbackslash
      exact .backslash h
    · rw [unescape, if_neg (not_isEscaped hquote hbackslash)]
      exact .kept hquote hbackslash h

/-- A character that starts no escape and does not end the literal is read as it is. -/
theorem readBody_cons {c : Char} (hquote : c ≠ '"') (hbackslash : c ≠ '\\') (t : List Char) :
    readBody (c :: t) = (readBody t).map fun (s, r) => (c :: s, r) :=
  readBody.eq_5 c t hquote (fun h _ => hbackslash h) (fun _ _ h _ => hbackslash h)

/-- The text up to a quote that ends the literal is read as what it stands for. -/
theorem readBody_append {body s : List Char} (h : Decodes body s) (rest : List Char) :
    readBody (body ++ '"' :: rest) = some (s, rest) := by
  induction h with
  | nil => rfl
  | quote h ih => simp [readBody, ih, unescape, isEscaped]
  | backslash h ih => simp [readBody, ih, unescape, isEscaped]
  | kept hquote hbackslash h ih =>
      simp [readBody, ih, unescape, not_isEscaped hquote hbackslash]
  | plain hquote hbackslash h ih =>
      rw [List.cons_append, readBody_cons hquote hbackslash, ih, Option.map_some]

/-- A backslash is read with the character behind it, or fails if there is none. -/
theorem ne_backslash_of_plain {c : Char} {r : List Char} (hlone : c = '\\' → r = [] → False)
    (hescape : ∀ d r', c = '\\' → r = d :: r' → False) : c ≠ '\\' := by
  intro hc
  cases r with
  | nil => exact hlone hc rfl
  | cons d r => exact hescape d r hc rfl

/-- What is read stands in front of a quote that ends the literal. -/
theorem exists_decodes_of_readBody {t s rest : List Char} (h : readBody t = some (s, rest)) :
    ∃ body, Decodes body s ∧ t = body ++ '"' :: rest := by
  fun_induction readBody t generalizing s with
  | case1 => exact absurd h (by simp)
  | case2 r =>
      simp only [Option.some.injEq, Prod.mk.injEq] at h
      obtain ⟨rfl, rfl⟩ := h
      exact ⟨[], .nil, rfl⟩
  | case3 => exact absurd h (by simp)
  | case4 c r ih =>
      obtain ⟨⟨s', r'⟩, hread, heq⟩ := Option.map_eq_some_iff.1 h
      simp only [Prod.mk.injEq] at heq
      obtain ⟨rfl, rfl⟩ := heq
      obtain ⟨body, hbody, rfl⟩ := ih hread
      exact ⟨'\\' :: c :: body, .escaped c hbody, rfl⟩
  | case5 c r hquote hlone hescape ih =>
      have hbackslash := ne_backslash_of_plain hlone hescape
      obtain ⟨⟨s', r'⟩, hread, heq⟩ := Option.map_eq_some_iff.1 h
      simp only [Prod.mk.injEq] at heq
      obtain ⟨rfl, rfl⟩ := heq
      obtain ⟨body, hbody, rfl⟩ := ih hread
      exact ⟨c :: body, .plain hquote hbackslash hbody, rfl⟩

/-- A literal is not read exactly if it does not end. -/
theorem readBody_eq_none_iff {t : List Char} : readBody t = none ↔ Unclosed t := by
  constructor
  · intro h
    fun_induction readBody t with
    | case1 => exact .nil
    | case2 r => exact absurd h (by simp)
    | case3 => exact .lone
    | case4 c r ih => exact .escaped c (ih (Option.map_eq_none_iff.1 h))
    | case5 c r hquote hlone hescape ih =>
        have hbackslash := ne_backslash_of_plain hlone hescape
        exact .plain hquote hbackslash (ih (Option.map_eq_none_iff.1 h))
  · intro h
    induction h with
    | nil => rfl
    | lone => rfl
    | escaped c h ih => rw [readBody, ih, Option.map_none]
    | plain hquote hbackslash h ih => rw [readBody_cons hquote hbackslash, ih, Option.map_none]

/-- A literal that does not end can be ended. -/
theorem Unclosed.exists_closing {t : List Char} (h : Unclosed t) :
    ∃ closing body s, t ++ closing = body ++ ['"'] ∧ Decodes body s := by
  induction h with
  | nil => exact ⟨['"'], [], [], rfl, .nil⟩
  | lone => exact ⟨['"', '"'], ['\\', '"'], ['"'], rfl, .quote .nil⟩
  | escaped c h ih =>
      obtain ⟨closing, body, s, hclosed, hbody⟩ := ih
      exact ⟨closing, '\\' :: c :: body, _, by simp [hclosed], hbody.escaped c⟩
  | @plain c _ hquote hbackslash h ih =>
      obtain ⟨closing, body, s, hclosed, hbody⟩ := ih
      exact ⟨closing, c :: body, c :: s, by simp [hclosed], .plain hquote hbackslash hbody⟩

/-- What is written is decoded to what it was written for. -/
theorem decodes_escape (s : List Char) : Decodes (escape s) s := by
  induction s with
  | nil => exact .nil
  | cons c s ih =>
      rw [escape]
      by_cases hquote : c = '"'
      · subst hquote
        exact .quote ih
      · by_cases hbackslash : c = '\\'
        · subst hbackslash
          exact .backslash ih
        · rw [if_neg (not_isEscaped hquote hbackslash)]
          exact .plain hquote hbackslash ih

theorem readBody_escape (s rest : List Char) :
    readBody (escape s ++ '"' :: rest) = some (s, rest) :=
  readBody_append (decodes_escape s) rest

end NetActivation.Text.Quoted
