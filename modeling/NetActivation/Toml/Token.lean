import NetActivation.Text.Digits

set_option autoImplicit false

/-! # The words of a TOML document

Blanks, comments, quoted texts, keys and integers. Every reader takes what it reads off the front
of a text in which lines end in a single line feed, and gives the rest back. -/

namespace NetActivation.Toml

/-! ## Characters -/

/-- Whether a character is a space or a tab. -/
def isBlank (c : Char) : Bool := c == ' ' || c == '\t'

/-- A text without its leading spaces and tabs. -/
def skipBlanks (s : List Char) : List Char := s.dropWhile isBlank

/-- Whether a character can stand in a comment or, unless it has a meaning there, in a text on one
    line: any but the controls other than the tab. -/
def isPlain (c : Char) : Bool := c == '\t' || (0x20 ≤ c.toNat && c.toNat != 0x7F)

/-- A text in which every carriage return before a line feed is dropped. -/
def unifyLines : List Char → List Char
  | '\r' :: '\n' :: s => '\n' :: unifyLines s
  | c :: s => c :: unifyLines s
  | [] => []

/-- Skips a comment, if there is one, up to the end of its line. -/
def skipComment : List Char → List Char
  | '#' :: s => s.dropWhile isPlain
  | s => s

/-- Reads the rest of a line, which has to be empty except for a comment. -/
def endLine (s : List Char) : Option (List Char) :=
  match skipComment (skipBlanks s) with
  | [] => some []
  | '\n' :: s => some s
  | _ => none

/-! ## Escapes -/

/-- The character with a number in hexadecimal digits. -/
def charOfHex? (digits : List Char) : Option Char := do
  let n ← Text.number? 16 digits
  if n.isValidChar then return Char.ofNat n else none

/-- Reads what follows the backslash of an escape. -/
def readEscape : List Char → Option (Char × List Char)
  | 'b' :: s => some ('\x08', s)
  | 't' :: s => some ('\t', s)
  | 'n' :: s => some ('\n', s)
  | 'f' :: s => some ('\x0c', s)
  | 'r' :: s => some ('\r', s)
  | '"' :: s => some ('"', s)
  | '\\' :: s => some ('\\', s)
  | 'u' :: s =>
    if 4 ≤ s.length then (charOfHex? (s.take 4)).map fun c => (c, s.drop 4) else none
  | 'U' :: s =>
    if 8 ≤ s.length then (charOfHex? (s.take 8)).map fun c => (c, s.drop 8) else none
  | _ => none

theorem readEscape_length {s r : List Char} {c : Char} (h : readEscape s = some (c, r)) :
    r.length < s.length := by
  unfold readEscape at h
  split at h
  all_goals first
    | (simp only [Option.some.injEq, Prod.mk.injEq] at h
       obtain ⟨_, rfl⟩ := h
       simp)
    | (split at h
       · simp only [Option.map_eq_some_iff, Prod.mk.injEq] at h
         obtain ⟨_, _, _, rfl⟩ := h
         simp only [List.length_drop, List.length_cons]
         omega
       · simp at h)
    | simp at h

/-! ## Texts on one line -/

/-- Reads a text in double quotes from behind the first of them. -/
def readBasic (s : List Char) : Option (List Char × List Char) :=
  match s with
  | [] => none
  | '"' :: s => some ([], s)
  | '\\' :: s =>
    match _h : readEscape s with
    | some (c, r) => (readBasic r).map fun (t, r) => (c :: t, r)
    | none => none
  | c :: s => if isPlain c then (readBasic s).map fun (t, r) => (c :: t, r) else none
termination_by s.length
decreasing_by
  · have := readEscape_length _h
    simp only [List.length_cons]
    omega
  · simp

/-- Reads a text in single quotes from behind the first of them. -/
def readLiteral : List Char → Option (List Char × List Char)
  | [] => none
  | '\'' :: s => some ([], s)
  | c :: s => if isPlain c then (readLiteral s).map fun (t, r) => (c :: t, r) else none

/-! ## Texts on several lines -/

/-- A text without a line feed at its start. -/
def skipLineFeed : List Char → List Char
  | '\n' :: s => s
  | s => s

/-- Skips the end of a line that ends in a backslash, from behind it, and blank lines after it. -/
def skipFold? (s : List Char) : Option (List Char) :=
  match skipBlanks s with
  | '\n' :: s => some (s.dropWhile fun c => isBlank c || c == '\n')
  | _ => none

theorem dropWhile_length_le (p : Char → Bool) (s : List Char) :
    (s.dropWhile p).length ≤ s.length :=
  (List.dropWhile_suffix p).length_le

theorem skipFold?_length {s r : List Char} (h : skipFold? s = some r) : r.length < s.length := by
  unfold skipFold? at h
  split at h
  · next t ht =>
    simp only [Option.some.injEq] at h
    have h₁ := dropWhile_length_le isBlank s
    have h₂ := dropWhile_length_le (fun c => isBlank c || c == '\n') t
    rw [show s.dropWhile isBlank = '\n' :: t from ht, List.length_cons] at h₁
    rw [← h]
    omega
  · simp at h

/-- Reads the closing quotes of a text on several lines: three, before which up to two may belong to
    the text. -/
def readClosing (quote : Char) (s : List Char) : Option (List Char × List Char) :=
  let quotes := s.takeWhile (· == quote)
  if 3 ≤ quotes.length then
    let own := min 2 (quotes.length - 3)
    some (List.replicate own quote, s.drop (own + 3))
  else none

/-- Reads a text on several lines in double quotes from behind the first three. -/
def readMultiBasic (s : List Char) : Option (List Char × List Char) :=
  match readClosing '"' s with
  | some r => some r
  | none =>
    match s with
    | [] => none
    | '\\' :: s =>
      match _h : readEscape s with
      | some (c, r) => (readMultiBasic r).map fun (t, r) => (c :: t, r)
      | none =>
        match _h' : skipFold? s with
        | some r => readMultiBasic r
        | none => none
    | c :: s =>
      if isPlain c || c == '\n' then (readMultiBasic s).map fun (t, r) => (c :: t, r) else none
termination_by s.length
decreasing_by
  · have := readEscape_length _h
    simp only [List.length_cons]
    omega
  · have := skipFold?_length _h'
    simp only [List.length_cons]
    omega
  · simp

/-- Reads a text on several lines in single quotes from behind the first three. -/
def readMultiLiteral (s : List Char) : Option (List Char × List Char) :=
  match readClosing '\'' s with
  | some r => some r
  | none =>
    match s with
    | [] => none
    | c :: s =>
      if isPlain c || c == '\n' then (readMultiLiteral s).map fun (t, r) => (c :: t, r) else none

/-- Reads a text in quotes of any kind. -/
def readText : List Char → Option (List Char × List Char)
  | '"' :: '"' :: '"' :: s => readMultiBasic (skipLineFeed s)
  | '\'' :: '\'' :: '\'' :: s => readMultiLiteral (skipLineFeed s)
  | '"' :: s => readBasic s
  | '\'' :: s => readLiteral s
  | _ => none

/-! ## Keys -/

/-- Whether a character can stand in a key without quotes. -/
def isKeyChar (c : Char) : Bool := c.isAlphanum || c == '_' || c == '-'

def readKeyPart (s : List Char) : Option (String × List Char) :=
  match s with
  | '"' :: s => (readBasic s).map fun (t, r) => (String.ofList t, r)
  | '\'' :: s => (readLiteral s).map fun (t, r) => (String.ofList t, r)
  | s =>
    match s.takeWhile isKeyChar with
    | [] => none
    | t => some (String.ofList t, s.dropWhile isKeyChar)

/-- Reads at most `fuel` parts of a key with points between them, and the blanks behind it. -/
def readKeyParts : Nat → List Char → Option (List String × List Char)
  | 0, _ => none
  | fuel + 1, s => do
    let (part, s) ← readKeyPart s
    match skipBlanks s with
    | '.' :: s => do
      let (parts, s) ← readKeyParts fuel (skipBlanks s)
      return (part :: parts, s)
    | s => return ([part], s)

def readKey (s : List Char) : Option (List String × List Char) := readKeyParts (s.length + 1) s

/-! ## Integers -/

/-- Takes digits with single underscores between them off the front of a text. -/
def takeDigits (base : Nat) : List Char → List Char × List Char
  | c :: '_' :: s =>
    if (Text.digit? base c).isSome then
      if (s.head?.bind (Text.digit? base)).isSome then
        let (digits, rest) := takeDigits base s
        (c :: digits, rest)
      else ([c], '_' :: s)
    else ([], c :: '_' :: s)
  | c :: s =>
    if (Text.digit? base c).isSome then
      let (digits, rest) := takeDigits base s
      (c :: digits, rest)
    else ([], c :: s)
  | [] => ([], [])

/-- Reads digits in a base. -/
def readNatural (base : Nat) (s : List Char) : Option (Nat × List Char) :=
  let (digits, rest) := takeDigits base s
  (Text.number? base digits).map fun n => (n, rest)

/-- Reads digits in base ten. A number of several digits does not start with a zero. -/
def readDecimal (s : List Char) : Option (Nat × List Char) :=
  let (digits, _) := takeDigits 10 s
  if 1 < digits.length ∧ digits.head? = some '0' then none else readNatural 10 s

/-- Reads an integer, without regard to its size. Only numbers in base ten have a sign. -/
def readAnyInteger : List Char → Option (Int × List Char)
  | '0' :: 'x' :: s => (readNatural 16 s).map fun (n, r) => (n, r)
  | '0' :: 'o' :: s => (readNatural 8 s).map fun (n, r) => (n, r)
  | '0' :: 'b' :: s => (readNatural 2 s).map fun (n, r) => (n, r)
  | '-' :: s => (readDecimal s).map fun (n, r) => (-(n : Int), r)
  | '+' :: s => (readDecimal s).map fun (n, r) => (n, r)
  | s => (readDecimal s).map fun (n, r) => (n, r)

/-- The first integer that is too large for 64 bits. -/
def integerLimit : Int := 9223372036854775808

/-- Reads an integer of 64 bits. -/
def readInteger (s : List Char) : Option (Int × List Char) :=
  (readAnyInteger s).filter fun (n, _) => decide (-integerLimit ≤ n) && decide (n < integerLimit)

end NetActivation.Toml
