set_option autoImplicit false

/-! # Places in a text

A place in a text is its distance from the start in bytes of UTF-8. `picture` shows a place to a
reader: a text of one line is repeated with a mark under the place; of a longer text only the line
is shown, with its number. -/

namespace NetActivation.Text

/-- The number of bytes that a text takes in UTF-8. -/
def byteLength : List Char → Nat
  | [] => 0
  | c :: s => c.utf8Size + byteLength s

theorem byteLength_append (s t : List Char) :
    byteLength (s ++ t) = byteLength s + byteLength t := by
  induction s with
  | nil => exact (Nat.zero_add _).symm
  | cons c s ih => rw [List.cons_append, byteLength, byteLength, ih, Nat.add_assoc]

theorem byteLength_toList (s : String) : byteLength s.toList = s.utf8ByteSize := by
  rw [← String.ofList_toList (s := s), String.toList_ofList]
  induction s.toList with
  | nil => rfl
  | cons c l ih =>
    rw [byteLength, ih, String.ofList_cons, String.utf8ByteSize_append,
      String.utf8ByteSize_singleton]

/-- Cuts a text at a place, which is taken to be the start of a character or the end. -/
def splitAtByte : Nat → List Char → List Char × List Char
  | _, [] => ([], [])
  | 0, s => ([], s)
  | n, c :: s =>
    let (before, rest) := splitAtByte (n - c.utf8Size) s
    (c :: before, rest)

/-- A number of spaces. -/
def spaces (n : Nat) : List Char := List.replicate n ' '

/-- The part of a text behind its last line break. -/
def lastLine (s : List Char) : List Char := (s.reverse.takeWhile (· != '\n')).reverse

/-- The part of a text before its first line break. -/
def firstLine (s : List Char) : List Char := s.takeWhile (· != '\n')

/-- Where a mark is put: the line's number, what stands on the line before the marked character,
    the rest of the line from there on, and how far to the right the mark stands. -/
structure Mark where
  line : Nat
  before : List Char
  rest : List Char
  column : Nat
  deriving DecidableEq, Repr

/-- The mark for the place between `before` and `rest`. At the end of the text the last character
    is marked one column further on, so that a final line break belongs to the line it ends. Ahead
    of an ASCII character columns count characters, ahead of any other they count bytes. -/
def Mark.at (before rest : List Char) : Mark :=
  match rest, before.getLast? with
  | c :: _, _ =>
    let line := lastLine before
    ⟨before.count '\n' + 1, line, rest,
      if c.toNat < 128 then line.length else byteLength line⟩
  | [], some last =>
    let earlier := before.dropLast
    let line := lastLine earlier
    ⟨earlier.count '\n' + 1, line, [last], line.length + 1⟩
  | [], none => ⟨1, [], [], 0⟩

/-- The mark and the line it stands on, below a heading that names line and column. -/
def Mark.picture (m : Mark) : List Char :=
  let number := (toString m.line).toList
  let pad := spaces number.length
  "parse error at line ".toList ++ number ++ ", column ".toList ++
    (toString (m.column + 1)).toList ++ ['\n'] ++
    pad ++ " |\n".toList ++
    number ++ " | ".toList ++ m.before ++ firstLine m.rest ++ ['\n'] ++
    pad ++ " | ".toList ++ spaces m.column ++ ['^']

/-- Shows a place in a text. In a text of one line the mark stands below the text, as many columns
    in as the place counts bytes. -/
def picture (s : List Char) (offset : Nat) : List Char :=
  if '\n' ∈ s then
    let (before, rest) := splitAtByte offset s
    (Mark.at before rest).picture
  else s ++ '\n' :: (spaces offset ++ ['^'])

end NetActivation.Text
