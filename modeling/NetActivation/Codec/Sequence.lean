import NetActivation.Codec.Bytes

set_option autoImplicit false

/-! # Numbers, texts and lists as bytes

A number up to 250 takes one byte. A larger one follows a marker that says whether two, four or
eight bytes hold it; the narrowest form is written, any form is read. A text is the number of its
bytes in UTF-8 and then those bytes. A list is the number of its members and then the members. Main
statement: `readVarint_writeVarint`, a written number reads back. -/

namespace NetActivation.Codec

/-! ## Numbers of variable width -/

/-- The largest number that is its own byte. -/
def singleByteMax : Nat := 250

/-- The bytes of a number that eight bytes can hold. -/
def writeVarint (n : Nat) : Bytes :=
  if n ≤ singleByteMax then littleEndian 1 n
  else if n < capacity 2 then 251 :: littleEndian 2 n
  else if n < capacity 4 then 252 :: littleEndian 4 n
  else 253 :: littleEndian 8 n

/-- Reads a number held by at most `widest` bytes behind its marker. -/
def readVarint (widest : Nat) : Bytes → Option (Nat × Bytes)
  | [] => none
  | b :: rest =>
    if b.toNat ≤ singleByteMax then some (b.toNat, rest)
    else
      -- Any other marker is one for sixteen bytes, which is wider than all that is read here.
      let width := if b = 251 then 2 else if b = 252 then 4 else if b = 253 then 8 else 16
      if width ≤ widest then readLittleEndian width rest else none

theorem readLittleEndian_append (count n : Nat) (h : n < capacity count) (rest : Bytes) :
    readLittleEndian count (littleEndian count n ++ rest) = some (n, rest) := by
  have := takeBytes_append (littleEndian count n) rest
  rw [littleEndian_length] at this
  simp [readLittleEndian, this, ofLittleEndian_littleEndian count n h]

theorem readVarint_writeVarint (n : Nat) (h : n < capacity 8) (rest : Bytes) :
    readVarint 8 (writeVarint n ++ rest) = some (n, rest) := by
  unfold writeVarint
  split
  · next h₁ =>
    have : n % 256 = n := by simp only [singleByteMax] at h₁; omega
    simp [littleEndian, readVarint, this, h₁]
  · split
    · next h₂ => simpa [readVarint, singleByteMax] using readLittleEndian_append 2 n h₂ rest
    · split
      · next h₃ => simpa [readVarint, singleByteMax] using readLittleEndian_append 4 n h₃ rest
      · simpa [readVarint, singleByteMax] using readLittleEndian_append 8 n h rest

/-! ## Texts and lists -/

/-- How many bytes behind its marker a length may take. -/
def lengthBytes : Nat := 8

/-- The bytes of a text in UTF-8. -/
def utf8 (s : String) : Bytes := s.toByteArray.data.toList

/-- The text that bytes in UTF-8 stand for. -/
def ofUtf8? (bs : Bytes) : Option String := String.fromUTF8? ⟨bs.toArray⟩

def writeText (s : String) : Bytes := writeVarint (utf8 s).length ++ utf8 s

/-- Reads a text. The memory for it is supposed to be there, as much as its length declares;
    `askText` reads it where that is not sure. -/
def readText (bs : Bytes) : Option (String × Bytes) := do
  let (length, bs) ← readVarint lengthBytes bs
  let (bytes, rest) ← takeBytes length bs
  return (← ofUtf8? bytes, rest)

def writeList {α : Type} (write : α → Bytes) (l : List α) : Bytes :=
  writeVarint l.length ++ l.flatMap write

/-- Reads a number of members. -/
def readMany {α : Type} (read : Bytes → Option (α × Bytes)) : Nat → Bytes → Option (List α × Bytes)
  | 0, bs => some ([], bs)
  | count + 1, bs => do
    let (a, bs) ← read bs
    let (l, rest) ← readMany read count bs
    return (a :: l, rest)

def readList {α : Type} (read : Bytes → Option (α × Bytes)) (bs : Bytes) :
    Option (List α × Bytes) := do
  let (length, bs) ← readVarint lengthBytes bs
  readMany read length bs

end NetActivation.Codec
