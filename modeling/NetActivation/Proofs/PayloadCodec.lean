import NetActivation.Store.Payload

set_option autoImplicit false

/-! # Written payloads read back

A written form is followed by whatever else stands in the file, so a reader has to find the end of
what it reads by itself. `RoundTrips` says that it does; the lengths inside a written form fit the
eight bytes that there are for them because the whole form is no longer than that. Each format of
the payload round-trips if the formats of its parts do, up to `roundTrips_record`, and
`read_write_payload` is the result for a whole payload. -/

namespace NetActivation.Codec

/-- What is written reads back from the front of any bytes, unless it is so long that lengths in it
    could not be written. -/
def RoundTrips {α : Type} (write : α → Bytes) (read : Bytes → Option (α × Bytes)) : Prop :=
  ∀ a, (write a).length < capacity lengthBytes → ∀ rest, read (write a ++ rest) = some (a, rest)

/-! ## Numbers -/

theorem writeVarint_ne_nil (n : Nat) : writeVarint n ≠ [] := by
  rw [writeVarint]
  split
  · simp [littleEndian]
  · split
    · simp
    · split <;> simp

theorem capacity_four_lt : capacity 4 < capacity lengthBytes := by decide

/-- A number that is its own byte reads back whatever width is allowed. -/
theorem readVarint_writeVarint_small {widest n : Nat} (h : n ≤ singleByteMax) (rest : Bytes) :
    readVarint widest (writeVarint n ++ rest) = some (n, rest) := by
  have hn : n % 256 = n := by
    simp only [singleByteMax] at h
    omega
  rw [writeVarint, if_pos h]
  simp [littleEndian, readVarint, hn, h]

/-! ## Texts -/

theorem ofUtf8?_utf8 (s : String) : ofUtf8? (utf8 s) = some s := by
  have h : s.toByteArray.IsValidUTF8 := s.isValidUTF8
  simp [ofUtf8?, utf8, String.fromUTF8?, h, String.fromUTF8]

theorem roundTrips_text : RoundTrips writeText readText := by
  intro s hs rest
  have hlength : (utf8 s).length < capacity lengthBytes := by
    simp only [writeText, List.length_append] at hs
    omega
  rw [writeText, List.append_assoc, readText, lengthBytes, readVarint_writeVarint _ hlength]
  simp [takeBytes_append, ofUtf8?_utf8]

/-! ## Lists -/

section Lists

variable {α : Type} {write : α → Bytes} {read : Bytes → Option (α × Bytes)}

theorem readMany_flatMap (h : RoundTrips write read) {l : List α}
    (hl : (l.flatMap write).length < capacity lengthBytes) (rest : Bytes) :
    readMany read l.length (l.flatMap write ++ rest) = some (l, rest) := by
  induction l with
  | nil => rfl
  | cons a l ih =>
      simp only [List.flatMap_cons, List.length_append] at hl
      -- The reader of a member stops where the next one starts.
      have ha := h a (by omega) (l.flatMap write ++ rest)
      have hrest := ih (by omega)
      simp [readMany, List.append_assoc, ha, hrest]

/-- A list has no more members than bytes, if every member takes some. -/
theorem length_le_flatMap_length (hne : ∀ a, write a ≠ []) (l : List α) :
    l.length ≤ (l.flatMap write).length := by
  induction l with
  | nil => simp
  | cons a l ih =>
      have := List.length_pos_iff.2 (hne a)
      simp only [List.length_cons, List.flatMap_cons, List.length_append]
      omega

theorem roundTrips_list (h : RoundTrips write read) (hne : ∀ a, write a ≠ []) :
    RoundTrips (writeList write) (readList read) := by
  intro l hl rest
  simp only [writeList, List.length_append] at hl
  -- The members together take at least as many bytes as there are members, so that the bound on
  -- the bytes is one on their number too.
  have hcount := length_le_flatMap_length hne l
  have hlength : l.length < capacity lengthBytes := by omega
  rw [writeList, List.append_assoc, readList, lengthBytes, readVarint_writeVarint _ hlength]
  simp [readMany_flatMap h (show (l.flatMap write).length < capacity lengthBytes by omega)]

end Lists

end NetActivation.Codec

namespace NetActivation.Payload

open NetActivation.Codec

/-! ## Records -/

/-- The number of a choice leads back to it. -/
theorem readChoice_idxOf {α : Type} [BEq α] [LawfulBEq α] {choices : List α} {a : α}
    (ha : a ∈ choices) (hfew : choices.length ≤ singleByteMax) (rest : Bytes) :
    readChoice choices (writeVarint (choices.idxOf a) ++ rest) = some (a, rest) := by
  have hidx : choices.idxOf a < choices.length := List.idxOf_lt_length_of_mem ha
  rw [readChoice, readVarint_writeVarint_small (by omega)]
  simp [hidx]

theorem readChoice_writeKind (k : EntityKind) (rest : Bytes) :
    readChoice kinds (writeKind k ++ rest) = some (k, rest) :=
  readChoice_idxOf (by cases k <;> decide) (by decide) rest

theorem readChoice_writeMode (m : Mode) (rest : Bytes) :
    readChoice modes (writeMode m ++ rest) = some (m, rest) :=
  readChoice_idxOf (by cases m <;> decide) (by decide) rest

theorem writeText_ne_nil (s : String) : writeText s ≠ [] := by
  simp [writeText, writeVarint_ne_nil]

theorem writeRecord_ne_nil (r : Record) : writeRecord r ≠ [] := by
  simp [writeRecord, writeText_ne_nil]

theorem roundTrips_record : RoundTrips writeRecord readRecord := by
  intro r hr rest
  simp only [writeRecord, List.length_append] at hr
  have hname := roundTrips_text r.name (by omega)
  have hconditions := roundTrips_list roundTrips_text writeText_ne_nil r.conditions (by omega)
  simp only [writeRecord, List.append_assoc, readRecord, readChoice_writeKind,
    readChoice_writeMode, hname, hconditions, Option.bind_eq_bind, Option.bind_some]
  rfl

/-! ## Payloads -/

/-- A payload whose count can be written reads back. -/
theorem read_write_payload {p : Payload} (hcount : p.count < capacity lengthBytes)
    (hp : p.write.length < capacity lengthBytes) (rest : Bytes) :
    read (p.write ++ rest) = some (p, rest) := by
  simp only [write, List.length_append] at hp
  have hrecords := roundTrips_list roundTrips_record writeRecord_ne_nil p.records (by omega)
  rw [write, List.append_assoc, read, lengthBytes, readVarint_writeVarint _ hcount]
  simp [hrecords]

end NetActivation.Payload
