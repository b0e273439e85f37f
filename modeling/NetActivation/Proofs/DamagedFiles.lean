import NetActivation.Proofs.GuardedReading

set_option autoImplicit false

/-! # Damaged store files

What a reader makes of a store file that is not as it was written. One that was cut is refused for
its length (`decode_take_encode`), and the bytes that do not matter may be any
(`decode_overwritten`). Everything else stands or falls with the hash: a file that still has the
hash of a written one is either read as the same entries or holds another payload with this hash
(`eq_or_collision_of_decode`). `damage_detected` puts this together with what guarded reading comes
to, which is a result as long as no memory is refused. There are files for which no machine has the
memory (`overstated_name_ends_reading`). -/

namespace NetActivation

namespace StoreFile

open NetActivation.Codec

variable {file : Bytes} {es : List Entry}

/-! ## Files that were cut -/

/-- A cut behind a part leaves the part as it is. -/
theorem slice_take {start count cut : Nat} (h : start + count ≤ cut) :
    slice (file.take cut) start count = slice file start count := by
  rw [slice, slice, List.drop_take, List.take_take, Nat.min_eq_left (by omega)]

theorem header_length (payload : Bytes) : (header payload).length = headerSize := by
  have hmagic : magic.length = 4 := by decide
  simp only [header, List.length_append, littleEndian_length, checksum_length, hmagic, headerSize]

theorem encode_length (es : List Entry) :
    (encode es).length = headerSize + (payloadBytes es).length := by
  rw [encode, List.length_append, header_length]

/-- What the header of a written file says. -/
theorem header_encode (h : Fits es) :
    slice (encode es) 0 4 = magic ∧ ofLittleEndian (slice (encode es) 4 2) = formatVersion ∧
      ofLittleEndian (slice (encode es) 12 4) = (payloadBytes es).length := by
  obtain ⟨-, hmagic, hversion, hlong, hpayload, -⟩ := payloadOf_eq_ok_iff.1 (payloadOf_encode h)
  refine ⟨hmagic, hversion, ?_⟩
  rw [← slice_length hlong, hpayload]

/-- A written file that was cut is refused for its length, by the header if that was cut and by the
    payload if not. -/
theorem decode_take_encode (h : Fits es) {cut : Nat} (hcut : cut < (encode es).length) :
    decode ((encode es).take cut) = .error
      (if cut < headerSize then .lengthMismatch headerSize cut
        else .lengthMismatch (payloadBytes es).length (cut - headerSize)) := by
  have hlength : ((encode es).take cut).length = cut := List.length_take_of_le (Nat.le_of_lt hcut)
  rw [encode_length] at hcut
  obtain ⟨hmagic, hversion, hcount⟩ := header_encode h
  rw [decode, payloadOf, hlength]
  by_cases hheader : cut < headerSize
  · rw [if_pos hheader, if_pos hheader]
    rfl
  · -- The fields of the header are all there, so that the first check to fail is that of the
    -- payload's length.
    have hkept : ∀ start count, start + count ≤ headerSize →
        slice ((encode es).take cut) start count = slice (encode es) start count :=
      fun start count hle => slice_take (Nat.le_trans hle (Nat.le_of_not_lt hheader))
    rw [if_neg hheader, if_neg hheader, hkept 0 4 (by decide), hkept 4 2 (by decide),
      hkept 12 4 (by decide), if_neg (by simpa using hmagic)]
    simp only [hversion, hcount]
    rw [if_neg (by simp), if_pos hcut]
    rfl

/-! ## Files that were changed -/

/-- The bytes that a reader does not look at may be any. -/
theorem decode_overwritten (hes : Entry.WellFormed es) (hfits : Fits es) {free : Bytes}
    (hfree : free.length = 6) (rest : Bytes) :
    decode ((encode es).take 6 ++ free ++ (encode es).drop 12 ++ rest) = .ok es := by
  have hparts : encode es = (magic ++ littleEndian 2 formatVersion) ++
      ((littleEndian 2 writerVersion ++ littleEndian 4 0) ++
        (littleEndian 4 (payloadBytes es).length ++ (checksum (payloadBytes es) ++
          payloadBytes es))) := by
    simp only [encode, header, List.append_assoc]
  have hmagic : magic.length = 4 := by decide
  have hfront : (encode es).take 6 = magic ++ littleEndian 2 formatVersion := by
    rw [hparts]
    exact List.take_left' (by simp [hmagic])
  have hback : (encode es).drop 12 = littleEndian 4 (payloadBytes es).length ++
      (checksum (payloadBytes es) ++ payloadBytes es) := by
    rw [hparts, ← List.append_assoc]
    exact List.drop_left' (by simp [hmagic])
  have hpayload := payloadOf_assembled hfree hfits rest
  rw [← decode_encode hes hfits, decode, decode, payloadOf_encode hfits, hfront, hback]
  simp only [List.append_assoc] at hpayload ⊢
  rw [hpayload]

/-- The payload that the header of a file declares. -/
def declaredPayload (file : Bytes) : Bytes :=
  slice file headerSize (ofLittleEndian (slice file 12 4))

/-- A file with the hash of a written one holds the same entries, or a payload that differs and has
    the same hash. -/
theorem eq_or_collision_of_decode (hes : Entry.WellFormed es) (hfits : Fits es)
    (hhash : slice file 16 16 = slice (encode es) 16 16) {read : List Entry}
    (hread : decode file = .ok read) :
    read = es ∨ (declaredPayload file ≠ payloadBytes es ∧
      checksum (declaredPayload file) = checksum (payloadBytes es)) := by
  obtain ⟨payload, hpayload⟩ : ∃ payload, payloadOf file = .ok payload := by
    cases hpayload : payloadOf file with
    | error e => simp [decode, hpayload, bind, Except.bind] at hread
    | ok payload => exact ⟨payload, rfl⟩
  obtain ⟨-, -, -, -, hdeclared, hsum⟩ := payloadOf_eq_ok_iff.1 hpayload
  obtain ⟨-, -, -, -, -, hsum'⟩ := payloadOf_eq_ok_iff.1 (payloadOf_encode hfits)
  rw [declaredPayload, hdeclared]
  by_cases hsame : payload = payloadBytes es
  · left
    rw [decode, hpayload, hsame, ← payloadOf_encode hfits, ← decode, decode_encode hes hfits]
      at hread
    exact (Except.ok.inj hread).symm
  · right
    exact ⟨hsame, by rw [hsum, hhash, hsum']⟩

/-- **Damage to a store file is detected.** A file that was written from fit entries and cut at any
    byte is refused for its length. With any other writer version and flags, and any bytes behind
    it, it is read as the same entries. Any file at all with the same hash is refused, or read as
    the same entries, or declares another payload for which the hash is the same by coincidence.

    On any bytes at all, no part of the header and the payload is missing when it is taken, and what
    the header does not vouch for is refused. The guarded reader then comes to a result, which is
    that of the plain one, exactly if no memory is refused to it, and of a file that is read it does
    not ask for more than there are bytes. -/
theorem damage_detected (grants : Nat → Bool) :
    (∀ es : List Entry, Entry.WellFormed es → Fits es →
      (∀ cut < (encode es).length, decode ((encode es).take cut) = .error
        (if cut < headerSize then .lengthMismatch headerSize cut
          else .lengthMismatch (payloadBytes es).length (cut - headerSize))) ∧
      (∀ free rest : Bytes, free.length = 6 →
        decode ((encode es).take 6 ++ free ++ (encode es).drop 12 ++ rest) = .ok es) ∧
      ∀ (file : Bytes) (read : List Entry), slice file 16 16 = slice (encode es) 16 16 →
        decode file = .ok read →
        read = es ∨ (declaredPayload file ≠ payloadBytes es ∧
          checksum (declaredPayload file) = checksum (payloadBytes es))) ∧
    ∀ file : Bytes,
      payloadOf? file = some (payloadOf file) ∧
      (∀ e, payloadOf file = .error e → decode? grants file = some (.error e)) ∧
      ((∀ n ∈ asked file, grants n = true) → decode? grants file = some (decode file)) ∧
      ((∃ n ∈ asked file, grants n = false) → decode? grants file = none) ∧
      ∀ read : List Entry, decode file = .ok read → ∀ n ∈ asked file, n ≤ file.length := by
  constructor
  · intro es hes hfits
    refine ⟨fun cut => decode_take_encode hfits, ?_, ?_⟩
    · intro free rest hfree
      exact decode_overwritten hes hfits hfree rest
    · intro file read hhash hread
      exact eq_or_collision_of_decode hes hfits hhash hread
  · intro file
    exact ⟨payloadOf?_eq_some file, fun e => decode?_of_error, decode?_of_granted,
      decode?_of_refused, fun read => asked_le_of_decode⟩

/-- Two entities of one name and different kinds. -/
def namesakes : List Entry :=
  [⟨.location, "café", ⟨.any, [⟨.essid, .contains, "guest #1"⟩]⟩⟩, ⟨.ncu, "café", ⟨.system, []⟩⟩]

theorem damage_detected_namesakes :
    Entry.WellFormed namesakes ∧ Fits namesakes ∧
      decode ((encode namesakes).take 31) = .error (.lengthMismatch 32 31) ∧
      decode ((encode namesakes).take 40) = .error (.lengthMismatch 46 8) ∧
      decode ((encode namesakes).take 6 ++ [255, 255, 1, 2, 3, 4] ++ (encode namesakes).drop 12 ++
        [0]) = .ok namesakes ∧
      slice (encode namesakes ++ [7]) 16 16 = slice (encode namesakes) 16 16 ∧
      decode (encode namesakes ++ [7]) = .ok namesakes ∧
      (namesakes = namesakes ∨
        (declaredPayload (encode namesakes ++ [7]) ≠ payloadBytes namesakes ∧
          checksum (declaredPayload (encode namesakes ++ [7])) =
            checksum (payloadBytes namesakes))) ∧
      asked (encode namesakes ++ [7]) = [5, 25, 5] ∧
      (∀ n ∈ asked (encode namesakes ++ [7]), n ≤ (encode namesakes ++ [7]).length) ∧
      decode? addressable (encode namesakes ++ [7]) = some (.ok namesakes) ∧
      decode? (fun n => decide (n < 25)) (encode namesakes ++ [7]) = none := by
  have hes : Entry.WellFormed namesakes :=
    ⟨by decide, by simp [namesakes, ConditionSet.Valid, Condition.isBlank, Mode.isConditional]⟩
  have hfits : Fits namesakes := by decide +kernel
  have hsize : (payloadBytes namesakes).length = 46 := by decide +kernel
  have hlength : (encode namesakes).length = 78 := by rw [encode_length, hsize]; rfl
  obtain ⟨hwritten, hany⟩ := damage_detected addressable
  obtain ⟨hcut, hfree, hsame⟩ := hwritten namesakes hes hfits
  obtain ⟨-, -, hgranted, -, hfew⟩ := hany (encode namesakes ++ [7])
  obtain ⟨-, -, -, hrefused, -⟩ :=
    (damage_detected fun n => decide (n < 25)).2 (encode namesakes ++ [7])
  have hcut31 := hcut 31 (by rw [hlength]; decide)
  have hcut40 := hcut 40 (by rw [hlength]; decide)
  rw [hsize] at hcut31 hcut40
  have hhash : slice (encode namesakes ++ [7]) 16 16 = slice (encode namesakes) 16 16 := by
    rw [← slice_take (show 16 + 16 ≤ 78 by decide), List.take_left' hlength]
  have hread : decode (encode namesakes ++ [7]) = .ok namesakes := by
    have hkept := hfree (((encode namesakes).drop 6).take 6) [7] (by simp [hlength])
    rwa [← List.take_add, List.take_append_drop] at hkept
  have hasked : asked (encode namesakes ++ [7]) = [5, 25, 5] := by decide +kernel
  have hguarded := hgranted (by rw [hasked]; decide)
  rw [hread] at hguarded
  exact ⟨hes, hfits, hcut31, hcut40, hfree _ _ rfl, hhash, hread, hsame _ _ hhash hread, hasked,
    hfew _ hread, hguarded, hrefused ⟨25, by rw [hasked]; decide, by decide⟩⟩

/-! ## A file that asks for too much -/

/-- A payload with one record, of an interface whose name is said to take a number of bytes. None of
    them follow. -/
def overstatedPayload (count : Nat) : Bytes := [1, 1, 0] ++ 253 :: littleEndian 8 count

/-- The file with that payload, for which its header vouches. -/
def overstatedFile (count : Nat) : Bytes :=
  header (overstatedPayload count) ++ overstatedPayload count

section Overstated

variable {count : Nat}

theorem overstatedPayload_length (count : Nat) : (overstatedPayload count).length = 12 := by
  simp [overstatedPayload]

theorem payloadOf_overstatedFile (count : Nat) :
    payloadOf (overstatedFile count) = .ok (overstatedPayload count) :=
  payloadOf_header (by rw [overstatedPayload_length]; decide)

/-- The reader gets as far as to the name, asks for the memory of that, and finds no bytes. -/
theorem ask_overstatedPayload (hpos : 0 < count) (h : count < capacity 8) :
    (Payload.ask (overstatedPayload count)).asked = [count] ∧
      (Payload.ask (overstatedPayload count)).result = none := by
  have hone (bs : Bytes) : readVarint lengthBytes (1 :: bs) = some (1, bs) := rfl
  have hkind (bs : Bytes) : Payload.readChoice Payload.kinds (0 :: bs) = some (.ncu, bs) := rfl
  have hname : readVarint lengthBytes (253 :: littleEndian 8 count) = some (count, []) := by
    simpa [readVarint, lengthBytes, singleByteMax] using readLittleEndian_append 8 count h []
  have hbytes : takeBytes count [] = none := if_neg (Nat.not_le_of_lt hpos)
  simp [overstatedPayload, Payload.ask, askList, askMany, Payload.askRecord, askText, hone, hkind,
    hname, hbytes]

theorem asked_overstatedFile (hpos : 0 < count) (h : count < capacity 8) :
    asked (overstatedFile count) = [count] := by
  rw [asked, payloadOf_overstatedFile]
  exact (ask_overstatedPayload hpos h).1

theorem decode_overstatedFile (hpos : 0 < count) (h : count < capacity 8) :
    decode (overstatedFile count) = .error .malformed := by
  have hread := (ask_overstatedPayload hpos h).2
  rw [Payload.result_ask] at hread
  rw [decode, payloadOf_overstatedFile]
  simp only [bind, Except.bind]
  rw [hread]

end Overstated

/-- A file of 44 bytes that no program can read to its end: it declares a name for which there is
    never the memory. So there is not a result for all bytes, though the plain reader has one. -/
theorem overstated_name_ends_reading :
    (overstatedFile 0x4000000000000000).length = 44 ∧
      asked (overstatedFile 0x4000000000000000) = [0x4000000000000000] ∧
      decode (overstatedFile 0x4000000000000000) = .error .malformed ∧
      decode? addressable (overstatedFile 0x4000000000000000) = none ∧
      ¬∀ file : Bytes, ∃ outcome, decode? addressable file = some outcome := by
  have hpos : 0 < 0x4000000000000000 := by decide
  have hcount : 0x4000000000000000 < capacity 8 := by decide
  have hasked := asked_overstatedFile hpos hcount
  have hends : decode? addressable (overstatedFile 0x4000000000000000) = none :=
    decode?_of_refused ⟨0x4000000000000000, by rw [hasked]; simp, by decide⟩
  have hlength : (overstatedFile 0x4000000000000000).length = 44 := by
    rw [overstatedFile, List.length_append, header_length, overstatedPayload_length]
    rfl
  refine ⟨hlength, hasked, decode_overstatedFile hpos hcount, hends, ?_⟩
  intro hall
  obtain ⟨outcome, houtcome⟩ := hall (overstatedFile 0x4000000000000000)
  rw [hends] at houtcome
  cases houtcome

end StoreFile

end NetActivation
