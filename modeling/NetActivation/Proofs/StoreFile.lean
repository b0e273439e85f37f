import NetActivation.Proofs.ConditionSetText
import NetActivation.Proofs.PayloadCodec
import NetActivation.Store.File

set_option autoImplicit false

/-! # Store files read back

Three layers make a file: a header that vouches for a payload, the payload's records as bytes, and
each record's conditions as texts. A reader accepts more than a writer produces on each of them: any
writer version and flags and any bytes behind the payload, wider numbers than needed, and texts with
other white space, quotes and escapes. So there are two directions. What is written from fit entries
is read as these entries (`decode_encode`), and whatever is read makes fit entries
(`wellFormed_of_decode`). `decode_encode_round_trip` puts them together. -/

namespace NetActivation

/-! ## The hash -/

namespace Digest

/-- A tree with a leaf has a root. -/
theorem exists_root {l : List Node} (h : l ≠ []) : ∃ node, root l = some node := by
  fun_induction root l with
  | case1 => exact absurd rfl h
  | case2 node => exact ⟨node, rfl⟩
  | case3 a b rest ih => exact ih (by simp)

theorem chunkNodes_ne_nil (bytes : Codec.Bytes) : chunkNodes bytes ≠ [] := by
  cases bytes with
  | nil => simp [chunkNodes]
  | cons b bs => simp [chunkNodes, pieces]

theorem flatMap_littleEndian_length (ws : List UInt32) :
    (ws.flatMap fun w => Codec.littleEndian 4 w.toNat).length = 4 * ws.length := by
  induction ws with
  | nil => rfl
  | cons w ws ih =>
      simp only [List.flatMap_cons, List.length_append, List.length_cons,
        Codec.littleEndian_length, ih]
      omega

theorem blake3_length (bytes : Codec.Bytes) : (blake3 bytes).length = 32 := by
  obtain ⟨node, hnode⟩ := exists_root (chunkNodes_ne_nil bytes)
  rw [blake3, hnode]
  exact flatMap_littleEndian_length _

end Digest

/-! ## Entries and records -/

namespace Entry

theorem ofRecord_toRecord {e : Entry} (h : e.set.Valid) : ofRecord e.toRecord = .ok e := by
  simp only [ofRecord, toRecord, ConditionSet.ofTexts_texts h]

theorem ofRecord_eq_ok {r : Record} {e : Entry} (h : ofRecord r = .ok e) :
    e.key = (r.kind, r.name) ∧ e.set.Valid := by
  rw [ofRecord] at h
  split at h
  · next set hset =>
      simp only [Except.ok.injEq] at h
      subst h
      exact ⟨rfl, ConditionSet.valid_of_ofTexts hset⟩
  · exact absurd h (by simp)

/-- The records of fit entries stand for these entries, if none of them has a key among `seen`. -/
theorem ofRecords_map_toRecord {seen : List (EntityKind × String)} {es : List Entry}
    (h : WellFormed es) (hseen : ∀ e ∈ es, e.key ∉ seen) :
    ofRecords seen (es.map toRecord) = .ok es := by
  induction es generalizing seen with
  | nil => rfl
  | cons e es ih =>
      obtain ⟨hkeys, hsets⟩ := h
      rw [List.map_cons, List.nodup_cons] at hkeys
      have hrest : ofRecords (e.key :: seen) (es.map toRecord) = .ok es := by
        apply ih ⟨hkeys.2, fun d hd => hsets d (by simp [hd])⟩
        intro d hd
        rw [List.mem_cons, not_or]
        constructor
        · intro hkey
          exact hkeys.1 (List.mem_map.2 ⟨d, hd, hkey⟩)
        · exact hseen d (by simp [hd])
      have hnew : e.key ∉ seen := hseen e (by simp)
      rw [List.map_cons, ofRecords, if_neg (by exact hnew), ofRecord_toRecord (hsets e (by simp))]
      change (do let es ← ofRecords (e.key :: seen) (es.map toRecord); return e :: es) = _
      rw [hrest]
      rfl

/-- Whatever records stand for is fit, and holds no key among `seen`. -/
theorem wellFormed_of_ofRecords {seen : List (EntityKind × String)} {rs : List Record}
    {es : List Entry} (h : ofRecords seen rs = .ok es) :
    WellFormed es ∧ ∀ e ∈ es, e.key ∉ seen := by
  induction rs generalizing seen es with
  | nil =>
      simp only [ofRecords, Except.ok.injEq] at h
      subst h
      simp [WellFormed]
  | cons r rs ih =>
      rw [ofRecords] at h
      split at h
      · exact absurd h (by simp)
      · next hnew =>
          cases he : ofRecord r with
          | error error => simp [he, bind, Except.bind] at h
          | ok e =>
              cases hes : ofRecords ((r.kind, r.name) :: seen) rs with
              | error error => simp [he, hes, bind, Except.bind] at h
              | ok rest =>
                  simp only [he, hes, bind, Except.bind, pure, Except.pure, Except.ok.injEq] at h
                  subst h
                  obtain ⟨hkey, hset⟩ := ofRecord_eq_ok he
                  obtain ⟨⟨hkeys, hsets⟩, hseen⟩ := ih hes
                  -- The rest was read with the key of the record among `seen`.
                  have hother : e.key ∉ rest.map key := by
                    intro hmem
                    obtain ⟨d, hd, hdkey⟩ := List.mem_map.1 hmem
                    exact hseen d hd (by simp [hdkey, hkey])
                  refine ⟨⟨?_, ?_⟩, ?_⟩
                  · rw [List.map_cons, List.nodup_cons]
                    exact ⟨hother, hkeys⟩
                  · simpa using ⟨hset, hsets⟩
                  · intro d hd
                    rcases List.mem_cons.1 hd with rfl | hd
                    · rw [hkey]
                      exact hnew
                    · exact fun hmem => hseen d hd (List.mem_cons_of_mem _ hmem)

theorem ofPayload_toPayload {es : List Entry} (h : WellFormed es) :
    ofPayload (toPayload es) = .ok es := by
  rw [ofPayload, toPayload, if_pos (by simp)]
  exact ofRecords_map_toRecord h (by simp)

theorem wellFormed_of_ofPayload {p : Payload} {es : List Entry} (h : ofPayload p = .ok es) :
    WellFormed es := by
  rw [ofPayload] at h
  split at h
  · exact (wellFormed_of_ofRecords h).1
  · exact absurd h (by simp)

/-- Fit entries are those with different keys whose sets are what `build` makes of them. -/
theorem wellFormed_iff_build {es : List Entry} :
    WellFormed es ↔ (es.map key).Nodup ∧
      ∀ e ∈ es, ConditionSet.build e.set.mode e.set.conditions = .ok e.set := by
  simp only [WellFormed, ConditionSet.build_self_iff]

end Entry

namespace StoreFile

open NetActivation.Codec

@[simp] theorem checksum_length (payload : Bytes) : (checksum payload).length = 16 := by
  simp [checksum, Digest.blake3_length]

/-! ## The header -/

/-- The part of a file between two others. -/
theorem slice_append {front part rest : Bytes} {start count : Nat} (hstart : front.length = start)
    (hcount : part.length = count) : slice (front ++ (part ++ rest)) start count = part := by
  subst hstart hcount
  simp [slice]

/-- Everything that a header has to vouch for. -/
theorem payloadOf_eq_ok_iff {file payload : Bytes} :
    payloadOf file = .ok payload ↔
      headerSize ≤ file.length ∧ slice file 0 4 = magic ∧
      ofLittleEndian (slice file 4 2) = formatVersion ∧
      headerSize + ofLittleEndian (slice file 12 4) ≤ file.length ∧
      slice file headerSize (ofLittleEndian (slice file 12 4)) = payload ∧
      checksum payload = slice file 16 16 := by
  simp only [payloadOf]
  split
  · next h =>
      simp only [reduceCtorEq, false_iff, not_and]
      omega
  · next hlong =>
      split
      · next h => simp [h]
      · next hmagic =>
          split
          · next h => simp [h]
          · next hversion =>
              split
              · next h =>
                  simp only [reduceCtorEq, false_iff, not_and]
                  omega
              · next hbody =>
                  have hlong' : headerSize ≤ file.length := by omega
                  have hbody' := Nat.le_of_not_lt hbody
                  simp only [ne_eq, Decidable.not_not] at hmagic hversion
                  split
                  · next h =>
                      simp only [reduceCtorEq, false_iff, not_and]
                      rintro - - - - rfl
                      exact h
                  · next h =>
                      simp only [ne_eq, Decidable.not_not] at h
                      simp only [Except.ok.injEq, hlong', hmagic, hversion, hbody', true_and]
                      constructor
                      · rintro rfl
                        exact ⟨rfl, h⟩
                      · exact fun hp => hp.1

/-- A header with any writer version and flags vouches for the payload behind it, whatever follows
    that. -/
theorem payloadOf_assembled {free payload : Bytes} (hfree : free.length = 6)
    (hpayload : payload.length < capacity 4) (rest : Bytes) :
    payloadOf (magic ++ (littleEndian 2 formatVersion ++ (free ++
      (littleEndian 4 payload.length ++ (checksum payload ++ (payload ++ rest)))))) =
      .ok payload := by
  generalize hfile : magic ++ (littleEndian 2 formatVersion ++ (free ++
    (littleEndian 4 payload.length ++ (checksum payload ++ (payload ++ rest))))) = file
  have hmagic : magic.length = 4 := by decide
  have hlength : file.length = headerSize + payload.length + rest.length := by
    simp only [← hfile, List.length_append, hmagic, hfree, littleEndian_length, checksum_length,
      headerSize]
    omega
  -- Each field of the header is the part behind the fields in front of it.
  have hstart : slice file 0 4 = magic := by
    rw [← hfile]
    exact slice_append (List.length_nil : ([] : Bytes).length = 0) hmagic
  have hversion : slice file 4 2 = littleEndian 2 formatVersion := by
    rw [← hfile]
    exact slice_append hmagic (littleEndian_length 2 _)
  have hcount : slice file 12 4 = littleEndian 4 payload.length := by
    rw [← hfile, ← List.append_assoc, ← List.append_assoc]
    exact slice_append (by simp [hmagic, hfree]) (littleEndian_length 4 _)
  have hhash : slice file 16 16 = checksum payload := by
    rw [← hfile, ← List.append_assoc, ← List.append_assoc, ← List.append_assoc]
    exact slice_append (by simp [hmagic, hfree]) (checksum_length payload)
  have hbody : slice file headerSize payload.length = payload := by
    rw [← hfile, ← List.append_assoc, ← List.append_assoc, ← List.append_assoc,
      ← List.append_assoc]
    exact slice_append (by simp [hmagic, hfree, headerSize]) rfl
  have hcount' : ofLittleEndian (slice file 12 4) = payload.length := by
    rw [hcount, ofLittleEndian_littleEndian 4 _ hpayload]
  rw [payloadOf_eq_ok_iff, hcount']
  refine ⟨by omega, hstart, ?_, by omega, hbody, hhash.symm⟩
  rw [hversion, ofLittleEndian_littleEndian 2 _ (by decide)]

theorem payloadOf_header {payload : Bytes} (h : payload.length < capacity 4) :
    payloadOf (header payload ++ payload) = .ok payload := by
  have hfree : (littleEndian 2 writerVersion ++ littleEndian 4 0).length = 6 := by decide
  rw [← payloadOf_assembled hfree h []]
  simp [header]

/-! ## Files -/

theorem payloadOf_encode {es : List Entry} (h : Fits es) :
    payloadOf (encode es) = .ok (payloadBytes es) :=
  payloadOf_header h

/-- A payload that fits its header has few enough records for their number to be written. -/
theorem read_payloadBytes {es : List Entry} (h : Fits es) :
    Payload.read (payloadBytes es) = some (Entry.toPayload es, []) := by
  have hsize : (Entry.toPayload es).write.length < capacity lengthBytes :=
    Nat.lt_trans h capacity_four_lt
  have hcount : (Entry.toPayload es).count < capacity lengthBytes := by
    have := length_le_flatMap_length Payload.writeRecord_ne_nil (es.map Entry.toRecord)
    simp only [Entry.toPayload, Payload.write, writeList, List.length_append,
      List.length_map] at this hsize ⊢
    omega
  simpa [payloadBytes] using Payload.read_write_payload hcount hsize []

/-- What is written from fit entries is read as these entries. -/
theorem decode_encode {es : List Entry} (hes : Entry.WellFormed es) (hfits : Fits es) :
    decode (encode es) = .ok es := by
  rw [decode, payloadOf_encode hfits]
  simp only [bind, Except.bind, read_payloadBytes hfits]
  exact Entry.ofPayload_toPayload hes

/-- Whatever is read from a file is fit to be stored. -/
theorem wellFormed_of_decode {file : Bytes} {es : List Entry} (h : decode file = .ok es) :
    Entry.WellFormed es := by
  rw [decode] at h
  cases hpayload : payloadOf file with
  | error e => simp [hpayload, bind, Except.bind] at h
  | ok payload =>
      simp only [hpayload, bind, Except.bind] at h
      split at h
      · exact absurd h (by simp)
      · exact Entry.wellFormed_of_ofPayload h

/-- **The format of store files loses nothing and lets nothing unfit in.** Fit entries, whose keys
    differ and whose sets `build` accepts, are read from the file that is written for them, in
    order. Whatever is read from any bytes at all is fit, so writing it and reading it again gives
    it once more. The one limit is the number of payload bytes that a header can give. -/
theorem decode_encode_round_trip (es : List Entry) :
    (Entry.WellFormed es ↔ (es.map Entry.key).Nodup ∧
      ∀ e ∈ es, ConditionSet.build e.set.mode e.set.conditions = .ok e.set) ∧
    (Entry.WellFormed es → Fits es → decode (encode es) = .ok es) ∧
    ∀ file, decode file = .ok es →
      Entry.WellFormed es ∧ (Fits es → decode (encode es) = .ok es) := by
  refine ⟨Entry.wellFormed_iff_build, decode_encode, ?_⟩
  intro file h
  have hes := wellFormed_of_decode h
  exact ⟨hes, decode_encode hes⟩

/-- Two entries of one name, the value of the first with a number sign and a quote. -/
def looseEntries : List Entry :=
  [⟨.location, "Zürich 🏠", ⟨.any, [⟨.essid, .contains, "a#\"b"⟩]⟩⟩,
    ⟨.ncu, "Zürich 🏠", ⟨.manual, []⟩⟩]

/-- A payload that holds these entries, but not as they are written: a wide number, other white
    space in a condition, and a byte too many. -/
def loosePayload : Bytes :=
  [251, 2, 0] ++ Codec.writeList Payload.writeRecord
    [⟨.location, "Zürich 🏠", .any, ["\u00a0essid\tcontains  \"a#\\\"b\""]⟩,
      ⟨.ncu, "Zürich 🏠", .manual, []⟩] ++ [7]

theorem decode_encode_round_trip_loose :
    Entry.WellFormed looseEntries ∧ Fits looseEntries ∧
    decode (header loosePayload ++ loosePayload) = .ok looseEntries ∧
    decode (encode looseEntries) = .ok looseEntries := by
  have hfits : Fits looseEntries := by decide +kernel
  have hpayload : payloadOf (header loosePayload ++ loosePayload) = .ok loosePayload :=
    payloadOf_header (by decide +kernel)
  have hread : decode (header loosePayload ++ loosePayload) = .ok looseEntries := by
    rw [decode, hpayload]
    rfl
  have h := decode_encode_round_trip looseEntries
  exact ⟨(h.2.2 _ hread).1, hfits, hread, h.2.1 (h.2.2 _ hread).1 hfits⟩

end StoreFile

end NetActivation
