import NetActivation.Proofs.StoreFile
import NetActivation.Store.Guarded

set_option autoImplicit false

/-! # What guarded reading comes to

Whatever the bytes of a file are, no part that the reader takes is missing, no difference falls below
zero and no sum is too large for a machine word (`payloadOf?_eq_some`). What may be missing is the
memory for a text, of which the reader asks for as much as the file declares. So the guarded reader
comes to the result of the plain one if it gets all the memory that it asks for
(`decode?_of_granted`), and to no result if any of it is refused (`decode?_of_refused`).

Of a file that is read it never asks for more than there are bytes (`asked_le_of_decode`). `Frugal`
says this of a reader, and each reader is frugal because those of its parts are. So a store that
opens needs no more memory at a time than its file has bytes (`Store.openAt?_of_openAt_eq_ok`). -/

namespace NetActivation

namespace Codec

/-- Bytes stand for a number that they have room for. -/
theorem ofLittleEndian_lt (bs : Bytes) : ofLittleEndian bs < capacity bs.length := by
  induction bs with
  | nil => simp [ofLittleEndian, capacity]
  | cons b bs ih =>
      have hb : b.toNat < 256 := b.toNat_lt
      simp only [ofLittleEndian, capacity, List.length_cons]
      omega

theorem length_of_takeBytes {count : Nat} {bs front rest : Bytes}
    (h : takeBytes count bs = some (front, rest)) :
    count ≤ bs.length ∧ rest.length ≤ bs.length := by
  rw [takeBytes] at h
  split at h
  · next hcount =>
      obtain ⟨-, rfl⟩ := Prod.mk.inj (Option.some.inj h)
      simp [hcount]
  · cases h

theorem length_of_readVarint {widest n : Nat} {bs rest : Bytes}
    (h : readVarint widest bs = some (n, rest)) : rest.length ≤ bs.length := by
  rcases bs with _ | ⟨b, bs⟩
  · cases h
  · simp only [readVarint] at h
    split at h
    · obtain ⟨-, rfl⟩ := Prod.mk.inj (Option.some.inj h)
      simp
    · -- Of a wider number, the marker and the bytes behind it are gone.
      generalize (if b = 251 then 2 else if b = 252 then 4 else if b = 253 then 8 else 16) = width
        at h
      split at h
      · rw [readLittleEndian, Option.map_eq_some_iff] at h
        obtain ⟨⟨front, behind⟩, htake, hpair⟩ := h
        obtain ⟨-, rfl⟩ := Prod.mk.inj hpair
        exact Nat.le_succ_of_le (length_of_takeBytes htake).2
      · cases h

/-! ## Asking for memory -/

/-- A reading that finds something asked for no more memory than it had bytes, and leaves no more of
    them than it had. -/
def Asking.Frugal {α : Type} (bs : Bytes) (x : Asking (α × Bytes)) : Prop :=
  ∀ a rest, x.result = some (a, rest) → (∀ n ∈ x.asked, n ≤ bs.length) ∧ rest.length ≤ bs.length

namespace Asking

section Memory

variable {α : Type} {grants : Nat → Bool} {x : Asking α}

theorem run?_of_granted (h : ∀ n ∈ x.asked, grants n = true) : x.run? grants = some x.result := by
  induction x with
  | done found => rfl
  | ask count next ih =>
      obtain ⟨hcount, hnext⟩ := List.forall_mem_cons.1 h
      rw [run?, if_pos hcount, ih hnext, result]

theorem run?_of_refused (h : ∃ n ∈ x.asked, grants n = false) : x.run? grants = none := by
  induction x with
  | done found => simp [asked] at h
  | ask count next ih =>
      rw [run?]
      split
      · next hcount =>
          -- The refusal comes later.
          obtain ⟨n, hn, hrefused⟩ := h
          rcases List.mem_cons.1 hn with rfl | hn
          · rw [hcount] at hrefused
            cases hrefused
          · exact ih ⟨n, hn, hrefused⟩
      · rfl

end Memory

variable {α β : Type} {bs : Bytes}

theorem frugal_pure (a : α) : Frugal bs (pure (a, bs)) := by
  intro b rest h
  obtain ⟨-, rfl⟩ := Prod.mk.inj (Option.some.inj h)
  simp

/-- Reading a number asks for nothing. -/
theorem frugal_lift {found : Option (α × Bytes)}
    (h : ∀ a rest, found = some (a, rest) → rest.length ≤ bs.length) :
    Frugal bs (liftM found) := by
  intro a rest hfound
  exact ⟨by simp, h a rest hfound⟩

theorem Frugal.bind {x : Asking (α × Bytes)} {f : α × Bytes → Asking (β × Bytes)}
    (hx : Frugal bs x) (hf : ∀ a rest, Frugal rest (f (a, rest))) : Frugal bs (x >>= f) := by
  intro b rest h
  rw [result_bind, Option.bind_eq_some_iff] at h
  obtain ⟨⟨a, middle⟩, hfound, hnext⟩ := h
  obtain ⟨hfirst, hmiddle⟩ := hx a middle hfound
  obtain ⟨hlater, hrest⟩ := hf a middle b rest hnext
  refine ⟨?_, Nat.le_trans hrest hmiddle⟩
  intro n hn
  rw [asked_bind, hfound] at hn
  rcases List.mem_append.1 hn with hn | hn
  · exact hfirst n hn
  · exact Nat.le_trans (hlater n hn) hmiddle

end Asking

/-! ## Texts and lists

A reader that asks finds what the plain one finds, as long as no memory is refused to it. -/

open Asking

theorem frugal_readVarint (widest : Nat) (bs : Bytes) :
    Frugal bs (liftM (readVarint widest bs)) :=
  frugal_lift fun _ _ => length_of_readVarint

theorem result_askText (bs : Bytes) : (askText bs).result = readText bs := by
  simp [askText, readText]

theorem frugal_askText (bs : Bytes) : Frugal bs (askText bs) := by
  unfold askText
  apply (frugal_readVarint lengthBytes bs).bind
  intro length bs s rest h
  -- The text was found, so that there are as many bytes as were asked for.
  simp only [result_bind, result_ask, result_lift, result_pure, Option.bind_some,
    Option.bind_eq_some_iff] at h
  obtain ⟨⟨bytes, behind⟩, htake, text, htext, hpair⟩ := h
  obtain ⟨-, rfl⟩ := Prod.mk.inj (Option.some.inj hpair)
  obtain ⟨hlength, hrest⟩ := length_of_takeBytes htake
  simp [htake, htext, hlength, hrest]

section Lists

variable {α : Type} {ask : Bytes → Asking (α × Bytes)} {read : Bytes → Option (α × Bytes)}

theorem result_askMany (h : ∀ bs, (ask bs).result = read bs) (count : Nat) (bs : Bytes) :
    (askMany ask count bs).result = readMany read count bs := by
  induction count generalizing bs with
  | zero => rfl
  | succ count ih => simp [askMany, readMany, h, ih]

theorem result_askList (h : ∀ bs, (ask bs).result = read bs) (bs : Bytes) :
    (askList ask bs).result = readList read bs := by
  simp [askList, readList, result_askMany h]

theorem frugal_askMany (h : ∀ bs, Frugal bs (ask bs)) (count : Nat) (bs : Bytes) :
    Frugal bs (askMany ask count bs) := by
  induction count generalizing bs with
  | zero => exact frugal_pure []
  | succ count ih =>
      unfold askMany
      exact (h bs).bind fun a bs => (ih bs).bind fun l _ => frugal_pure (a :: l)

theorem frugal_askList (h : ∀ bs, Frugal bs (ask bs)) (bs : Bytes) : Frugal bs (askList ask bs) :=
  (frugal_readVarint lengthBytes bs).bind fun length bs => frugal_askMany h length bs

end Lists

end Codec

namespace Payload

open NetActivation.Codec NetActivation.Codec.Asking

/-! ## Payloads -/

theorem result_askRecord (bs : Bytes) : (askRecord bs).result = readRecord bs := by
  simp [askRecord, readRecord, result_askText, result_askList result_askText]

theorem result_ask (bs : Bytes) : (ask bs).result = read bs := by
  simp [ask, read, result_askList result_askRecord]

theorem frugal_readChoice {α : Type} (choices : List α) (bs : Bytes) :
    Frugal bs (liftM (readChoice choices bs)) := by
  apply frugal_lift
  intro a rest h
  simp only [readChoice, Option.bind_eq_bind, Option.bind_eq_some_iff] at h
  obtain ⟨⟨index, rest'⟩, hindex, a', ha, hpair⟩ := h
  obtain ⟨-, rfl⟩ := Prod.mk.inj (Option.some.inj hpair)
  exact length_of_readVarint hindex

theorem frugal_askRecord (bs : Bytes) : Frugal bs (askRecord bs) :=
  (frugal_readChoice kinds bs).bind fun kind bs =>
    (frugal_askText bs).bind fun name bs =>
      (frugal_readChoice modes bs).bind fun mode bs =>
        (frugal_askList frugal_askText bs).bind fun conditions _ =>
          frugal_pure (Record.mk kind name mode conditions)

theorem frugal_ask (bs : Bytes) : Frugal bs (ask bs) := by
  unfold ask
  apply (frugal_readVarint lengthBytes bs).bind
  intro count bs
  exact (frugal_askList frugal_askRecord bs).bind fun records _ =>
    frugal_pure (Payload.mk count records)

end Payload

namespace StoreFile

open NetActivation.Codec

variable {file : Bytes} {es : List Entry} {grants : Nat → Bool}

/-! ## Parts of a file -/

theorem slice_length {start count : Nat} (h : start + count ≤ file.length) :
    (slice file start count).length = count := by
  simp only [slice, List.length_take, List.length_drop]
  omega

theorem part?_eq_some {start stop : Nat} (hstart : start ≤ stop) (hstop : stop ≤ file.length) :
    part? file start stop = some (slice file start (stop - start)) :=
  if_pos ⟨hstart, hstop⟩

theorem sum?_eq_some {m n : Nat} (h : m + n < capacity wordBytes) : sum? m n = some (m + n) :=
  if_pos h

theorem difference?_eq_some {m n : Nat} (h : n ≤ m) : difference? m n = some (m - n) := if_pos h

/-- The end of the payload that a header declares is a number that a machine word holds. -/
theorem declared_end_lt (h : headerSize ≤ file.length) :
    headerSize + ofLittleEndian (slice file 12 4) < capacity wordBytes := by
  have hlt := ofLittleEndian_lt (slice file 12 4)
  rw [slice_length (Nat.le_trans (by decide) h)] at hlt
  have hsmall : headerSize + capacity 4 < capacity wordBytes := by decide
  omega

theorem part?_checksum (payload : Bytes) :
    part? (Digest.blake3 payload) 0 16 = some (checksum payload) :=
  part?_eq_some (Nat.zero_le 16) (by rw [Digest.blake3_length]; decide)

/-- Reading the payload of a file never fails to find a part, a difference or a sum. -/
theorem payloadOf?_eq_some (file : Bytes) : payloadOf? file = some (payloadOf file) := by
  rw [payloadOf?, payloadOf]
  by_cases hshort : file.length < headerSize
  · simp only [if_pos hshort]
    rfl
  · have hheader : headerSize ≤ file.length := Nat.le_of_not_lt hshort
    have hpart : ∀ start stop, start ≤ stop → stop ≤ headerSize →
        part? file start stop = some (slice file start (stop - start)) :=
      fun start stop h h' => part?_eq_some h (Nat.le_trans h' hheader)
    simp only [if_neg hshort, hpart 0 4 (by decide) (by decide), hpart 4 6 (by decide) (by decide),
      hpart 12 16 (by decide) (by decide), hpart 16 32 (by decide) (by decide),
      Option.bind_eq_bind, Option.bind_some, Nat.reduceSub, sum?_eq_some (declared_end_lt hheader)]
    by_cases hcut : file.length < headerSize + ofLittleEndian (slice file 12 4)
    · simp only [if_pos hcut, difference?_eq_some hheader, Option.bind_some, apply_ite some]
      rfl
    · have hpayload := part?_eq_some (Nat.le_add_right headerSize _) (Nat.le_of_not_lt hcut)
      rw [Nat.add_sub_cancel_left] at hpayload
      simp only [if_neg hcut, hpayload, part?_checksum, Option.bind_some, apply_ite some]
      rfl

/-! ## Entries

The memory that is asked for is all for the texts in the payload. -/

/-- What the header does not vouch for is refused before any memory is asked for. -/
theorem decode?_of_error {e : StoreError} (h : payloadOf file = .error e) :
    decode? grants file = some (.error e) := by
  rw [decode?, payloadOf?_eq_some, h]
  rfl

/-- With all the memory that it asks for, the guarded reader comes to the result of the plain
    one. -/
theorem decode?_of_granted (h : ∀ n ∈ asked file, grants n = true) :
    decode? grants file = some (decode file) := by
  unfold asked at h
  cases hpayload : payloadOf file with
  | error e =>
      rw [decode?_of_error hpayload, decode, hpayload]
      rfl
  | ok payload =>
      simp only [hpayload] at h
      rw [decode?, decode, payloadOf?_eq_some, hpayload]
      simp only [Option.bind_some, Asking.run?_of_granted h, Payload.result_ask, bind, Except.bind]
      cases Payload.read payload with
      | none => rfl
      | some read => rfl

/-- If any of it is refused, it comes to none. -/
theorem decode?_of_refused (h : ∃ n ∈ asked file, grants n = false) :
    decode? grants file = none := by
  unfold asked at h
  cases hpayload : payloadOf file with
  | error e => simp [hpayload] at h
  | ok payload =>
      simp only [hpayload] at h
      rw [decode?, payloadOf?_eq_some, hpayload]
      simp only [Option.bind_eq_bind, Option.bind_some, Asking.run?_of_refused h, Option.bind_none]

/-- A file that is read needs no more memory for a text than it has bytes. -/
theorem asked_le_of_decode (h : decode file = .ok es) : ∀ n ∈ asked file, n ≤ file.length := by
  unfold decode at h
  unfold asked
  cases hpayload : payloadOf file with
  | error e => simp
  | ok payload =>
      obtain ⟨-, -, -, -, hslice, -⟩ := payloadOf_eq_ok_iff.1 hpayload
      have hshorter : payload.length ≤ file.length := by
        rw [← hslice, slice, List.length_take, List.length_drop]
        omega
      simp only [hpayload, bind, Except.bind] at h
      rcases hread : Payload.read payload with _ | ⟨p, rest⟩
      · simp [hread] at h
      · rw [← Payload.result_ask] at hread
        intro n hn
        exact Nat.le_trans ((Payload.frugal_ask payload p rest hread).1 n hn) hshorter

end StoreFile

/-! ## Opening a store -/

namespace Store

variable {σ : Type} [FileSystem σ] {disk : σ} {path : String} {grants : Nat → Bool}

/-- With all the memory that the reading of its file asks for, a store opens as if there always were
    enough. -/
theorem openAt?_of_granted (h : ∀ file, FileSystem.read disk path = .ok file →
    ∀ n ∈ StoreFile.asked file, grants n = true) :
    openAt? grants disk path = some (openAt disk path) := by
  unfold openAt? openAt
  cases hread : FileSystem.read disk path with
  | error e => cases e <;> rfl
  | ok file =>
      show Option.map _ (StoreFile.decode? grants file) = _
      rw [StoreFile.decode?_of_granted (h file hread)]
      rfl

/-- A store that opens does so wherever there is memory for as many bytes as its file has. -/
theorem openAt?_of_openAt_eq_ok {s : Store} (hopen : openAt disk path = .ok s)
    (h : ∀ file, FileSystem.read disk path = .ok file → ∀ n ≤ file.length, grants n = true) :
    openAt? grants disk path = some (.ok s) := by
  rw [openAt?_of_granted, hopen]
  intro file hfile n hn
  apply h file hfile
  rw [openAt, hfile] at hopen
  cases hread : StoreFile.decode file with
  | error e => simp [hread, Except.map] at hopen
  | ok entries => exact StoreFile.asked_le_of_decode hread n hn

end Store

end NetActivation
