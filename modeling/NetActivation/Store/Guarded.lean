import NetActivation.Store.Basic

set_option autoImplicit false

/-! # Guarded reading

A part of a file that is not there is read as empty or short, a difference below zero as zero, a sum
as a number of any size, and the memory that a text takes is supposed to be there. Here is the
reading of a store file once more, in a form that fails at a part or a difference that is not there,
at a sum that no machine word holds, and where memory is refused.

The memory for a text is asked for before its bytes are looked at, and as much of it as the length
in front of them declares, whether or not there are as many bytes. For lists nothing is asked for:
their members are read one by one, and room is made for them as they come. -/

namespace NetActivation

namespace Codec

/-! ## Asking for memory -/

/-- A reading that may need memory: it comes to its end, with a result or without one, or it asks
    for a number of bytes and goes on once it has them. -/
inductive Asking (α : Type) where
  | done (found : Option α)
  | ask (count : Nat) (next : Asking α)

namespace Asking

variable {α β : Type}

def andThen (f : α → Asking β) : Asking α → Asking β
  | done none => done none
  | done (some a) => f a
  | ask count next => ask count (next.andThen f)

instance : Monad Asking where
  pure a := done (some a)
  bind x f := x.andThen f

instance : MonadLift Option Asking := ⟨done⟩

/-- What a reading finds if no memory is refused to it. -/
def result : Asking α → Option α
  | done found => found
  | ask _ next => next.result

/-- How many bytes a reading asks for, in order, as long as none are refused to it. -/
def asked : Asking α → List Nat
  | done _ => []
  | ask count next => count :: next.asked

/-- What a reading finds on a machine that grants memory for some numbers of bytes. It comes to no
    end if memory is refused to it: the program ends there. -/
def run? (grants : Nat → Bool) : Asking α → Option (Option α)
  | done found => some found
  | ask count next => if grants count then next.run? grants else none

@[simp] theorem result_pure (a : α) : (pure a : Asking α).result = some a := rfl

@[simp] theorem asked_pure (a : α) : (pure a : Asking α).asked = [] := rfl

@[simp] theorem result_lift (found : Option α) : (liftM found : Asking α).result = found := rfl

@[simp] theorem asked_lift (found : Option α) : (liftM found : Asking α).asked = [] := rfl

@[simp] theorem result_ask (count : Nat) (next : Asking α) :
    (ask count next).result = next.result :=
  rfl

@[simp] theorem asked_ask (count : Nat) (next : Asking α) :
    (ask count next).asked = count :: next.asked :=
  rfl

@[simp] theorem result_bind (x : Asking α) (f : α → Asking β) :
    (x >>= f).result = x.result.bind fun a => (f a).result := by
  show (x.andThen f).result = _
  induction x with
  | done found => cases found <;> rfl
  | ask count next ih => exact ih

@[simp] theorem asked_bind (x : Asking α) (f : α → Asking β) :
    (x >>= f).asked = x.asked ++ x.result.elim [] fun a => (f a).asked := by
  show (x.andThen f).asked = _
  induction x with
  | done found => cases found <;> rfl
  | ask count next ih => exact congrArg (count :: ·) ih

end Asking

/-- Asks for the memory that a text of the declared length takes, and reads the text. -/
def askText (bs : Bytes) : Asking (String × Bytes) := do
  let (length, bs) ← readVarint lengthBytes bs
  Asking.ask length (pure ())
  let (bytes, rest) ← takeBytes length bs
  return (← ofUtf8? bytes, rest)

def askMany {α : Type} (ask : Bytes → Asking (α × Bytes)) : Nat → Bytes → Asking (List α × Bytes)
  | 0, bs => pure ([], bs)
  | count + 1, bs => do
    let (a, bs) ← ask bs
    let (l, rest) ← askMany ask count bs
    return (a :: l, rest)

def askList {α : Type} (ask : Bytes → Asking (α × Bytes)) (bs : Bytes) :
    Asking (List α × Bytes) := do
  let (length, bs) ← readVarint lengthBytes bs
  askMany ask length bs

end Codec

namespace Payload

open NetActivation.Codec

def askRecord (bs : Bytes) : Asking (Record × Bytes) := do
  let (kind, bs) ← readChoice kinds bs
  let (name, bs) ← askText bs
  let (mode, bs) ← readChoice modes bs
  let (conditions, rest) ← askList askText bs
  return (⟨kind, name, mode, conditions⟩, rest)

/-- Reads a payload, and asks for the memory of its texts. -/
def ask (bs : Bytes) : Asking (Payload × Bytes) := do
  let (count, bs) ← readVarint lengthBytes bs
  let (records, rest) ← askList askRecord bs
  return (⟨count, records⟩, rest)

end Payload

namespace StoreFile

open NetActivation.Codec

/-! ## Parts, sums and differences -/

/-- How many bytes a machine word has. -/
def wordBytes : Nat := 8

/-- The bytes from a place up to another, if there are as many. -/
def part? (bytes : Bytes) (start stop : Nat) : Option Bytes :=
  if start ≤ stop ∧ stop ≤ bytes.length then some (slice bytes start (stop - start)) else none

def sum? (m n : Nat) : Option Nat := if m + n < capacity wordBytes then some (m + n) else none

def difference? (m n : Nat) : Option Nat := if n ≤ m then some (m - n) else none

/-! ## Files -/

/-- The payload of a file, if the header vouches for it. All of the header is read before its
    version is looked at. -/
def payloadOf? (file : Bytes) : Option (Except StoreError Bytes) := do
  if file.length < headerSize then return .error (.lengthMismatch headerSize file.length)
  let sort ← part? file 0 4
  if sort ≠ magic then return .error .badMagic
  let version := ofLittleEndian (← part? file 4 6)
  let length := ofLittleEndian (← part? file 12 16)
  let hash ← part? file 16 32
  if version ≠ formatVersion then
    return .error (.incompatibleVersion version formatVersion)
  let stop ← sum? headerSize length
  if file.length < stop then
    return .error (.lengthMismatch length (← difference? file.length headerSize))
  let payload ← part? file headerSize stop
  let computed ← part? (Digest.blake3 payload) 0 16
  if computed ≠ hash then return .error .checksumMismatch
  return .ok payload

/-- The entries that a file holds, on a machine that grants memory for some numbers of bytes. -/
def decode? (grants : Nat → Bool) (file : Bytes) : Option (Except StoreError (List Entry)) := do
  match ← payloadOf? file with
  | .error e => return .error e
  | .ok payload =>
    match ← (Payload.ask payload).run? grants with
    | none => return .error .malformed
    | some (p, _) => return Entry.ofPayload p

/-- How many bytes the reading of a file asks for, in order, as long as none are refused to it. -/
def asked (file : Bytes) : List Nat :=
  match payloadOf file with
  | .error _ => []
  | .ok payload => (Payload.ask payload).asked

/-- How many bytes the address of a byte has at most. -/
def addressBytes : Nat := 7

/-- Whether a program can have memory for a number of bytes at all: each of them has an address. -/
def addressable (count : Nat) : Bool := count < capacity addressBytes

end StoreFile

/-- Opens the store at a path, on a machine that grants memory for some numbers of bytes. -/
def Store.openAt? {σ : Type} [FileSystem σ] (grants : Nat → Bool) (disk : σ) (path : String) :
    Option (Except StoreError Store) :=
  match FileSystem.read disk path with
  | .ok file => (StoreFile.decode? grants file).map (·.map fun entries => ⟨path, entries⟩)
  | .error .notFound => some (.ok ⟨path, []⟩)
  | .error e => some (.error (.file e))

end NetActivation
