import NetActivation.Digest.Blake3
import NetActivation.Store.Entry

set_option autoImplicit false

/-! # The format of a store file

A file is a header of 32 bytes and a payload. The header holds, numbers with their least significant
byte first:

* four bytes that tell the sort of the file,
* the version of the format (2 bytes), which has to be the one supported,
* the version of the writer (2 bytes) and flags (4 bytes), which do not matter to a reader,
* the number of bytes in the payload (4 bytes),
* the first 16 bytes of the payload's hash.

What follows the payload does not matter. -/

namespace NetActivation.StoreFile

open NetActivation.Codec

/-- The first bytes of every store file. -/
def magic : Bytes := utf8 "NWRL"

/-- The supported version of the format. -/
def formatVersion : Nat := 1

/-- The version that a written file gives for its writer. -/
def writerVersion : Nat := 1

/-- The number of bytes in a header. -/
def headerSize : Nat := 32

/-- The part of a payload's hash that a header holds. -/
def checksum (payload : Bytes) : Bytes := (Digest.blake3 payload).take 16

/-- The header of a payload. -/
def header (payload : Bytes) : Bytes :=
  -- The four bytes of flags are all zero, and nobody reads them.
  magic ++ littleEndian 2 formatVersion ++ littleEndian 2 writerVersion ++ littleEndian 4 0 ++
    littleEndian 4 payload.length ++ checksum payload

/-- The payload that holds entries, as bytes. -/
def payloadBytes (es : List Entry) : Bytes := (Entry.toPayload es).write

/-- Whether a header can give the length of the payload that holds entries. -/
def Fits (es : List Entry) : Prop := (payloadBytes es).length < capacity 4

instance (es : List Entry) : Decidable (Fits es) :=
  inferInstanceAs (Decidable (_ < _))

/-- The file that holds entries. -/
def encode (es : List Entry) : Bytes := header (payloadBytes es) ++ payloadBytes es

/-- A part of a file, from a place on. -/
def slice (file : Bytes) (start count : Nat) : Bytes := (file.drop start).take count

/-- The payload of a file, if the header vouches for it. -/
def payloadOf (file : Bytes) : Except StoreError Bytes :=
  if file.length < headerSize then .error (.lengthMismatch headerSize file.length)
  else if slice file 0 4 ≠ magic then .error .badMagic
  else
    let version := ofLittleEndian (slice file 4 2)
    if version ≠ formatVersion then .error (.incompatibleVersion version formatVersion)
    else
      let length := ofLittleEndian (slice file 12 4)
      if file.length < headerSize + length then
        .error (.lengthMismatch length (file.length - headerSize))
      else
        let payload := slice file headerSize length
        if checksum payload ≠ slice file 16 16 then .error .checksumMismatch
        else .ok payload

/-- The entries that a file holds. -/
def decode (file : Bytes) : Except StoreError (List Entry) := do
  let payload ← payloadOf file
  match Payload.read payload with
  | none => .error .malformed
  -- Bytes behind the last record are let pass.
  | some (p, _) => Entry.ofPayload p

end NetActivation.StoreFile
