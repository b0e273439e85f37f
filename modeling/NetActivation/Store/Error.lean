import NetActivation.ConditionSet
import NetActivation.Condition.Operators
import NetActivation.Files.FileSystem

set_option autoImplicit false

/-! # What goes wrong with a store -/

namespace NetActivation

/-- Why a store could not be read or written. -/
inductive StoreError where
  /-- the file is of another sort -/
  | badMagic
  /-- the file is of another version than the one that is supported -/
  | incompatibleVersion (file supported : Nat)
  /-- the payload does not have the hash that the header gives -/
  | checksumMismatch
  /-- the file is shorter than it has to be -/
  | lengthMismatch (expected actual : Nat)
  /-- the payload is not well formed -/
  | malformed
  /-- the payload gives a number of records other than it has -/
  | recordCount (claimed actual : Nat)
  /-- two records are of the same kind and name -/
  | duplicate (kind : EntityKind) (name : String)
  /-- a record's texts make no condition set -/
  | badRecord (kind : EntityKind) (name : String) (e : ConditionSet.TextError)
  /-- the file system failed -/
  | file (e : FileError)
  deriving DecidableEq, Repr

/-- A kind and a name, as reports give them. -/
def recordTitle (kind : EntityKind) (name : String) : String := kind.text ++ " '" ++ name ++ "'"

def StoreError.message : StoreError → String
  | .badMagic => "not an nwam-rules store: invalid magic bytes"
  | .incompatibleVersion found supported =>
    "incompatible format version: file is v" ++ found.repr ++ ", reader supports v" ++
      supported.repr
  | .checksumMismatch => "integrity check failed: BLAKE3 checksum mismatch"
  | .lengthMismatch expected actual =>
    "payload length mismatch: expected " ++ expected.repr ++ " bytes, got " ++ actual.repr
  | .malformed => "failed to decode payload"
  | .recordCount claimed actual =>
    "validation failed: metadata says " ++ claimed.repr ++ " records but payload has " ++
      actual.repr
  | .duplicate kind name => "validation failed: duplicate " ++ recordTitle kind name
  | .badRecord kind name e => "validation failed: " ++ recordTitle kind name ++ ": " ++ e.message
  | .file e => "I/O error: " ++ e.message

end NetActivation
