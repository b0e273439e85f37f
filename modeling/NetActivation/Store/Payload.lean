import NetActivation.Codec.Sequence
import NetActivation.Condition.Operators

set_option autoImplicit false

/-! # The payload of a store file

A payload is a list of records, with their number in front. Kinds and modes are written as the
number of their place in a fixed order. -/

namespace NetActivation

/-- An entity as it is stored, its conditions as texts. -/
structure Record where
  kind : EntityKind
  name : String
  mode : Mode
  conditions : List String
  deriving DecidableEq, Repr

/-- The records of a store file, and how many the file says there are. -/
structure Payload where
  count : Nat
  records : List Record
  deriving DecidableEq, Repr

namespace Payload

open NetActivation.Codec

/-! ## Kinds and modes -/

/-- How many bytes behind its marker the number of a kind or mode may take. -/
def choiceBytes : Nat := 4

/-- Reads the number of one of the given choices. -/
def readChoice {α : Type} (choices : List α) (bs : Bytes) : Option (α × Bytes) := do
  let (index, rest) ← readVarint choiceBytes bs
  return (← choices[index]?, rest)

/-- The kinds by their numbers. -/
def kinds : List EntityKind := [.ncu, .location, .enm]

/-- The modes by their numbers. -/
def modes : List Mode := [.manual, .system, .all, .any]

def writeKind (k : EntityKind) : Bytes := writeVarint (kinds.idxOf k)

def writeMode (m : Mode) : Bytes := writeVarint (modes.idxOf m)

/-! ## Records -/

def writeRecord (r : Record) : Bytes :=
  writeKind r.kind ++ writeText r.name ++ writeMode r.mode ++ writeList writeText r.conditions

def readRecord (bs : Bytes) : Option (Record × Bytes) := do
  let (kind, bs) ← readChoice kinds bs
  let (name, bs) ← readText bs
  let (mode, bs) ← readChoice modes bs
  let (conditions, rest) ← readList readText bs
  return (⟨kind, name, mode, conditions⟩, rest)

def write (p : Payload) : Bytes := writeVarint p.count ++ writeList writeRecord p.records

def read (bs : Bytes) : Option (Payload × Bytes) := do
  let (count, bs) ← readVarint lengthBytes bs
  let (records, rest) ← readList readRecord bs
  return (⟨count, records⟩, rest)

end Payload

end NetActivation
