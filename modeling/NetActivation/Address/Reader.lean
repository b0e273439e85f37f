import NetActivation.Address.Basic
import NetActivation.Text.Digits
import NetActivation.Text.Fields

set_option autoImplicit false

/-! # Reading addresses

An address of 32 bits is four decimal octets with points between them. One of 128 bits is eight
hexadecimal groups with colons between them; one double colon may stand for groups of zero, and
four octets may stand for the last two groups. Two spellings differ in whether octets may begin
with zeros and whether a double colon may stand for no group at all. -/

namespace NetActivation.Address

/-- What a reader of addresses lets pass. -/
structure Spelling where
  /-- octets may begin with zeros -/
  paddedOctets : Bool
  /-- a double colon may stand for no group -/
  emptyGap : Bool
  deriving DecidableEq, Repr

/-- The spelling of an address that stands alone. -/
def Spelling.alone : Spelling := ⟨false, false⟩

/-- The spelling of the address of a network. -/
def Spelling.ofNetwork : Spelling := ⟨true, true⟩

/-- Reads an octet: one to three digits, below 256. -/
def readOctet (sp : Spelling) (s : List Char) : Option Nat :=
  if s.length ≤ 3 ∧ (sp.paddedOctets = true ∨ s.length ≤ 1 ∨ s.head? ≠ some '0') then
    (Text.number? 10 s).filter (· < octetSize)
  else none

/-- Reads four octets with points between them. -/
def readOctets (sp : Spelling) (s : List Char) : Option (List Nat) :=
  let fields := Text.fields '.' s
  if fields.length = 4 then fields.mapM (readOctet sp) else none

/-- Reads a group: one to four digits. -/
def readGroup (s : List Char) : Option Nat :=
  if s.length ≤ 4 then Text.number? 16 s else none

/-- Reads groups. Where `quad` is set, octets may stand for the last two. -/
def readGroups (sp : Spelling) (quad : Bool) : List (List Char) → Option (List Nat)
  | [] => some []
  | [f] =>
    match readGroup f with
    | some g => some [g]
    | none =>
      if quad then
        (readOctets sp f).map fun os =>
          [joinParts octetSize (os.take 2), joinParts octetSize (os.drop 2)]
      else none
  | f :: fs => do return (← readGroup f) :: (← readGroups sp quad fs)

/-- Reads the groups on one side of a double colon, where there may be none. -/
def readSide (sp : Spelling) (quad : Bool) (s : List Char) : Option (List Nat) :=
  if s.isEmpty then some [] else readGroups sp quad (Text.fields ':' s)

/-- What stands before and behind the first double colon. -/
def splitGap : List Char → Option (List Char × List Char)
  | [] => none
  | ':' :: ':' :: rest => some ([], rest)
  | c :: rest => (splitGap rest).map fun (before, behind) => (c :: before, behind)

/-- Whether a double colon may stand between so many groups. -/
def Spelling.allowsGap (sp : Spelling) (before behind : Nat) : Bool :=
  before < 8 && (before + behind < 8 || (sp.emptyGap && before + behind == 8))

/-- Reads the groups of an address of 128 bits. -/
def readAllGroups (sp : Spelling) (s : List Char) : Option (List Nat) :=
  match splitGap s with
  | none => (readSide sp true s).filter (·.length == 8)
  | some (before, behind) => do
    -- Octets can only stand for the last groups of all, and so only behind the double colon.
    let head ← readSide sp false before
    let tail ← readSide sp true behind
    if sp.allowsGap head.length tail.length then
      return head ++ List.replicate (8 - (head.length + tail.length)) 0 ++ tail
    else none

/-- Reads a whole text as an address. -/
def read? (sp : Spelling) (s : List Char) : Option Address :=
  match readOctets sp s with
  | some os => some (ofOctets os)
  | none => (readAllGroups sp s).map ofGroups

/-- The address that a text stands for. -/
def parse? (s : String) : Option Address := read? .alone s.toList

end NetActivation.Address
