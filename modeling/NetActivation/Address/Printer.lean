import NetActivation.Address.Basic

set_option autoImplicit false

/-! # The text of an address

Octets are written in decimal, groups in hexadecimal without leading zeros. The longest run of two
or more groups of zero, the first of equals, is written as a double colon. An address of 32 bits
mapped into one of 128 keeps its octets. -/

namespace NetActivation.Address

/-- Octets with points between them. -/
def octetsText (octets : List Nat) : List Char :=
  ['.'].intercalate (octets.map (Nat.toDigits 10))

/-- Groups with colons between them. -/
def groupsText (groups : List Nat) : List Char :=
  [':'].intercalate (groups.map (Nat.toDigits 16))

/-- How many zeros a list starts with. -/
def zeroRun (l : List Nat) : Nat := (l.takeWhile (· == 0)).length

/-- The place of the longest run of zeros, the first of equals. -/
def longestRun (l : List Nat) : Nat :=
  (List.range l.length).foldl
    (fun best i => if zeroRun (l.drop best) < zeroRun (l.drop i) then i else best) 0

/-- Groups with their longest run of zeros left out. -/
def shortGroupsText (groups : List Nat) : List Char :=
  let start := longestRun groups
  let run := zeroRun (groups.drop start)
  if 2 ≤ run then
    groupsText (groups.take start) ++ "::".toList ++ groupsText (groups.drop (start + run))
  else groupsText groups

def chars : Address → List Char
  | v4 bits => octetsText (octets bits.toNat)
  | v6 bits =>
    if bits.toNat / v4Count = 0xffff then
      "::ffff:".toList ++ octetsText (octets (bits.toNat % v4Count))
    else shortGroupsText (groups bits.toNat)

def text (a : Address) : String := String.ofList a.chars

end NetActivation.Address
