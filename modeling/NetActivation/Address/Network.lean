import NetActivation.Address.Printer
import NetActivation.Address.Reader

set_option autoImplicit false

/-! # Networks

A network is the block of addresses that share the first bits of one of them. It reaches from the
address in which all other bits are zero to the one in which they are one. Which addresses share
their first bits is also said bit by bit, without arithmetic (`Address.AgreeOn`). -/

namespace NetActivation

/-- A block of addresses: one of them, and how many of its first bits they share. -/
structure Network where
  address : Address
  bits : Nat
  bits_le : bits ≤ address.width
  deriving DecidableEq, Repr

namespace Network

/-- The network that holds one address alone. -/
def single (a : Address) : Network := ⟨a, a.width, Nat.le_refl _⟩

/-- How many addresses a network has. -/
def size (n : Network) : Nat := 1 <<< (n.address.width - n.bits)

/-- The lowest address of a network, as a number. -/
def first (n : Network) : Nat := n.address.value / n.size * n.size

/-- The highest address of a network, as a number. -/
def last (n : Network) : Nat := n.first + (n.size - 1)

/-- Whether a network holds an address, which has to be of its family. -/
def contains (n : Network) (a : Address) : Bool :=
  n.address.width == a.width && decide (n.first ≤ a.value) && decide (a.value ≤ n.last)

/-- How many digits the number of shared bits may have. -/
def maxDigits (a : Address) : Nat :=
  match a with
  | .v4 _ => 2
  | .v6 _ => 3

/-- Reads an address, a slash and the number of shared bits. -/
def readSlash? (s : List Char) : Option Network :=
  match Text.fields '/' s with
  | [left, right] => do
    let a ← Address.read? .ofNetwork left
    if right.length ≤ maxDigits a then
      let bits ← Text.number? 10 right
      if h : bits ≤ a.width then return ⟨a, bits, h⟩ else none
    else none
  | _ => none

/-- Without a slash there is no number of shared bits. -/
theorem readSlash?_of_slash_not_mem {s : List Char} (h : '/' ∉ s) : readSlash? s = none := by
  rw [readSlash?, Text.fields_of_not_mem h]

/-- Reads a network, or an address as the network that holds it alone. -/
def read? (s : List Char) : Option Network :=
  match readSlash? s with
  | some n => some n
  | none => (Address.read? .alone s).map single

/-- The text that stands for a network: its address, a slash and the number of shared bits. -/
def text (n : Network) : String := n.address.text ++ "/" ++ n.bits.repr

end Network

/-! ## First bits -/

namespace Address

/-- A bit of an address, the most significant first. -/
def bit : Address → Nat → Bool
  | v4 bits, i => bits.getMsbD i
  | v6 bits, i => bits.getMsbD i

/-- Whether two addresses are of one family and share their first bits. -/
def AgreeOn (count : Nat) (a x : Address) : Prop :=
  a.width = x.width ∧ ∀ i < count, a.bit i = x.bit i

instance (count : Nat) (a x : Address) : Decidable (AgreeOn count a x) :=
  inferInstanceAs (Decidable (_ ∧ ∀ i < count, _))

/-- Whether one of two addresses is of 32 bits and the other stands for one of 32 bits. -/
def IsCrossed (a x : Address) : Prop :=
  ∃ b c, (a = v4 b ∧ x = mapped c) ∨ (a = mapped b ∧ x = v4 c)

end Address

end NetActivation
