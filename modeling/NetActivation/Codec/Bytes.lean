set_option autoImplicit false

/-! # Bytes

Numbers of a fixed width as bytes, the least significant first, and pieces of byte strings. A
reader takes what it reads off the front of a byte string and gives the rest back. -/

namespace NetActivation.Codec

abbrev Bytes : Type := List UInt8

/-- The lowest `count` bytes of a number, the least significant first. -/
def littleEndian : Nat → Nat → Bytes
  | 0, _ => []
  | count + 1, n => UInt8.ofNat n :: littleEndian count (n / 256)

/-- The number that bytes stand for, the least significant first. -/
def ofLittleEndian : Bytes → Nat
  | [] => 0
  | b :: bs => b.toNat + 256 * ofLittleEndian bs

/-- How many numbers a number of bytes can hold. -/
def capacity : Nat → Nat
  | 0 => 1
  | count + 1 => 256 * capacity count

/-- Takes a number of bytes off the front, if there are as many. -/
def takeBytes (count : Nat) (bs : Bytes) : Option (Bytes × Bytes) :=
  if count ≤ bs.length then some (bs.take count, bs.drop count) else none

/-- Reads a number of a fixed width. -/
def readLittleEndian (count : Nat) (bs : Bytes) : Option (Nat × Bytes) :=
  (takeBytes count bs).map fun (digits, rest) => (ofLittleEndian digits, rest)

@[simp] theorem littleEndian_length (count n : Nat) : (littleEndian count n).length = count := by
  induction count generalizing n with
  | zero => rfl
  | succ count ih => simp [littleEndian, ih]

/-- Bytes of a number that fits them stand for it. -/
theorem ofLittleEndian_littleEndian (count n : Nat) (h : n < capacity count) :
    ofLittleEndian (littleEndian count n) = n := by
  induction count generalizing n with
  | zero =>
    simp only [capacity] at h
    simp only [littleEndian, ofLittleEndian]
    omega
  | succ count ih =>
    simp only [capacity] at h
    have : n / 256 < capacity count := by omega
    simp only [littleEndian, ofLittleEndian, ih _ this, UInt8.toNat_ofNat']
    omega

theorem takeBytes_append (front rest : Bytes) :
    takeBytes front.length (front ++ rest) = some (front, rest) := by
  simp [takeBytes]

end NetActivation.Codec
