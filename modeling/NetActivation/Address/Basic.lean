set_option autoImplicit false

/-! # Network addresses

An address is a number of 32 or of 128 bits. It is written in parts of equal size: four octets, or
eight groups of sixteen bits. -/

namespace NetActivation

/-- An address of one of the two families. -/
inductive Address where
  | v4 (bits : BitVec 32)
  | v6 (bits : BitVec 128)
  deriving DecidableEq, Repr

namespace Address

/-- How many bits an address has. Addresses of one width are of one family. -/
def width : Address → Nat
  | v4 _ => 32
  | v6 _ => 128

/-- An address as a number. -/
def value : Address → Nat
  | v4 bits => bits.toNat
  | v6 bits => bits.toNat

/-- The number that parts below `size` stand for, the most significant first. -/
def joinParts (size : Nat) (parts : List Nat) : Nat := parts.foldl (fun n p => n * size + p) 0

/-- The lowest `count` parts of a number, the most significant first. -/
def parts (size : Nat) : Nat → Nat → List Nat
  | 0, _ => []
  | count + 1, n => parts size count (n / size) ++ [n % size]

def octetSize : Nat := 256

def groupSize : Nat := 65536

/-- How many numbers there are of 32 bits. -/
def v4Count : Nat := 4294967296

/-- The address with the given octets. -/
def ofOctets (octets : List Nat) : Address := v4 (BitVec.ofNat 32 (joinParts octetSize octets))

/-- The address with the given groups. -/
def ofGroups (groups : List Nat) : Address := v6 (BitVec.ofNat 128 (joinParts groupSize groups))

/-- The octets of a number of 32 bits. -/
def octets (n : Nat) : List Nat := parts octetSize 4 n

/-- The groups of a number of 128 bits. -/
def groups (n : Nat) : List Nat := parts groupSize 8 n

/-- The address of 128 bits that stands for one of 32: sixteen ones in front of them, and zeros in
    front of those. -/
def mapped (bits : BitVec 32) : Address :=
  v6 (BitVec.ofNat 128 (0xffff * v4Count + bits.toNat))

/-! ## Parts -/

@[simp] theorem length_parts (size count n : Nat) : (parts size count n).length = count := by
  induction count generalizing n with
  | zero => rfl
  | succ count ih => rw [parts, List.length_append, ih, List.length_singleton]

theorem lt_of_mem_parts {size count n p : Nat} (hsize : 0 < size) (h : p ∈ parts size count n) :
    p < size := by
  induction count generalizing n with
  | zero => cases h
  | succ count ih =>
      rcases List.mem_append.1 h with h | h
      · exact ih h
      · rw [List.mem_singleton.1 h]
        exact Nat.mod_lt n hsize

theorem joinParts_concat (size p : Nat) (l : List Nat) :
    joinParts size (l ++ [p]) = joinParts size l * size + p := by
  rw [joinParts, List.foldl_append]
  rfl

/-- A number that has no more parts is the one that its parts stand for. -/
theorem joinParts_parts {size count n : Nat} (hn : n < Nat.pow size count) :
    joinParts size (parts size count n) = n := by
  induction count generalizing n with
  | zero => exact (Nat.lt_one_iff.1 hn).symm
  | succ count ih =>
      have hquotient : n / size < Nat.pow size count := by
        refine Nat.div_lt_of_lt_mul ?_
        rw [Nat.mul_comm]
        exact hn
      rw [parts, joinParts_concat, ih hquotient, Nat.div_add_mod']

theorem joinParts_octets {n : Nat} (hn : n < v4Count) : joinParts octetSize (octets n) = n :=
  joinParts_parts hn

theorem ofOctets_octets (bits : BitVec 32) : ofOctets (octets bits.toNat) = v4 bits := by
  rw [ofOctets, joinParts_octets bits.isLt, BitVec.ofNat_toNat, BitVec.setWidth_eq]

theorem ofGroups_groups (bits : BitVec 128) : ofGroups (groups bits.toNat) = v6 bits := by
  have hbits : bits.toNat < Nat.pow groupSize 8 := bits.isLt
  rw [ofGroups, groups, joinParts_parts hbits, BitVec.ofNat_toNat, BitVec.setWidth_eq]

theorem toNat_mapped (bits : BitVec 32) :
    (BitVec.ofNat 128 (0xffff * v4Count + bits.toNat)).toNat = 0xffff * v4Count + bits.toNat := by
  have hbits : bits.toNat < v4Count := bits.isLt
  rw [BitVec.toNat_ofNat, Nat.mod_eq_of_lt]
  unfold v4Count at hbits ⊢
  omega

/-- The addresses that stand for one of 32 bits are known by the bits in front of it. -/
theorem exists_mapped {bits : BitVec 128} (h : bits.toNat / v4Count = 0xffff) :
    ∃ low, v6 bits = mapped low := by
  refine ⟨BitVec.ofNat 32 (bits.toNat % v4Count), ?_⟩
  rw [mapped, v6.injEq]
  apply BitVec.eq_of_toNat_eq
  rw [toNat_mapped, BitVec.toNat_ofNat]
  unfold v4Count at h ⊢
  omega

end Address

end NetActivation
