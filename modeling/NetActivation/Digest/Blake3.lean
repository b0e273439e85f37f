import NetActivation.Codec.Bytes

set_option autoImplicit false

/-! # BLAKE3

The hash function BLAKE3 without a key. A byte string is cut into chunks of 1024 bytes and these
into blocks of 64. The blocks of a chunk are compressed one after the other, and the chunks are
joined in pairs to a tree; the root gives the hash. -/

namespace NetActivation.Digest

open NetActivation.Codec (Bytes littleEndian ofLittleEndian)

/-! ## Compression -/

/-- Sixteen words of 32 bits: a block, or the state of a compression. -/
abbrev Words : Type := Vector UInt32 16

/-- Eight words of 32 bits: what one compression hands to the next. -/
abbrev Chain : Type := Vector UInt32 8

/-- The chain that everything starts from. -/
def initialChain : Chain := #v[0x6A09E667, 0xBB67AE85, 0x3C6EF372, 0xA54FF53A,
  0x510E527F, 0x9B05688C, 0x1F83D9AB, 0x5BE0CD19]

/-- Rotates a word to the right. -/
def rotateRight (x n : UInt32) : UInt32 := (x >>> n) ||| (x <<< (32 - n))

/-- Mixes two words of a block into four words of the state. -/
def mix (v : Words) (a b c d : Fin 16) (x y : UInt32) : Words :=
  let va := v[a] + v[b] + x
  let vd := rotateRight (v[d] ^^^ va) 16
  let vc := v[c] + vd
  let vb := rotateRight (v[b] ^^^ vc) 12
  let va := va + vb + y
  let vd := rotateRight (vd ^^^ va) 8
  let vc := vc + vd
  let vb := rotateRight (vb ^^^ vc) 7
  (((v.set a va).set b vb).set c vc).set d vd

/-- Mixes a block into the state, columns first and then diagonals. -/
def mixAll (v m : Words) : Words :=
  let v := mix v 0 4 8 12 m[0] m[1]
  let v := mix v 1 5 9 13 m[2] m[3]
  let v := mix v 2 6 10 14 m[4] m[5]
  let v := mix v 3 7 11 15 m[6] m[7]
  let v := mix v 0 5 10 15 m[8] m[9]
  let v := mix v 1 6 11 12 m[10] m[11]
  let v := mix v 2 7 8 13 m[12] m[13]
  mix v 3 4 9 14 m[14] m[15]

/-- A block with its words in the order of the next round. -/
def permute (m : Words) : Words := #v[m[2], m[6], m[3], m[10], m[7], m[0], m[4], m[13],
  m[1], m[11], m[12], m[5], m[9], m[14], m[15], m[8]]

/-- A number of rounds. -/
def rounds : Nat → Words → Words → Words
  | 0, v, _ => v
  | n + 1, v, m => rounds n (mixAll v m) (permute m)

/-- What marks a compression: the first or the last block of a chunk, a joint of the tree, or the
    root. -/
structure Flags where
  chunkStart : Bool := false
  chunkEnd : Bool := false
  parent : Bool := false
  root : Bool := false
  deriving DecidableEq, Repr

/-- Flags as a word. -/
def Flags.word (f : Flags) : UInt32 :=
  (if f.chunkStart then 1 else 0) + (if f.chunkEnd then 2 else 0) + (if f.parent then 4 else 0) +
    (if f.root then 8 else 0)

/-- A compression that is still to be carried out. -/
structure Node where
  chain : Chain
  block : Words
  counter : Nat
  length : Nat
  flags : Flags

/-- How many words of 32 bits there are. -/
def wordCount : Nat := 4294967296

/-- Carries out a compression. -/
def Node.compress (n : Node) : Chain :=
  let h := n.chain
  let i := initialChain
  -- The last words tell where the chunk stands, how long the block is, and what it is for.
  let v : Words := #v[h[0], h[1], h[2], h[3], h[4], h[5], h[6], h[7], i[0], i[1], i[2], i[3],
    UInt32.ofNat n.counter, UInt32.ofNat (n.counter / wordCount), UInt32.ofNat n.length,
    n.flags.word]
  let v := rounds 7 v n.block
  Vector.ofFn fun (k : Fin 8) => v[k.val] ^^^ v[k.val + 8]

/-! ## Chunks -/

/-- Cuts a list into pieces of `n + 1` members; the last may be shorter. -/
def pieces {α : Type} (n : Nat) : List α → List (List α)
  | [] => []
  | a :: l => (a :: l.take n) :: pieces n (l.drop n)
termination_by l => l.length
decreasing_by simp only [List.length_drop, List.length_cons]; omega

/-- The word at a place of a block. Missing bytes are zero. -/
def wordAt (block : Bytes) (i : Nat) : UInt32 :=
  UInt32.ofNat (ofLittleEndian ((block.drop (4 * i)).take 4))

/-- A block as words. -/
def words (block : Bytes) : Words := Vector.ofFn fun (i : Fin 16) => wordAt block i

/-- The last compression of a chunk whose blocks follow on `chain`. -/
def chunkNode (counter : Nat) (chain : Chain) (start : Bool) : List Bytes → Node
  | [] => ⟨chain, words [], counter, 0, { chunkStart := start, chunkEnd := true }⟩
  | [block] =>
    ⟨chain, words block, counter, block.length, { chunkStart := start, chunkEnd := true }⟩
  | block :: blocks =>
    let node : Node := ⟨chain, words block, counter, block.length, { chunkStart := start }⟩
    chunkNode counter node.compress false blocks

/-- The last compressions of all chunks of a byte string. An empty one has one empty chunk. -/
def chunkNodes (bytes : Bytes) : List Node :=
  let chunks := if bytes.isEmpty then [[]] else pieces 1023 bytes
  chunks.zipIdx.map fun (chunk, i) => chunkNode i initialChain true (pieces 63 chunk)

/-! ## The tree -/

/-- The compression that joins two others. -/
def join (left right : Node) : Node :=
  let l := left.compress
  let r := right.compress
  ⟨initialChain, #v[l[0], l[1], l[2], l[3], l[4], l[5], l[6], l[7],
    r[0], r[1], r[2], r[3], r[4], r[5], r[6], r[7]], 0, 64, { parent := true }⟩

/-- Joins neighbours in pairs. A last one without a neighbour stays. -/
def joinPairs : List Node → List Node
  | a :: b :: rest => join a b :: joinPairs rest
  | rest => rest

theorem joinPairs_length_le (l : List Node) : (joinPairs l).length ≤ l.length := by
  fun_induction joinPairs l with
  | case1 a b rest ih => simp only [List.length_cons]; omega
  | case2 rest h => exact Nat.le_refl _

/-- Joins compressions until the root is left. -/
def root : List Node → Option Node
  | [] => none
  | [node] => some node
  | a :: b :: rest => root (join a b :: joinPairs rest)
termination_by l => l.length
decreasing_by
  have := joinPairs_length_le rest
  simp only [List.length_cons]
  omega

/-- The hash of a byte string: 32 bytes. -/
def blake3 (bytes : Bytes) : Bytes :=
  match root (chunkNodes bytes) with
  | none => []
  | some node =>
    let chain := { node with flags := { node.flags with root := true } : Node }.compress
    chain.toList.flatMap fun w => littleEndian 4 w.toNat

end NetActivation.Digest
