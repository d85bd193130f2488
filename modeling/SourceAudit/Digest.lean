/-! The BLAKE3 hash with a digest of 256 bits. A message is cut into chunks of 1024 bytes, the chunks
are the leaves of a binary tree whose left halves are full, and every node is compressed to eight
words. -/
namespace SourceAudit.Digest

abbrev Words := Vector UInt32 8
abbrev Block := Vector UInt32 16

def iv : Words :=
  #v[0x6A09E667, 0xBB67AE85, 0x3C6EF372, 0xA54FF53A, 0x510E527F, 0x9B05688C, 0x1F83D9AB, 0x5BE0CD19]

/-- How the message words move between two rounds. -/
def permutation : Vector (Fin 16) 16 := #v[2, 6, 3, 10, 7, 0, 4, 13, 1, 11, 12, 5, 9, 14, 15, 8]

def permute (m : Block) : Block := permutation.map m.get

def rotateRight (x : UInt32) (n : UInt32) : UInt32 := (x >>> n) ||| (x <<< (32 - n))

/-- The quarter round on the words `a`, `b`, `c` and `d` of a state. -/
def quarter (s : Block) (a b c d : Fin 16) (x y : UInt32) : Block :=
  let va := s.get a + s.get b + x
  let vd := rotateRight (s.get d ^^^ va) 16
  let vc := s.get c + vd
  let vb := rotateRight (s.get b ^^^ vc) 12
  let va := va + vb + y
  let vd := rotateRight (vd ^^^ va) 8
  let vc := vc + vd
  let vb := rotateRight (vb ^^^ vc) 7
  (((s.set a va).set b vb).set c vc).set d vd

/-- One round: the columns and then the diagonals. -/
def round (s m : Block) : Block :=
  let s := quarter s 0 4 8 12 m[0] m[1]
  let s := quarter s 1 5 9 13 m[2] m[3]
  let s := quarter s 2 6 10 14 m[4] m[5]
  let s := quarter s 3 7 11 15 m[6] m[7]
  let s := quarter s 0 5 10 15 m[8] m[9]
  let s := quarter s 1 6 11 12 m[10] m[11]
  let s := quarter s 2 7 8 13 m[12] m[13]
  quarter s 3 4 9 14 m[14] m[15]

def rounds : Nat → Block → Block → Block
  | 0, s, _ => s
  | n + 1, s, m => rounds n (round s m) (permute m)

/-- What is compressed: the value so far, a block of the message, its place and its marks. -/
structure Node where
  value : Words
  block : Block
  counter : UInt64
  length : UInt32
  marks : UInt32

namespace Node

def chunkStart : UInt32 := 1
def chunkEnd : UInt32 := 2
def parent : UInt32 := 4
def root : UInt32 := 8

/-- The eight words that a node is compressed to, with further `marks`. -/
def compress (n : Node) (marks : UInt32) : Words :=
  let v := n.value
  let start : Block :=
    #v[v[0], v[1], v[2], v[3], v[4], v[5], v[6], v[7], iv[0], iv[1], iv[2], iv[3],
      n.counter.toUInt32, (n.counter >>> 32).toUInt32, n.length, n.marks ||| marks]
  let s := rounds 7 start n.block
  Vector.ofFn fun i : Fin 8 =>
    s.get ⟨i.val, by omega⟩ ^^^ s.get ⟨i.val + 8, by omega⟩

end Node

def byteAt (bytes : ByteArray) (i : Nat) : UInt32 :=
  if h : i < bytes.size then bytes[i].toUInt32 else 0

/-- The sixteen little-endian words from `start` on, with zeros beyond the end. -/
def blockAt (bytes : ByteArray) (start : Nat) : Block :=
  Vector.ofFn fun i : Fin 16 =>
    let at_ := start + 4 * i.val
    byteAt bytes at_ ||| (byteAt bytes (at_ + 1) <<< 8) ||| (byteAt bytes (at_ + 2) <<< 16) |||
      (byteAt bytes (at_ + 3) <<< 24)

/-- The node of a chunk from the offset `start` on; `value` is what the blocks before gave. -/
def chunkFrom (bytes : ByteArray) (counter : UInt64) (value : Words) (start : Nat) : Node :=
  let marks := if start = 0 then Node.chunkStart else 0
  if 64 < bytes.size - start then
    let node : Node := ⟨value, blockAt bytes start, counter, 64, marks⟩
    chunkFrom bytes counter (node.compress 0) (start + 64)
  else
    ⟨value, blockAt bytes start, counter, (bytes.size - start).toUInt32, marks ||| Node.chunkEnd⟩
termination_by bytes.size - start

/-- The bytes below the left half of a tree: a power of two of chunks, as many as leave something for
the right half. -/
def leftSize (size : Nat) : Nat := 1024 * Nat.pow 2 ((size - 1) / 1024).log2

theorem leftSize_lt {size : Nat} (h : 1024 < size) : leftSize size < size := by
  have : Nat.pow 2 ((size - 1) / 1024).log2 ≤ (size - 1) / 1024 := Nat.log2_self_le (by omega)
  simp only [leftSize]
  omega

theorem leftSize_pos (size : Nat) : 0 < leftSize size := by
  have : 0 < Nat.pow 2 ((size - 1) / 1024).log2 := Nat.two_pow_pos _
  simp only [leftSize]
  omega

/-- The tree over a message whose first chunk has the number `counter`. -/
def tree (bytes : ByteArray) (counter : Nat) : Node :=
  if h : 1024 < bytes.size then
    let cut := leftSize bytes.size
    have := leftSize_lt h
    have := leftSize_pos bytes.size
    let left := (tree (bytes.extract 0 cut) counter).compress 0
    let right := (tree (bytes.extract cut bytes.size) (counter + cut / 1024)).compress 0
    ⟨iv, left ++ right, 0, 64, Node.parent⟩
  else chunkFrom bytes counter.toUInt64 iv 0
termination_by bytes.size
decreasing_by
  · simp only [ByteArray.size_extract]; omega
  · simp only [ByteArray.size_extract]; omega

def hexOfByte (b : UInt8) : List Char :=
  [Nat.digitChar (b.toNat / 16), Nat.digitChar (b.toNat % 16)]

def hexOfWord (w : UInt32) : List Char :=
  hexOfByte w.toUInt8 ++ hexOfByte (w >>> 8).toUInt8 ++ hexOfByte (w >>> 16).toUInt8 ++
    hexOfByte (w >>> 24).toUInt8

/-- The digest in hexadecimal. -/
def hex (bytes : ByteArray) : List Char :=
  ((tree bytes 0).compress Node.root).toList.flatMap hexOfWord

end SourceAudit.Digest
