import EntitySync.Stream.Word
/-!
# BLAKE3

The schema fingerprint is the first eight bytes of the BLAKE3 hash of the schema's layout.
This module holds the hash in its plain form: the input is cut into 1024-byte chunks and each
chunk into 64-byte blocks; the blocks of a chunk are chained through the compression function;
the chunks' chaining values are joined pairwise in a binary tree whose left subtree always holds
the largest power of two of chunks that leaves at least one for the right; and the root node is
compressed once more with the root flag to give the output words.
-/

namespace EntitySync

namespace Blake3

def iv : Array UInt32 :=
  #[0x6A09E667, 0xBB67AE85, 0x3C6EF372, 0xA54FF53A, 0x510E527F, 0x9B05688C, 0x1F83D9AB, 0x5BE0CD19]

/-- The order in which message words move from one round to the next. -/
def permutation : List Nat := [2, 6, 3, 10, 7, 0, 4, 13, 1, 11, 12, 5, 9, 14, 15, 8]

def chunkStart : Nat := 1
def chunkEnd : Nat := 2
def parent : Nat := 4
def root : Nat := 8

/-- Word `i` of a state or message, zero past its end. -/
def word (s : Array UInt32) (i : Nat) : UInt32 := s.getD i 0

/-- Rotation right by `n` bits, `0 < n < 32`. -/
def rotr (w : UInt32) (n : UInt32) : UInt32 := (w >>> n) ||| (w <<< (32 - n))

/-- The quarter-round on words `a b c d` of the state, mixing in `mx` and `my`. -/
def mix (s : Array UInt32) (a b c d : Nat) (mx my : UInt32) : Array UInt32 :=
  let va := word s a + word s b + mx
  let vd := rotr (word s d ^^^ va) 16
  let vc := word s c + vd
  let vb := rotr (word s b ^^^ vc) 12
  let va := va + vb + my
  let vd := rotr (vd ^^^ va) 8
  let vc := vc + vd
  let vb := rotr (vb ^^^ vc) 7
  ((s.setIfInBounds a va).setIfInBounds b vb |>.setIfInBounds c vc).setIfInBounds d vd

/-- One round: the columns, then the diagonals. -/
def roundOnce (s m : Array UInt32) : Array UInt32 :=
  let s := mix s 0 4 8 12 (word m 0) (word m 1)
  let s := mix s 1 5 9 13 (word m 2) (word m 3)
  let s := mix s 2 6 10 14 (word m 4) (word m 5)
  let s := mix s 3 7 11 15 (word m 6) (word m 7)
  let s := mix s 0 5 10 15 (word m 8) (word m 9)
  let s := mix s 1 6 11 12 (word m 10) (word m 11)
  let s := mix s 2 7 8 13 (word m 12) (word m 13)
  mix s 3 4 9 14 (word m 14) (word m 15)

/-- The message words in the order of the next round. -/
def permute (m : Array UInt32) : Array UInt32 := (permutation.map (word m)).toArray

/-- The compression function: seven rounds over the chaining value, the block, the counter,
the block length and the flags, then the feed-forward. Its sixteen words are the output. -/
def compress (cv block : Array UInt32) (counter blockLen flags : Nat) : Array UInt32 :=
  let s0 := cv ++ iv.extract 0 4 ++
    #[UInt32.ofNat counter, UInt32.ofNat (counter / 2 ^ (32 : Nat)), UInt32.ofNat blockLen, UInt32.ofNat flags]
  let (s, _) := (List.range 7).foldl (fun (acc : Array UInt32 × Array UInt32) _ =>
    (roundOnce acc.1 acc.2, permute acc.2)) (s0, block)
  ((List.range 16).map fun i =>
    if i < 8 then word s i ^^^ word s (i + 8) else word s i ^^^ word cv (i - 8)).toArray

/-- The sixteen little-endian words of a block of at most 64 bytes, zero-padded. -/
def blockWords (bs : Bytes) : Array UInt32 :=
  let padded := bs ++ List.replicate (64 - bs.length) 0
  ((List.range 16).map fun i => UInt32.ofNat (ofLE ((padded.drop (4 * i)).take 4))).toArray

/-- Cuts bytes into pieces of `n` bytes, the last one possibly shorter; never an empty piece
unless the input is empty. -/
def piecesOf (n : Nat) (bs : Bytes) : List Bytes :=
  if _h : 0 < n ∧ n < bs.length then bs.take n :: piecesOf n (bs.drop n) else [bs]
termination_by bs.length
decreasing_by simp only [List.length_drop]; omega

/-- A node whose compression is still to be done: its input chaining value, its block words,
its counter, block length and flags. -/
structure Node where
  cv : Array UInt32
  block : Array UInt32
  counter : Nat
  blockLen : Nat
  flags : Nat

def Node.chainingValue (n : Node) : Array UInt32 :=
  (compress n.cv n.block n.counter n.blockLen n.flags).extract 0 8

/-- The output words of a node taken as the root. -/
def Node.rootWords (n : Node) : Array UInt32 :=
  compress n.cv n.block n.counter n.blockLen (n.flags ||| root)

/-- Chains the blocks of chunk number `index`; the node of its last block is left open. -/
def chunkNode (index : Nat) (chunk : Bytes) : Node :=
  let blocks := piecesOf 64 chunk
  let body := blocks.dropLast
  let last := blocks.getLastD []
  let cv := body.zipIdx.foldl (fun cv (b, i) =>
    (compress cv (blockWords b) index 64 (if i = 0 then chunkStart else 0)).extract 0 8) iv
  ⟨cv, blockWords last, index, last.length,
    chunkEnd ||| (if body.isEmpty then chunkStart else 0)⟩

/-- The size of the left subtree over `n` chunks: the largest power of two below `n`. -/
def leftSize (n : Nat) : Nat := go 1 n
where
  go (p fuel : Nat) : Nat :=
    match fuel with
    | 0 => p
    | fuel + 1 => if 2 * p < n then go (2 * p) fuel else p

def treeNode (chunks : List (Bytes × Nat)) : Node :=
  if _h : 0 < leftSize chunks.length ∧ leftSize chunks.length < chunks.length then
    let l := treeNode (chunks.take (leftSize chunks.length))
    let r := treeNode (chunks.drop (leftSize chunks.length))
    ⟨iv, l.chainingValue ++ r.chainingValue, 0, 64, parent⟩
  else match chunks with
    | (c, i) :: _ => chunkNode i c
    | [] => chunkNode 0 []
termination_by chunks.length
decreasing_by
  · simp only [List.length_take]; omega
  · simp only [List.length_drop]; omega

def hashWords (bs : Bytes) : Array UInt32 :=
  (treeNode ((piecesOf 1024 bs).zipIdx)).rootWords

end Blake3

end EntitySync
