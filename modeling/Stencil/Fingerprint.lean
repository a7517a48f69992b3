import Stencil.Power
import Stencil.Text.Hex

/-! Fingerprints: the 256-bit BLAKE3 hash of a text.

The input is cut into chunks of 1024 bytes, each chunk into blocks of 64 bytes. The blocks of a chunk
are compressed one after the other; the chunks are the leaves of a binary tree whose left subtrees
are full and as large as possible, and a parent compresses the values of its two children.

* `Fingerprint.compress`: the compression function, seven rounds over sixteen words.
* `Fingerprint.subtree`: the last compression of the tree over a list of bytes, not yet carried out.
* `fingerprint`: the hash of a text's bytes, as `blake3:` and sixty-four hexadecimal digits. -/

namespace Stencil
set_option autoImplicit false

namespace Fingerprint

/-! ## Constants -/

/-- The initial chaining value. -/
def initial : Vector UInt32 8 :=
  #v[0x6a09e667, 0xbb67ae85, 0x3c6ef372, 0xa54ff53a, 0x510e527f, 0x9b05688c, 0x1f83d9ab, 0x5be0cd19]

/-- The order in which a round takes the words that the round before it took in order. -/
def permutation : Vector (Fin 16) 16 := #v[2, 6, 3, 10, 7, 0, 4, 13, 1, 11, 12, 5, 9, 14, 15, 8]

def chunkStart : UInt32 := 1
def chunkEnd : UInt32 := 2
def parent : UInt32 := 4
def root : UInt32 := 8

/-! ## Compression -/

def rotateRight (word : UInt32) (count : UInt32) : UInt32 :=
  (word >>> count) ||| (word <<< (32 - count))

/-- Mixes two message words into four words of the state. -/
def mix (state : Vector UInt32 16) (a b c d : Fin 16) (x y : UInt32) : Vector UInt32 16 :=
  let a1 := state[a] + state[b] + x
  let d1 := rotateRight (state[d] ^^^ a1) 16
  let c1 := state[c] + d1
  let b1 := rotateRight (state[b] ^^^ c1) 12
  let a2 := a1 + b1 + y
  let d2 := rotateRight (d1 ^^^ a2) 8
  let c2 := c1 + d2
  let b2 := rotateRight (b1 ^^^ c2) 7
  (((state.set a a2).set b b2).set c c2).set d d2

/-- One round: the columns of the state, then its diagonals. -/
def round (state message : Vector UInt32 16) : Vector UInt32 16 :=
  let s := mix state 0 4 8 12 message[0] message[1]
  let s := mix s 1 5 9 13 message[2] message[3]
  let s := mix s 2 6 10 14 message[4] message[5]
  let s := mix s 3 7 11 15 message[6] message[7]
  let s := mix s 0 5 10 15 message[8] message[9]
  let s := mix s 1 6 11 12 message[10] message[11]
  let s := mix s 2 7 8 13 message[12] message[13]
  mix s 3 4 9 14 message[14] message[15]

/-- The message words in the order of the next round. -/
def permute (message : Vector UInt32 16) : Vector UInt32 16 :=
  Vector.ofFn fun i => message[permutation[i]]

/-- The given number of rounds. -/
def rounds : Nat → Vector UInt32 16 → Vector UInt32 16 → Vector UInt32 16
  | 0, state, _ => state
  | n + 1, state, message => rounds n (round state message) (permute message)

/-- A compression that is still to be carried out: the chaining value, the message block, the number
of the chunk, the number of bytes in the block, and the flags. -/
structure Step where
  chaining : Vector UInt32 8
  block : Vector UInt32 16
  counter : Nat
  length : Nat
  flags : UInt32

/-- The eight words of the compression's result that go on. -/
def compress (step : Step) : Vector UInt32 8 :=
  let cv := step.chaining
  let state : Vector UInt32 16 :=
    #v[cv[0], cv[1], cv[2], cv[3], cv[4], cv[5], cv[6], cv[7],
      initial[0], initial[1], initial[2], initial[3],
      UInt32.ofNat (step.counter % pow2 32), UInt32.ofNat (step.counter / pow2 32),
      UInt32.ofNat step.length, step.flags]
  let out := rounds 7 state step.block
  Vector.ofFn fun i : Fin 8 => out[i.val] ^^^ out[i.val + 8]

/-! ## Chunks -/

/-- The number whose little-endian bytes are given. -/
def littleEndian (bytes : List UInt8) : UInt32 :=
  bytes.foldr (fun byte acc => acc * 256 + byte.toUInt32) 0

/-- A block of at most 64 bytes as sixteen words, padded with zeros. -/
def blockWords (bytes : List UInt8) : Vector UInt32 16 :=
  Vector.ofFn fun i : Fin 16 => littleEndian ((bytes.drop (4 * i.val)).take 4)

/-- The last compression of a chunk, where `chaining` is the result of the blocks before `bytes`. The
last block is the one that leaves no bytes over. -/
def chunkFrom (counter : Nat) : Nat → Vector UInt32 8 → UInt32 → List UInt8 → Step
  | 0, chaining, flags, bytes =>
    ⟨chaining, blockWords bytes, counter, bytes.length, flags ||| chunkEnd⟩
  | fuel + 1, chaining, flags, bytes =>
    if bytes.length ≤ 64 then
      ⟨chaining, blockWords bytes, counter, bytes.length, flags ||| chunkEnd⟩
    else
      let next := compress ⟨chaining, blockWords (bytes.take 64), counter, 64, flags⟩
      chunkFrom counter fuel next 0 (bytes.drop 64)

/-- The last compression of a chunk of at most 1024 bytes. -/
def chunk (counter : Nat) (bytes : List UInt8) : Step := chunkFrom counter 16 initial chunkStart bytes

/-! ## The tree -/

/-- The compression of a parent with the given values of its children. -/
def parentStep (left right : Vector UInt32 8) : Step :=
  ⟨initial, left ++ right, 0, 64, parent⟩

/-- The number of chunks in the left subtree over more than one chunk: the largest power of two below
the number of chunks. -/
def leftChunks (chunks : Nat) : Nat := pow2 (chunks - 1).log2

/-- The last compression of the tree over a list of bytes whose first chunk has the number `counter`.
Each level at least halves the chunks, so `fuel` bounds the height. -/
def subtree : Nat → Nat → List UInt8 → Step
  | 0, counter, bytes => chunk counter bytes
  | fuel + 1, counter, bytes =>
    if bytes.length ≤ 1024 then chunk counter bytes
    else
      let left := leftChunks ((bytes.length + 1023) / 1024)
      parentStep (compress (subtree fuel counter (bytes.take (1024 * left))))
        (compress (subtree fuel (counter + left) (bytes.drop (1024 * left))))

/-- The hash of a list of bytes, as eight words. -/
def hash (bytes : List UInt8) : Vector UInt32 8 :=
  let last := subtree bytes.length.log2 0 bytes
  compress { last with flags := last.flags ||| root }

/-- The eight hexadecimal digits of a word's bytes, lowest byte first. -/
def wordHex (word : UInt32) : List Char :=
  let n := word.toNat
  [0, 1, 2, 3].flatMap fun i =>
    [Text.hexDigit (n / pow2 (8 * i + 4)), Text.hexDigit (n / pow2 (8 * i))]

end Fingerprint

/-- The hash of a text's UTF-8 bytes, with the name of the hash function. -/
def fingerprint (text : String) : String :=
  "blake3:" ++ String.ofList ((Fingerprint.hash text.toUTF8.toList).toList.flatMap Fingerprint.wordHex)

end Stencil
