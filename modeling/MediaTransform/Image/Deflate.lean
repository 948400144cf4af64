import MediaTransform.Image.Bits
import MediaTransform.Image.ByteOrder
import MediaTransform.Image.Checksum

/-! # Compressed pictures

A fast form of the DEFLATE format: one block with one fixed table of codes, made for filtered
pictures, in which only runs of zeros are shortened.

* **`Deflate.codes`** — the code of each symbol, from the lengths of the codes.
* **`Deflate.ofLine`** — the bits of one line.
* **`Deflate.shortened`**, **`stored`** — a stream of lines with runs shortened, and as they are. -/

namespace MediaTransform

namespace Deflate

/-! ## (1) Codes -/

/-- The lengths of the codes of the symbols in order: how many symbols in a row have a length. -/
def lengthRuns : List (Nat × Nat) :=
  [(1, 2), (1, 3), (1, 4), (2, 5), (2, 6), (3, 7), (5, 8), (7, 9), (9, 10), (12, 11), (171, 12),
    (10, 11), (1, 10), (1, 11), (9, 10), (5, 9), (1, 8), (1, 9), (5, 8), (3, 7), (3, 6), (1, 5),
    (1, 4), (1, 3), (3, 12), (2, 9), (1, 11), (1, 10), (2, 11), (1, 10), (6, 11), (1, 12), (1,
    11), (11, 12), (1, 9)]

/-- The length of each symbol's code. -/
def codeLengths : List Nat := lengthRuns.flatMap fun r => List.replicate r.1 r.2

/-- The first code of each length: codes of one length are consecutive, and shorter ones come
before longer ones. -/
def firstCode (lengths : List Nat) : Nat → Nat
  | 0 => 0
  | n + 1 => 2 * (firstCode lengths n + if n = 0 then 0 else lengths.count n)

/-- A code of a length, written with its highest bit first. -/
def codeBits (length code : Nat) : Bits := (Bits.ofNat length code).reverse

/-- The codes of the symbols, given how many symbols before had each length. -/
def codesFrom (lengths : List Nat) : List Nat → List Nat → List Bits
  | _, [] => []
  | seen, length :: rest =>
    codeBits length (firstCode lengths length + seen.count length) ::
      codesFrom lengths (length :: seen) rest

/-- **The code of each symbol.** -/
def codes : Array Bits := (codesFrom codeLengths [] codeLengths).toArray

/-- The bits of a symbol. -/
def symbol (n : Nat) : Bits := codes.getD n []

/-- The symbol that ends a block. -/
def endSymbol : Nat := 256

/-- The beginning of every stream: the mark of the format and the table of codes. Of the last byte
only the lowest five bits belong to it. -/
def head : Bytes :=
  [120, 1, 237, 192, 3, 160, 36, 89, 150, 198, 241, 255, 119, 238, 141, 200, 204, 167, 114, 75,
    99, 174, 109, 219, 182, 109, 219, 182, 109, 219, 182, 109, 105, 140, 158, 150, 74, 175, 158,
    50, 51, 34, 238, 249, 118, 183, 106, 122, 166, 135, 59, 107, 213, 15]

/-! ## (2) Lines -/

/-- The length classes: the shortest length of a class and how many further bits it has. -/
def lengthClasses : List (Nat × Nat) :=
  [(3, 0), (4, 0), (5, 0), (6, 0), (7, 0), (8, 0), (9, 0), (10, 0), (11, 1), (13, 1), (15, 1),
    (17, 1), (19, 2), (23, 2), (27, 2), (31, 2), (35, 3), (43, 3), (51, 3), (59, 3), (67, 4),
    (83, 4), (99, 4), (115, 4), (131, 5), (163, 5), (195, 5), (227, 5), (258, 0)]

/-- The longest repetition. -/
def longestCopy : Nat := 258

/-- The number of the last class that begins at or below a length. -/
def classOf (length : Nat) : Nat := (lengthClasses.takeWhile (·.1 ≤ length)).length - 1

/-- A repetition of the byte before: the class, the further bits and the distance, one bit. -/
def copy (length : Nat) : Bits :=
  let (base, extra) := lengthClasses.getD (classOf length) (3, 0)
  symbol (endSymbol + 1 + classOf length) ++ Bits.ofNat (extra + 1) (length - base)

/-- **A run of zeros**: one zero, then repetitions of it; a rest of at most four is spelt out. -/
def zeros : Nat → Bits
  | 0 => []
  | n + 1 =>
    symbol 0 ++ (List.replicate (n / longestCopy) (copy longestCopy)).flatten ++
      (if 4 < n % longestCopy then copy (n % longestCopy)
        else (List.replicate (n % longestCopy) (symbol 0)).flatten)

/-- How many bytes are looked at together. -/
def wordSize : Nat := 8

/-- Bytes one by one. -/
def spelled (b : Bytes) : Bits := b.flatMap fun x => symbol x.toNat

/-- How many zeros bytes begin with. -/
def leadingZeros (b : Bytes) : Nat := (b.takeWhile (· = 0)).length

/-- How many zeros bytes end with. -/
def trailingZeros (b : Bytes) : Nat := leadingZeros b.reverse

/-- **The bits of whole words** after `run` zeros that are still to be written. The zeros at the end
of a word begin a run, and those at the start of one continue a run. -/
def ofWords : Nat → List Bytes → Bits
  | run, [] => zeros run
  | run, word :: rest =>
    if word.all (· = 0) then ofWords (run + word.length) rest
    else
      let lead := if run = 0 then 0 else leadingZeros word
      let next := trailingZeros word
      zeros (run + lead) ++ spelled ((word.drop lead).take (word.length - lead - next)) ++
        ofWords next rest

/-- The whole words of bytes. -/
def wordsOf : Nat → Bytes → List Bytes
  | 0, _ => []
  | n + 1, b => b.take wordSize :: wordsOf n (b.drop wordSize)

/-- **The bits of one line**: whole words, then the bytes that are left. -/
def ofLine (line : Bytes) : Bits :=
  let n := line.length / wordSize
  ofWords 0 (wordsOf n line) ++ spelled (line.drop (n * wordSize))

/-! ## (3) Streams -/

/-- The checksum at the end of a stream. -/
def tail (lines : List Bytes) : Bytes := Bytes.bigEndian 4 (Checksum.adler32 lines.flatten)

/-- Lines with runs shortened. -/
def shortened (lines : List Bytes) : Bytes :=
  head.dropLast ++
    Bits.bytes (Bits.ofNat 5 ((head.getLast?.map (·.toNat)).getD 0) ++ lines.flatMap ofLine ++
      symbol endSymbol) ++
    tail lines

/-- The largest block that is stored as it is. -/
def storedLimit : Nat := 65535

/-- Blocks of bytes as they are, at most `fuel` of them. -/
def storedBlocks : Nat → Bytes → Bytes
  | 0, _ => []
  | fuel + 1, b =>
    let block := b.take storedLimit
    let rest := b.drop storedLimit
    (if rest.isEmpty then 1 else 0) :: Bytes.littleEndian 2 block.length ++
      Bytes.littleEndian 2 (storedLimit - block.length) ++ block ++
      (if rest.isEmpty then [] else storedBlocks fuel rest)

/-- Lines as they are. -/
def stored (lines : List Bytes) : Bytes :=
  [120, 1] ++ storedBlocks (lines.flatten.length / storedLimit + 1) lines.flatten ++ tail lines

/-- The length of a stored stream of `n` bytes. -/
def storedSize (n : Nat) : Nat :=
  (n - 1) / storedLimit * (storedLimit + 5) + (n % storedLimit + 5) + 6

end Deflate

end MediaTransform
