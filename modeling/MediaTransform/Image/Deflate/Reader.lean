import MediaTransform.Image.Bits.Source
import MediaTransform.Image.Deflate

/-! # Reading compressed data

The whole DEFLATE format: stored blocks, blocks with the fixed codes and blocks with codes of their
own.

* **`Deflate.Codes`** — codes by the lengths of the symbols' codes; `Codes.symbol` reads one.
* **`Deflate.inflate`** — the data of compressed bytes, up to a limit.
* **`Deflate.unwrap?`** — the data of a stream with its two bytes in front. -/

namespace MediaTransform

namespace Deflate

open Bits (Source Reading)

/-! ## (1) Codes -/

/-- The longest code. -/
def longestCode : Nat := 15

/-- **Codes in order**: how many there are of each length, and their symbols, those of shorter codes
first. -/
structure Codes where
  counts : Array Nat
  symbols : Array Nat

/-- The codes of symbols with given lengths; a length of zero means no code. -/
def Codes.ofLengths (lengths : List Nat) : Codes where
  counts := Array.ofFn (n := longestCode + 1) fun n => lengths.count n.val
  symbols := ((List.range longestCode).flatMap fun n =>
    (lengths.zipIdx.filter (·.1 = n + 1)).map (·.2)).toArray

/-- How much room codes leave or want, in codes of the greatest length. -/
def Codes.room (c : Codes) : Int :=
  (List.range longestCode).foldl
    (fun room n => 2 * room - (c.counts.getD (n + 1) 0 : Nat)) (1 : Int)

/-- A symbol whose code is at least `length` bits long, by the code so far, the first code of this
length and the number of symbols with shorter codes. -/
def Codes.symbolFrom (c : Codes) : Nat → Nat → Nat → Nat → Nat → Reading Nat
  | 0, _, _, _, _ => failure
  | left + 1, length, code, first, before => do
    let code := code + (← Bits.read 1)
    let count := c.counts.getD length 0
    -- the codes of one length are consecutive numbers
    if code < first + count then
      match c.symbols[before + (code - first)]? with
      | some s => return s
      | none => failure
    else c.symbolFrom left (length + 1) (2 * code) (2 * (first + count)) (before + count)

/-- **The next symbol.** -/
def Codes.symbol (c : Codes) : Reading Nat := c.symbolFrom longestCode 1 0 0 0

/-- The codes of literals and lengths that every reader knows. -/
def fixedLiterals : Codes :=
  .ofLengths (List.replicate 144 8 ++ List.replicate 112 9 ++ List.replicate 24 7 ++
    List.replicate 8 8)

/-- The codes of distances that every reader knows. -/
def fixedDistances : Codes := .ofLengths (List.replicate 30 5)

/-! ## (2) Blocks -/

/-- The distance classes: the shortest distance of a class and how many further bits it has. -/
def distanceClasses : List (Nat × Nat) :=
  [(1, 0), (2, 0), (3, 0), (4, 0), (5, 1), (7, 1), (9, 2), (13, 2), (17, 3), (25, 3), (33, 4),
    (49, 4), (65, 5), (97, 5), (129, 6), (193, 6), (257, 7), (385, 7), (513, 8), (769, 8),
    (1025, 9), (1537, 9), (2049, 10), (3073, 10), (4097, 11), (6145, 11), (8193, 12), (12289, 12),
    (16385, 13), (24577, 13)]

/-- A number of a class, with its further bits. -/
def inClass (classes : List (Nat × Nat)) (symbol : Nat) : Reading Nat := do
  match classes[symbol]? with
  | none => failure
  | some (base, extra) => return base + (← Bits.read extra)

/-- Data with bytes from `distance` before its end copied to its end. -/
def copyBack (distance : Nat) : Nat → Array UInt8 → Array UInt8
  | 0, out => out
  | n + 1, out => copyBack distance n (out.push (out.getD (out.size - distance) 0))

/-- Literals and copies up to the end of a block or the limit, at most `fuel` of them. -/
def symbolsFrom (literals distances : Codes) (limit : Nat) :
    Nat → Array UInt8 → Reading (Array UInt8)
  | 0, _ => failure
  | fuel + 1, out => do
    if limit ≤ out.size then return out
    let s ← literals.symbol
    if s < endSymbol then symbolsFrom literals distances limit fuel (out.push s.toUInt8)
    else if s = endSymbol then return out
    else
      let length ← inClass lengthClasses (s - endSymbol - 1)
      let distance ← inClass distanceClasses (← distances.symbol)
      if out.size < distance then failure
      symbolsFrom literals distances limit fuel (copyBack distance length out)

/-- The order in which the lengths of the codes of lengths are written. -/
def lengthOrder : List Nat := [16, 17, 18, 0, 8, 7, 9, 6, 10, 5, 11, 4, 12, 3, 13, 2, 14, 1, 15]

/-- So many lengths of codes, after those that are read, the latest first. -/
def lengthsFrom (codes : Codes) (count : Nat) : Nat → List Nat → Reading (List Nat)
  | 0, _ => failure
  | fuel + 1, done => do
    if count ≤ done.length then
      if done.length = count then return done.reverse else failure
    let s ← codes.symbol
    if s < 16 then lengthsFrom codes count fuel (s :: done)
    else if s = 16 then
      -- the last length again, which there must be
      match done with
      | [] => failure
      | last :: _ => lengthsFrom codes count fuel (List.replicate (3 + (← Bits.read 2)) last ++ done)
    else
      let zeros ← if s = 17 then (3 + ·) <$> Bits.read 3 else (11 + ·) <$> Bits.read 7
      lengthsFrom codes count fuel (List.replicate zeros 0 ++ done)

/-- The codes of a block that brings its own. -/
def ownCodes : Reading (Codes × Codes) := do
  let literals := 257 + (← Bits.read 5)
  let distances := 1 + (← Bits.read 5)
  let lengths := 4 + (← Bits.read 4)
  if 286 < literals then failure
  let short ← (List.range lengths).mapM fun _ => Bits.read 3
  let shortOf (n : Nat) : Nat := short.getD (lengthOrder.idxOf n) 0
  let codes := Codes.ofLengths ((List.range 19).map shortOf)
  if codes.room ≠ 0 then failure
  let all ← lengthsFrom codes (literals + distances) (literals + distances + 1) []
  let literalCodes := Codes.ofLengths (all.take literals)
  let distanceCodes := Codes.ofLengths (all.drop literals)
  if (all.getD endSymbol 0) = 0 ∨ literalCodes.room < 0 ∨ distanceCodes.room < 0 then failure
  return (literalCodes, distanceCodes)

/-- A stored block after what is read. -/
def storedBlock (out : Array UInt8) : Reading (Array UInt8) := do
  Bits.align
  let length ← Bits.read 16
  let check ← Bits.read 16
  if length + check ≠ storedLimit then failure
  let s ← get
  let start := s.position / 8
  if s.bytes.size < start + length then failure
  set { s with position := s.position + 8 * length }
  return out ++ s.bytes.extract start (start + length)

/-- One block after what is read. -/
def block (kind limit : Nat) (out : Array UInt8) : Reading (Array UInt8) := do
  let fuel := 8 * (← get).bytes.size + 1
  match kind with
  | 0 => storedBlock out
  | 1 => symbolsFrom fixedLiterals fixedDistances limit fuel out
  | 2 =>
    let (literals, distances) ← ownCodes
    symbolsFrom literals distances limit fuel out
  | _ => failure

/-- Blocks up to the last one or the limit, at most `fuel` of them. -/
def blocksFrom (limit : Nat) : Nat → Array UInt8 → Reading (Array UInt8)
  | 0, _ => failure
  | fuel + 1, out => do
    let last ← Bits.read 1
    let out ← block (← Bits.read 2) limit out
    if last = 1 ∨ limit ≤ out.size then return out else blocksFrom limit fuel out

/-! ## (3) Streams -/

/-- **The data of compressed bytes**, as soon as `limit` bytes of it are there. -/
def inflate (limit : Nat) (b : Array UInt8) : Option (Array UInt8) :=
  ((blocksFrom limit (8 * b.size + 1) #[]).run ⟨b, 0⟩).map (·.1)

/-- **The data of a stream**, which begins with its method and a check on it. -/
def unwrap? (limit : Nat) (b : Bytes) : Option (Array UInt8) :=
  match b with
  | method :: flags :: rest =>
    if method.toNat % 16 = 8 ∧ method.toNat / 16 ≤ 7 ∧ flags.toNat / 32 % 2 = 0 ∧
        (256 * method.toNat + flags.toNat) % 31 = 0 then
      inflate limit rest.toArray
    else none
  | _ => none

end Deflate

end MediaTransform
