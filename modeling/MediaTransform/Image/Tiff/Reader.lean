import MediaTransform.Image.Deflate.Reader
import MediaTransform.Image.Lzw
import MediaTransform.Image.Tiff

/-! # Reading TIFF files

* **`Tiff.fields?`** — the fields of the first directory, in either order of bytes.
* **`Tiff.unpacked?`** — the bytes of a strip.
* **`Tiff.decode?`** — the picture of a file. -/

namespace MediaTransform

namespace Tiff

/-! ## (1) Directories -/

/-- The order of the bytes of a number. -/
structure Order where
  lowestFirst : Bool

/-- The number of bytes. -/
def Order.number (o : Order) (b : Bytes) : Nat :=
  if o.lowestFirst then Bytes.ofLittleEndian b else Bytes.ofBigEndian b

/-- The number of `width` bytes at a place of a file. -/
def Order.at? (o : Order) (file : Bytes) (place width : Nat) : Option Nat :=
  (Bytes.cut? width (file.drop place)).map fun (b, _) => o.number b

/-- The number of bytes of a value of a kind. -/
def kindSize : Nat → Option Nat
  | 1 => some 1
  | 3 => some 2
  | 4 => some 4
  | _ => none

/-- The values of an entry at a place of a file. -/
def valuesAt? (o : Order) (file : Bytes) (place : Nat) : Option (List Nat) := do
  let size ← kindSize (← o.at? file (place + 2) 2)
  let count ← o.at? file (place + 4) 4
  let start ← if size * count ≤ 4 then some (place + 8) else o.at? file (place + 8) 4
  guard (size * count ≤ file.length)
  (List.range count).mapM fun i => o.at? file (start + i * size) size

/-- **The fields of the first directory** whose values are whole numbers. -/
def fields? (o : Order) (file : Bytes) : Option (List (Nat × List Nat)) := do
  let start ← o.at? file 4 4
  let count ← o.at? file start 2
  let tags ← (List.range count).mapM fun i => o.at? file (start + 2 + 12 * i) 2
  return (tags.mapIdx fun i tag => (tag, valuesAt? o file (start + 2 + 12 * i))).filterMap
    fun e => e.2.map (e.1, ·)

/-- The order of bytes that a file begins with. -/
def order? (file : Bytes) : Option Order :=
  if signature.isPrefixOf file then some ⟨true⟩
  else if [0x4d, 0x4d, 0, 0x2a].isPrefixOf file then some ⟨false⟩
  else none

/-- The channels for so many samples of a kind. -/
def colourOf? (photometric samples : Nat) (deep : Bool) : Option ColourType :=
  match photometric, samples with
  | 0, 1 => some ⟨deep, false, false⟩
  | 1, 1 => some ⟨deep, false, false⟩
  | 1, 2 => some ⟨deep, false, true⟩
  | 2, 3 => some ⟨deep, true, false⟩
  | 2, 4 => some ⟨deep, true, true⟩
  | _, _ => none

/-! ## (2) Strips -/

/-- Runs of bytes and bytes as they are, at most `fuel` of either, up to `count` bytes after those
that are read, the latest first. -/
def runsFrom (count : Nat) : Nat → Bytes → Bytes → Option Bytes
  | 0, _, _ => none
  | fuel + 1, b, done =>
    if count ≤ done.length then some (done.reverse.take count)
    else
      match b with
      | [] => none
      | n :: rest =>
        if n.toNat < 128 then do
          let (literal, rest) ← Bytes.cut? (n.toNat + 1) rest
          runsFrom count fuel rest (literal.reverse ++ done)
        else if n.toNat = 128 then runsFrom count fuel rest done
        else
          match rest with
          | [] => none
          | value :: rest => runsFrom count fuel rest (List.replicate (257 - n.toNat) value ++ done)

/-- Codes are written from the highest bit on, and get longer early. -/
def codeStyle : Lzw.Style := ⟨true, true⟩

/-- **The bytes of a strip** that was packed in one of the ways. -/
def unpacked? (method count : Nat) (b : Bytes) : Option Bytes :=
  match method with
  | 1 => (Bytes.cut? count b).map (·.1)
  | 5 => (Lzw.expand? codeStyle 8 count b).map fun a => (a.toList.take count).map (·.toUInt8)
  | 8 | 32946 => (Deflate.unwrap? count b).bind fun a => (Bytes.cut? count a.toList).map (·.1)
  | 32773 => runsFrom count (b.length + 1) b []
  | _ => none

/-- The samples of a line, each written as the difference to the one of the pixel before. -/
def summed (channels limit : Nat) (line : List Nat) : List Nat :=
  (line.foldl (fun (done : Array Nat) v =>
    let before := if done.size < channels then 0 else done.getD (done.size - channels) 0
    done.push ((v + before) % (limit + 1))) #[]).toList

/-- Lists of a length cut from a list, so many of them. -/
def lines (length : Nat) : Nat → List Nat → List (List Nat)
  | 0, _ => []
  | n + 1, l => l.take length :: lines length n (l.drop length)

/-- The samples in bytes of so many bits for each of them; a single bit is the lowest or the highest
value of a byte, and each line has whole bytes. -/
def samplesOf (o : Order) (bits width : Nat) (b : Bytes) : List Nat :=
  if bits = 16 then
    (Bytes.pairs b).map fun n => if o.lowestFirst then n % 256 * 256 + n / 256 else n
  else if bits = 8 then b.map (·.toNat)
  else
    (lines ((width + 7) / 8) (b.length / ((width + 7) / 8)) (b.map (·.toNat))).flatMap fun line =>
      (line.flatMap fun n => (List.range 8).map fun i => 255 * (n / 2 ^ (7 - i) % 2)).take width

/-! ## (3) Files -/

/-- **The picture of a file.** -/
def decode? (file : Bytes) : Option Picture := do
  let o ← order? file
  let fields ← fields? o file
  let one (tag : Nat) : Option Nat := (fields.lookup tag).bind (·.head?)
  let w ← one 256
  let h ← one 257
  let bits := (fields.lookup 258).getD [1]
  let depth := bits.headD 1
  let guess := (one 317).getD 1
  guard (w ≠ 0 ∧ h ≠ 0 ∧ (depth = 1 ∨ depth = 8 ∨ depth = 16) ∧ bits.all (· = depth) ∧
    (one 284).getD 1 = 1 ∧ (guess = 1 ∨ guess = 2) ∧ (one 339).getD 1 = 1)
  let photometric ← one 262
  let colour ← colourOf? photometric ((one 277).getD 1) (decide (depth = 16))
  guard (Picture.isReadable colour w h ∧
    (depth ≠ 1 ∨ (guess = 1 ∧ colour = ⟨false, false, false⟩)))
  let lineBytes := (w * colour.channelCount * depth + 7) / 8
  let linesPerStrip := min h ((one 278).getD h)
  guard (linesPerStrip ≠ 0)
  let places ← fields.lookup 273
  let sizes ← fields.lookup 279
  let count := (h + linesPerStrip - 1) / linesPerStrip
  guard (count ≤ places.length ∧ count ≤ sizes.length)
  let strips ← ((places.zip sizes).take count).mapIdxM fun i (place, size) =>
    unpacked? ((one 259).getD 1) (min linesPerStrip (h - i * linesPerStrip) * lineBytes)
      ((file.drop place).take size)
  let samples := samplesOf o depth w strips.flatten
  let lineSamples := w * colour.channelCount
  let samples := if guess = 1 then samples
    else (lines lineSamples h samples).flatMap (summed colour.channelCount colour.limit)
  let samples := if photometric = 0 then samples.map (colour.limit - ·) else samples
  return .ofSamples colour w h samples.toArray

end Tiff

end MediaTransform
