import MediaTransform.Image.ByteOrder
import MediaTransform.Image.Picture
import MediaTransform.Text.Blank

/-! # The portable map formats

Bitmaps, grey maps and pixel maps, in digits or in bytes, and maps of any kind behind a header of
named lines.

* **`Pnm.encode`** — the file of a picture, a map of any kind.
* **`Pnm.header?`** — what a file says of its raster: sides, channels, the largest sample and how
  samples are written.
* **`Pnm.samples?`** — the samples of a raster, brought to the full range of their channels.
* **`Pnm.decode?`** — the picture of a file. -/

namespace MediaTransform

namespace Pnm

/-! ## (1) Writing -/

/-- The name of a set of channels. -/
def tupleName (c : ColourType) : String :=
  (if c.coloured then "RGB" else "GRAYSCALE") ++ if c.hasAlpha then "_ALPHA" else ""

/-- The header of a picture. -/
def headerText (p : Picture) : String :=
  "P7\nWIDTH " ++ toString p.width ++ "\nHEIGHT " ++ toString p.height ++
    "\nDEPTH " ++ toString p.colour.channelCount ++ "\nMAXVAL " ++ toString p.colour.limit ++
    "\nTUPLTYPE " ++ tupleName p.colour ++ "\nENDHDR\n"

/-- **The file of a picture.** -/
def encode (p : Picture) : Bytes :=
  Bytes.ofText (headerText p) ++ p.samples.flatMap (Bytes.bigEndian p.colour.depth)

/-! ## (2) Words and numbers -/

/-- The white space between words. -/
def isBlank (b : UInt8) : Bool := [9, 10, 11, 12, 13, 32].contains b

/-- **The next word**, of which the beginning is read, and the rest after one blank. A comment goes
from a hash to the end of its line and vanishes with it, also inside a word. -/
def wordFrom (inComment : Bool) (done : Bytes) : Bytes → Option (Bytes × Bytes)
  | [] => if done.isEmpty then none else some (done.reverse, [])
  | b :: rest =>
    if inComment then wordFrom (b ≠ 10 && b ≠ 13) done rest
    else if b = 0x23 then wordFrom true done rest
    else if isBlank b then
      if done.isEmpty then wordFrom false done rest else some (done.reverse, rest)
    else if 0x80 ≤ b then none
    else wordFrom false (b :: done) rest

/-- The number that digits stand for. -/
def digits? (word : Bytes) : Option Nat :=
  if word.isEmpty then none
  else word.foldlM (fun n b => if 48 ≤ b ∧ b ≤ 57 then some (10 * n + (b.toNat - 48)) else none) 0

/-- **The number of a word** that is at most a limit; it may begin with a plus sign. -/
def number? (limit : Nat) (word : Bytes) : Option Nat :=
  (digits? (if word.head? = some 0x2b then word.drop 1 else word)).filter (· ≤ limit)

/-- The largest number of a header. -/
def headerLimit : Nat := 2 ^ 32 - 1

/-- The next number of a header, and the rest. -/
def headerNumber? (b : Bytes) : Option (Nat × Bytes) := do
  let (word, rest) ← wordFrom false [] b
  return (← number? headerLimit word, rest)

/-! ## (3) Headers -/

/-- How samples are written. -/
inductive Raster where
  /-- Digits, one for each bit; a set bit is black. -/
  | bitDigits
  /-- Bits, each row in whole bytes; a set bit is black. -/
  | bits
  /-- Numbers between blanks. -/
  | digits
  | bytes
  deriving DecidableEq, Repr

/-- **What a file says of its raster.** -/
structure Header where
  width : Nat
  height : Nat
  colour : ColourType
  /-- The largest sample. -/
  most : Nat
  raster : Raster
  /-- Whether a sample above the largest one is refused. -/
  strict : Bool := false

/-- The header of a bitmap. -/
def bitmapHeader? (raster : Raster) (b : Bytes) : Option (Header × Bytes) := do
  let (w, b) ← headerNumber? b
  let (h, b) ← headerNumber? b
  return (⟨w, h, ⟨false, false, false⟩, 255, raster, false⟩, b)

/-- The channels of samples up to a largest one. -/
def channelsFor? (coloured hasAlpha : Bool) (most : Nat) : Option ColourType :=
  if most = 0 ∨ 65535 < most then none else some ⟨decide (255 < most), coloured, hasAlpha⟩

/-- The header of a grey map or a pixel map. -/
def mapHeader? (coloured : Bool) (raster : Raster) (b : Bytes) : Option (Header × Bytes) := do
  let (w, b) ← headerNumber? b
  let (h, b) ← headerNumber? b
  let (most, b) ← headerNumber? b
  return (⟨w, h, ← channelsFor? coloured false most, most, raster, false⟩, b)

/-- The named lines of a header. -/
structure Lines where
  width : Option Nat := none
  height : Option Nat := none
  depth : Option Nat := none
  most : Option Nat := none
  tuple : Option String := none

/-- A number that is named for the first time. -/
def once? (old : Option Nat) (value : String) : Option (Option Nat) :=
  if old.isSome then none else (number? headerLimit (Bytes.ofText value)).map some

/-- One more line with its name and its value. -/
def Lines.add? (l : Lines) (name value : String) : Option Lines :=
  match name with
  | "WIDTH" => (once? l.width value).map fun n => { l with width := n }
  | "HEIGHT" => (once? l.height value).map fun n => { l with height := n }
  | "DEPTH" => (once? l.depth value).map fun n => { l with depth := n }
  | "MAXVAL" => (once? l.most value).map fun n => { l with most := n }
  | "TUPLTYPE" =>
    some { l with tuple := some (match l.tuple with
      | some t => t ++ " " ++ value
      | none => value) }
  | _ => none

/-- **The named lines up to the one that ends the header**, and the rest; at most `fuel` lines. -/
def linesFrom : Nat → Lines → Bytes → Option (Lines × Bytes)
  | 0, _, _ => none
  | fuel + 1, l, b =>
    let line := b.takeWhile (· ≠ 10)
    let rest := b.drop (line.length + 1)
    match Bytes.text? line with
    | none => none
    | some text =>
      if b.isEmpty then none
      else if line.head? = some 0x23 then linesFrom fuel l rest
      else if line.any (0x80 ≤ ·) then none
      else
        let name := text.toList.takeWhile (!Text.isBlank ·)
        let value := String.ofList (Text.trimChars (text.toList.drop name.length))
        if String.ofList name = "ENDHDR" then some (l, rest)
        else
          match l.add? (String.ofList name) value with
          | none => none
          | some l => linesFrom fuel l rest

/-- The channels of named lines, and whether their samples are checked. -/
def tuple? (depth most : Nat) (tuple : Option String) : Option (ColourType × Bool) :=
  if most = 0 then none
  else
    match tuple, depth with
    | none, 1 => some (⟨false, false, false⟩, false)
    | none, 3 => some (⟨false, true, false⟩, false)
    | some "BLACKANDWHITE", 1 => if most = 1 then some (⟨false, false, false⟩, true) else none
    | some "BLACKANDWHITE_ALPHA", 2 => if most = 1 then some (⟨false, false, true⟩, true) else none
    | some "GRAYSCALE", 1 => (channelsFor? false false most).map (·, false)
    | some "GRAYSCALE_ALPHA", 2 => (channelsFor? false true most).map (·, false)
    | some "RGB", 3 => (channelsFor? true false most).map (·, false)
    | some "RGB_ALPHA", 4 => (channelsFor? true true most).map (·, false)
    | _, _ => none

/-- The header of named lines. -/
def namedHeader? (b : Bytes) : Option (Header × Bytes) := do
  let b ← Bytes.after? [10] b
  let (l, b) ← linesFrom (b.length + 1) {} b
  let most ← l.most
  let (colour, strict) ← tuple? (← l.depth) most l.tuple
  return (⟨← l.width, ← l.height, colour, most, .bytes, strict⟩, b)

/-- **What a file says of its raster**, and the raster. -/
def header? : Bytes → Option (Header × Bytes)
  | 0x50 :: digit :: b =>
    match digit.toNat - 48 with
    | 1 => bitmapHeader? .bitDigits b
    | 2 => mapHeader? false .digits b
    | 3 => mapHeader? true .digits b
    | 4 => bitmapHeader? .bits b
    | 5 => mapHeader? false .bytes b
    | 6 => mapHeader? true .bytes b
    | 7 => namedHeader? b
    | _ => none
  | _ => none

/-! ## (4) Rasters -/

/-- So many numbers between blanks, after those that are read. -/
def numbersFrom (limit : Nat) : Nat → Array Nat → Bytes → Option (Array Nat)
  | 0, done, _ => some done
  | left + 1, done, b =>
    let b := b.dropWhile isBlank
    let word := b.takeWhile (!isBlank ·)
    match number? limit word with
    | none => none
    | some n => numbersFrom limit left (done.push n) (b.drop (word.length + 1))

/-- So many bits as digits, after those that are read. -/
def bitDigitsFrom : Nat → Array Nat → Bytes → Option (Array Nat)
  | 0, done, _ => some done
  | _ + 1, _, [] => none
  | left + 1, done, b :: rest =>
    if isBlank b then bitDigitsFrom (left + 1) done rest
    else if b = 48 then bitDigitsFrom left (done.push 255) rest
    else if b = 49 then bitDigitsFrom left (done.push 0) rest
    else none

/-- The bits of rows of whole bytes. -/
def bitsOf (width height : Nat) (raster : Array UInt8) : Array Nat :=
  let rowBytes := (width + 7) / 8
  Array.ofFn (n := width * height) fun i =>
    let (x, y) := (i.val % width, i.val / width)
    let byte := (raster.getD (y * rowBytes + x / 8) 0).toNat
    if byte / 2 ^ (7 - x % 8) % 2 = 1 then 0 else 255

/-- **A sample brought to the full range** of its channel, by a factor in single precision. -/
def widen (limit most v : Nat) : Nat :=
  if most = limit then v
  else
    let factor := Float32.ofNat limit / Float32.ofNat most
    min limit (Float32.round (Float32.ofNat v * factor)).toUInt32.toNat

/-- **The samples of a raster.** -/
def samples? (h : Header) (b : Bytes) : Option (Array Nat) := do
  let count := h.width * h.height * h.colour.channelCount
  match h.raster with
  | .bitDigits => bitDigitsFrom count #[] b
  | .bits =>
    let (raster, _) ← b.cut? ((h.width + 7) / 8 * h.height)
    return bitsOf h.width h.height raster.toArray
  | .digits => return (← numbersFrom h.colour.limit count #[] b).map (widen h.colour.limit h.most)
  | .bytes =>
    let (raster, _) ← b.cut? (count * h.colour.depth)
    let samples := if h.colour.deep then Bytes.pairs raster else raster.map (·.toNat)
    guard (!h.strict || samples.all (· ≤ h.most))
    return (samples.map (widen h.colour.limit h.most)).toArray

/-- **The picture of a file.** -/
def decode? (b : Bytes) : Option Picture := do
  let (h, b) ← header? b
  return .ofSamples h.colour h.width h.height (← samples? h b)

end Pnm

end MediaTransform
