import MediaTransform.Image.Deflate.Reader
import MediaTransform.Image.Png

/-! # Reading the PNG format

* **`Png.Header`** — sides, depth, kind of samples and order of the lines.
* **`Png.contents?`** — what the sections of a file hold up to the end of its compressed lines.
* **`Png.unfiltered?`** — lines from their differences to their predictions.
* **`Png.decode?`** — the picture of a file: depths below eight bits and tables of colours are
  brought to full channels. -/

namespace MediaTransform

namespace Png

/-! ## (1) Headers -/

/-- What the samples of a file are. -/
inductive SampleKind where
  /-- Stored channels. -/
  | channels (coloured hasAlpha : Bool)
  /-- Numbers in a table of colours. -/
  | indexed
  deriving DecidableEq, Repr

/-- **The header of a file.** -/
structure Header where
  width : Nat
  height : Nat
  /-- The number of bits of a sample. -/
  depth : Nat
  kind : SampleKind
  /-- Whether the lines come in seven passes. -/
  interlaced : Bool

/-- The kind of samples with a number, and the depths that it may have. -/
def kindOf : Nat → Option (SampleKind × List Nat)
  | 0 => some (.channels false false, [1, 2, 4, 8, 16])
  | 2 => some (.channels true false, [8, 16])
  | 3 => some (.indexed, [1, 2, 4, 8])
  | 4 => some (.channels false true, [8, 16])
  | 6 => some (.channels true true, [8, 16])
  | _ => none

/-- The header in the contents of its section. -/
def headerOf? (b : Bytes) : Option Header := do
  let (w, b) ← Bytes.big? 4 b
  let (h, b) ← Bytes.big? 4 b
  match b.map (·.toNat) with
  | [depth, kind, 0, 0, order] =>
    let (kind, depths) ← kindOf kind
    guard (w ≠ 0 ∧ h ≠ 0 ∧ depths.contains depth ∧ order ≤ 1)
    return ⟨w, h, depth, kind, decide (order = 1)⟩
  | _ => none

/-- The number of samples of a pixel. -/
def Header.samplesPerPixel (h : Header) : Nat :=
  match h.kind with
  | .channels coloured hasAlpha => ColourType.channelCount ⟨false, coloured, hasAlpha⟩
  | .indexed => 1

/-- The number of bits of a pixel. -/
def Header.pixelBits (h : Header) : Nat := h.samplesPerPixel * h.depth

/-- The number of bytes of a line of `width` pixels. -/
def Header.lineBytes (h : Header) (width : Nat) : Nat := (width * h.pixelBits + 7) / 8

/-! ## (2) Sections -/

/-- **What the sections of a file hold.** -/
structure Contents where
  palette : Option Bytes := none
  transparency : Option Bytes := none
  /-- The compressed lines. -/
  lines : Bytes := []

/-- One section: its name, its contents, whether its checksum is right, and the rest. -/
def section? (b : Bytes) : Option (String × Bytes × Bool × Bytes) := do
  let (length, b) ← Bytes.big? 4 b
  let (name, _) ← b.cut? 4
  let (checked, b) ← b.cut? (4 + length)
  let (sum, b) ← Bytes.big? 4 b
  return (← Bytes.text? name, checked.drop 4,
    decide ((Checksum.crc32 checked).toNat = sum), b)

/-- Whether every reader must know a section: its name begins with a capital. -/
def isCritical (name : String) : Bool :=
  match name.toList.head? with
  | some c => c.isUpper
  | none => false

/-- **The sections up to the end of the compressed lines**, at most `fuel` of them, after those that
are read. Of the section after the lines only the beginning must be there; a wrong checksum is
forgiven where a section need not be known. -/
def contentsFrom : Nat → Contents → Bytes → Option Contents
  | 0, _, _ => none
  | fuel + 1, c, b =>
    match b.cut? 8 with
    | none => none
    | some (start, _) =>
      if start.drop 4 ≠ Bytes.ofText "IDAT" ∧ c.lines ≠ [] then some c
      else
        match section? b with
        | none => none
        | some (name, contents, sound, rest) =>
          if !sound then if isCritical name then none else contentsFrom fuel c rest
          else
            match name with
            | "IDAT" => contentsFrom fuel { c with lines := c.lines ++ contents } rest
            | "PLTE" => contentsFrom fuel { c with palette := some contents } rest
            | "tRNS" => contentsFrom fuel { c with transparency := some contents } rest
            | "IEND" => none
            | _ => if isCritical name then none else contentsFrom fuel c rest

/-- **The header and the contents of a file.** -/
def contents? (b : Bytes) : Option (Header × Contents) := do
  let b ← Bytes.after? signature b
  let (name, header, sound, b) ← section? b
  guard (name = "IHDR" ∧ sound)
  return (← headerOf? header, ← contentsFrom (b.length + 1) {} b)

/-! ## (3) Lines -/

/-- The filter with a number; lines may also be as they are. -/
def Filter.ofNumber? : Nat → Option (Option Filter)
  | 0 => some none
  | 1 => some (some .left)
  | 2 => some (some .above)
  | 3 => some (some .average)
  | 4 => some (some .nearest)
  | _ => none

/-- The byte at a place in a line, or zero before it. -/
def before (line : Array UInt8) (stride i : Nat) : UInt8 :=
  if i < stride then 0 else line.getD (i - stride) 0

/-- **A line from its differences**, given the line above. -/
def unfiltered (filter : Option Filter) (stride : Nat) (above : Array UInt8) (line : Bytes) :
    Array UInt8 :=
  match filter with
  | none => line.toArray
  | some f => line.foldl (fun done x =>
      let i := done.size
      done.push (x + f.predict (before done stride i) (above.getD i 0) (before above stride i)))
      #[]

/-- So many lines of a length, each with its filter in front, and the rest. -/
def linesFrom? (stride length : Nat) :
    Nat → Array UInt8 → Bytes → Option (List (Array UInt8) × Bytes)
  | 0, _, b => some ([], b)
  | n + 1, above, b => do
    match b with
    | [] => none
    | filter :: b =>
      let (line, b) ← Bytes.cut? length b
      let line := unfiltered (← Filter.ofNumber? filter.toNat) stride above line
      let (lines, b) ← linesFrom? stride length n line b
      return (line :: lines, b)

/-- A pass over a picture: where it begins and how far its pixels are apart. -/
structure Pass where
  left : Nat
  top : Nat
  across : Nat
  down : Nat

/-- The pass of all pixels. -/
def onlyPass : List Pass := [⟨0, 0, 1, 1⟩]

/-- The seven passes. -/
def sevenPasses : List Pass :=
  [⟨0, 0, 8, 8⟩, ⟨4, 0, 8, 8⟩, ⟨0, 4, 4, 8⟩, ⟨2, 0, 4, 4⟩, ⟨0, 2, 2, 4⟩, ⟨1, 0, 2, 2⟩,
    ⟨0, 1, 1, 2⟩]

/-- The passes of a file. -/
def Header.passes (h : Header) : List Pass := if h.interlaced then sevenPasses else onlyPass

/-- How many pixels of a side a pass meets. -/
def met (side start apart : Nat) : Nat := (side - start + apart - 1) / apart

/-- The sides of a pass. -/
def Pass.sides (p : Pass) (h : Header) : Nat × Nat :=
  (met h.width p.left p.across, met h.height p.top p.down)

/-- The number of bytes of all lines. -/
def Header.size (h : Header) : Nat :=
  (h.passes.map fun p =>
    let (w, n) := p.sides h
    if w = 0 then 0 else n * (h.lineBytes w + 1)).sum

/-- **The lines of all passes.** -/
def passesFrom? (h : Header) : List Pass → Bytes → Option (List (Pass × Array (Array UInt8)))
  | [], _ => some []
  | p :: rest, b => do
    let (w, n) := p.sides h
    let (lines, b) ← linesFrom? (max 1 (h.pixelBits / 8)) (h.lineBytes w)
      (if w = 0 then 0 else n) #[] b
    return (p, lines.toArray) :: (← passesFrom? h rest b)

/-! ## (4) Pixels -/

/-- The samples of a pixel of a line. -/
def Header.samplesAt (h : Header) (line : Array UInt8) (x : Nat) : List Nat :=
  (List.range h.samplesPerPixel).map fun k =>
    let i := x * h.samplesPerPixel + k
    let byte (i : Nat) : Nat := (line.getD i 0).toNat
    if h.depth = 16 then 256 * byte (2 * i) + byte (2 * i + 1)
    else byte (i * h.depth / 8) / 2 ^ (8 - h.depth - i * h.depth % 8) % 2 ^ h.depth

/-- Whether a pass meets a position. -/
def Pass.meets (p : Pass) (x y : Nat) : Bool :=
  p.left ≤ x && p.top ≤ y && (x - p.left) % p.across == 0 && (y - p.top) % p.down == 0

/-- The samples at a position. -/
def samplesIn (h : Header) (passes : List (Pass × Array (Array UInt8))) (x y : Nat) : List Nat :=
  match passes.find? fun p => p.1.meets x y with
  | none => []
  | some (p, lines) =>
    h.samplesAt (lines.getD ((y - p.top) / p.down) #[]) ((x - p.left) / p.across)

/-- The numbers of two bytes in a section, of which lower depths only use the lower byte. -/
def clearSamples (h : Header) (b : Bytes) : List Nat :=
  (Bytes.pairs b).map fun n => if h.depth = 16 then n else n % 256

/-- The colour with a number in a table; those beyond it are black. -/
def colourOf (palette alphas : Array UInt8) (i : Nat) : Pixel :=
  let part (k : Nat) : Nat := (palette.getD (3 * i + k) 0).toNat
  ⟨part 0, part 1, part 2, (alphas.getD i 255).toNat⟩

/-- A sample of a low depth in eight bits. -/
def widened (depth v : Nat) : Nat := if depth < 8 then v * (255 / (2 ^ depth - 1)) else v

/-- The channels of the picture of a file, and the pixel of samples. -/
def pixelsOf? (h : Header) (c : Contents) : Option (ColourType × (List Nat → Pixel)) :=
  match h.kind with
  | .indexed => do
    let palette ← c.palette
    let alphas := (c.transparency.getD []).toArray
    return (⟨false, true, c.transparency.isSome⟩,
      fun samples => colourOf palette.toArray alphas (samples.headD 0))
  | .channels coloured hasAlpha =>
    let clear := if hasAlpha then none else c.transparency.map (clearSamples h)
    let colour : ColourType := ⟨decide (h.depth = 16), coloured, hasAlpha || clear.isSome⟩
    if clear.any (·.length < h.samplesPerPixel) then none
    else
      some (colour, fun samples =>
        let alpha := match clear with
          | none => []
          | some clear => [if samples = clear.take samples.length then 0 else colour.limit]
        Pixel.ofChannels colour (samples.map (widened h.depth) ++ alpha))

/-- **The picture of a file.** -/
def decode? (b : Bytes) : Option Picture := do
  let (h, c) ← contents? b
  let (colour, pixelOf) ← pixelsOf? h c
  let data ← Deflate.unwrap? h.size c.lines
  let passes ← passesFrom? h h.passes data.toList
  return ⟨colour, Grid.ofFn h.width h.height fun x y => pixelOf (samplesIn h passes x y)⟩

end Png

end MediaTransform
