import MediaTransform.Image.Deflate.Reader
import MediaTransform.Image.Webp

/-! # Reading WebP files without loss

Pixels are read as literals, copies and recent colours. Then what was done to them before they were
written is undone, the latest change first.

* **`Webp.Tree`** — the codes of one kind of symbols.
* **`Webp.subImage`**, **`mainImage`** — pixels as they were written.
* **`Webp.Change`** — what was done to pixels; `Change.undo` undoes it.
* **`Webp.decode?`** — the picture of a file. -/

namespace MediaTransform

namespace Webp

open Bits (Reading)

/-! ## (1) Codes -/

/-- **The codes of one kind of symbols**; a single symbol needs no bits. -/
inductive Tree where
  | only (symbol : Nat)
  | codes (c : Deflate.Codes)

/-- The next symbol. -/
def Tree.symbol : Tree → Reading Nat
  | only s => return s
  | codes c => c.symbol

/-- The tree of lengths of codes, which must leave no room. -/
def Tree.ofLengths? (lengths : List Nat) : Option Tree :=
  match lengths.zipIdx.filter (·.1 ≠ 0) with
  | [] => none
  | [(_, s)] => some (only s)
  | _ =>
    let c := Deflate.Codes.ofLengths lengths
    if c.room = 0 then some (codes c) else none

/-- A tree of one or two symbols that are named. -/
def namedTree (size : Nat) : Reading Tree := do
  let two ← Bits.read 1
  let wide ← Bits.read 1
  let first ← Bits.read (if wide = 1 then 8 else 1)
  if size ≤ first then failure
  if two = 0 then return .only first
  let second ← Bits.read 8
  if size ≤ second then failure
  return .codes ⟨#[0, 2], #[first, second]⟩

/-- Lengths of codes, after those that are read, the latest first; `last` is the latest one that is
not zero, and at most `left` symbols follow. -/
def lengthsFrom (t : Tree) (size : Nat) : Nat → Nat → List Nat → Reading (List Nat)
  | 0, _, done => return done.reverse ++ List.replicate (size - done.length) 0
  | left + 1, last, done => do
    if size ≤ done.length then
      if size = done.length then return done.reverse else failure
    let s ← t.symbol
    if s < 16 then lengthsFrom t size left (if s = 0 then last else s) (s :: done)
    else
      let (value, times) ← match s with
        | 16 => do pure (last, 3 + (← Bits.read 2))
        | 17 => do pure (0, 3 + (← Bits.read 3))
        | _ => do pure (0, 11 + (← Bits.read 7))
      if size < done.length + times then failure
      lengthsFrom t size left last (List.replicate times value ++ done)

/-- A tree of lengths of codes. -/
def lengthTree (size : Nat) : Reading Tree := do
  let count ← Bits.read 4
  let short ← (List.range (4 + count)).mapM fun _ => Bits.read 3
  let t ← StateT.lift (Tree.ofLengths? ((List.range 19).map fun n =>
    short.getD (lengthOrder.idxOf n) 0))
  let most ← if (← Bits.read 1) = 0 then pure size else do
    let width := 2 + 2 * (← Bits.read 3)
    pure (2 + (← Bits.read width))
  if size < most then failure
  StateT.lift (Tree.ofLengths? (← lengthsFrom t size most 8 []))

/-- The next tree of symbols below a size. -/
def nextTree (size : Nat) : Reading Tree := do
  if (← Bits.read 1) = 1 then namedTree size else lengthTree size

/-- **The trees of a part of a picture.** Those of green also have lengths of copies and numbers of
recent colours. -/
structure Group where
  green : Tree
  red : Tree
  blue : Tree
  alpha : Tree
  distance : Tree

/-- The next group, for so many recent colours. -/
def nextGroup (recent : Nat) : Reading Group := do
  let green ← nextTree (280 + recent)
  let red ← nextTree 256
  let blue ← nextTree 256
  let alpha ← nextTree 256
  return ⟨green, red, blue, alpha, ← nextTree 40⟩

/-! ## (2) Pixels -/

/-- A number of a class with further bits: up to four the classes are the numbers. -/
def classNumber (c : Nat) : Reading Nat := do
  if c < 4 then return c + 1
  let extra := (c - 2) / 2
  return (2 + c % 2) * 2 ^ extra + (← Bits.read extra) + 1

/-- Where the pixels near a pixel are that have short distances: so many columns to the left and lines
up. -/
def nearPlaces : Array (Int × Nat) :=
  #[(0, 1), (1, 0), (1, 1), (-1, 1), (0, 2), (2, 0), (1, 2), (-1, 2), (2, 1), (-2, 1), (2, 2),
    (-2, 2), (0, 3), (3, 0), (1, 3), (-1, 3), (3, 1), (-3, 1), (2, 3), (-2, 3), (3, 2), (-3, 2),
    (0, 4), (4, 0), (1, 4), (-1, 4), (4, 1), (-4, 1), (3, 3), (-3, 3), (2, 4), (-2, 4), (4, 2),
    (-4, 2), (0, 5), (3, 4), (-3, 4), (4, 3), (-4, 3), (5, 0), (1, 5), (-1, 5), (5, 1), (-5, 1),
    (2, 5), (-2, 5), (5, 2), (-5, 2), (4, 4), (-4, 4), (3, 5), (-3, 5), (5, 3), (-5, 3), (0, 6),
    (6, 0), (1, 6), (-1, 6), (6, 1), (-6, 1), (2, 6), (-2, 6), (6, 2), (-6, 2), (4, 5), (-4, 5),
    (5, 4), (-5, 4), (3, 6), (-3, 6), (6, 3), (-6, 3), (0, 7), (7, 0), (1, 7), (-1, 7), (5, 5),
    (-5, 5), (7, 1), (-7, 1), (4, 6), (-4, 6), (6, 4), (-6, 4), (2, 7), (-2, 7), (7, 2), (-7, 2),
    (3, 7), (-3, 7), (7, 3), (-7, 3), (5, 6), (-5, 6), (6, 5), (-6, 5), (8, 0), (4, 7), (-4, 7),
    (7, 4), (-7, 4), (8, 1), (8, 2), (6, 6), (-6, 6), (8, 3), (5, 7), (-5, 7), (7, 5), (-7, 5),
    (8, 4), (6, 7), (-6, 7), (7, 6), (-7, 6), (8, 5), (7, 7), (-7, 7), (8, 6), (8, 7)]

/-- How far back a copy begins, by its number: near places first, then distances in a row. -/
def distanceOf (width n : Nat) : Nat :=
  match nearPlaces[n - 1]? with
  | some (left, up) => max 1 (left + (up * width : Nat)).toNat
  | none => n - nearPlaces.size

/-- The colours that were written lately, at places by their channels. -/
structure Recent where
  bits : Nat
  colours : Array Pixel

/-- No recent colours yet; none at all for no bits. -/
def Recent.none (bits : Nat) : Recent :=
  ⟨bits, if bits = 0 then #[] else Array.replicate (2 ^ bits) .clear⟩

/-- The recent colours with one more. -/
def Recent.add (r : Recent) (p : Pixel) : Recent :=
  let all := ((p.alpha * 256 + p.red) * 256 + p.green) * 256 + p.blue
  { r with colours := r.colours.setIfInBounds (0x1e35a7bd * all % 2 ^ 32 / 2 ^ (32 - r.bits)) p }

/-- Pixels copied from so far back, so many of them. -/
def copied (distance : Nat) : Nat → Array Pixel → Recent → Array Pixel × Recent
  | 0, out, r => (out, r)
  | n + 1, out, r =>
    let p := out.getD (out.size - distance) .clear
    copied distance n (out.push p) (r.add p)

/-- Pixels up to a number of them, of which at most `fuel` are missing. -/
def pixelsFrom (group : Nat → Option Group) (width total : Nat) :
    Nat → Array Pixel → Recent → Reading (Array Pixel)
  | 0, out, _ => if out.size = total then return out else failure
  | fuel + 1, out, r => do
    if out.size = total then return out
    let g ← StateT.lift (group out.size)
    let s ← g.green.symbol
    -- green below 256, then the lengths of copies, then recent colours
    if s < 256 then
      let red ← g.red.symbol
      let blue ← g.blue.symbol
      let p : Pixel := ⟨red, s, blue, ← g.alpha.symbol⟩
      pixelsFrom group width total fuel (out.push p) (r.add p)
    else if s < 280 then
      let length ← classNumber (s - 256)
      let distance := distanceOf width (← classNumber (← g.distance.symbol))
      if out.size < distance ∨ total < out.size + length then failure
      let (out, r) := copied distance length out r
      pixelsFrom group width total fuel out r
    else
      match r.colours[s - 280]? with
      | some p => pixelsFrom group width total fuel (out.push p) (r.add p)
      | none => failure

/-- The number of bits of the places of recent colours; zero for none. -/
def recentBits : Reading Nat := do
  if (← Bits.read 1) = 0 then return 0
  let bits ← Bits.read 4
  if 1 ≤ bits ∧ bits ≤ 11 then return bits else failure

/-- The number of recent colours. -/
def recentCount (bits : Nat) : Nat := if bits = 0 then 0 else 2 ^ bits

/-- **The pixels of a picture with one group.** -/
def subImage (width height : Nat) : Reading (Array Pixel) := do
  let bits ← recentBits
  let g ← nextGroup (recentCount bits)
  pixelsFrom (fun _ => some g) width (width * height) (width * height) #[] (.none bits)

/-- How many squares of a side of `2 ^ bits` cover a length. -/
def squares (bits length : Nat) : Nat := (length + 2 ^ bits - 1) / 2 ^ bits

/-- **The pixels of a picture**, which may have a group for each square. -/
def mainImage (width height : Nat) : Reading (Array Pixel) := do
  let bits ← recentBits
  let (side, map) ← if (← Bits.read 1) = 0 then pure (0, #[]) else do
    let side := 2 + (← Bits.read 3)
    pure (side, ← subImage (squares side width) (squares side height))
  let number (i : Nat) : Nat :=
    if map.isEmpty then 0
    else
      let p := map.getD (i / width / 2 ^ side * squares side width + i % width / 2 ^ side) .clear
      256 * p.red + p.green
  let count := map.foldl (fun n p => max n (256 * p.red + p.green)) 0 + 1
  let groups ← (List.range count).mapM fun _ => nextGroup (recentCount bits)
  let groups := groups.toArray
  pixelsFrom (fun i => groups[number i]?) width (width * height) (width * height) #[] (.none bits)

/-! ## (3) Changes -/

/-- **What was done to the pixels** of a picture of a width. -/
inductive Change where
  /-- A guess from the pixels before was subtracted; each square has its way of guessing. -/
  | guess (width bits : Nat) (ways : Array Pixel)
  /-- Parts of green and red were taken from the other colours; each square has its factors. -/
  | tint (width bits : Nat) (factors : Array Pixel)
  /-- Green was taken from the other colours. -/
  | green
  /-- Pixels were replaced by numbers in a table, `2 ^ bits` of them in one pixel. -/
  | lookUp (width bits : Nat) (table : Array Pixel)

/-- The sum of two bytes modulo 256. -/
def plus (a b : Nat) : Nat := (a + b) % 256

/-- The channels of two pixels added. -/
def sum (p q : Pixel) : Pixel :=
  ⟨plus p.red q.red, plus p.green q.green, plus p.blue q.blue, plus p.alpha q.alpha⟩

/-- The channels of pixels combined. -/
def combine (f : Int → Int → Int → Int) (p q r : Pixel) : Pixel :=
  ⟨(f p.red q.red r.red).toNat, (f p.green q.green r.green).toNat, (f p.blue q.blue r.blue).toNat,
    (f p.alpha q.alpha r.alpha).toNat⟩

/-- The mean of two pixels, rounded down. -/
def mean (p q : Pixel) : Pixel := combine (fun a b _ => (a + b) / 2) p q q

/-- An integer held to the range of a byte. -/
def held (v : Int) : Int := max 0 (min v 255)

/-- How far two pixels are apart in all channels. -/
def apart (p q : Pixel) : Nat :=
  let gap (a b : Nat) : Nat := max a b - min a b
  gap p.red q.red + gap p.green q.green + gap p.blue q.blue + gap p.alpha q.alpha

/-- Whichever of the left and the upper pixel is nearer to the slope through both. -/
def nearerSlope (left above corner : Pixel) : Pixel :=
  if apart above corner < apart left corner then left else above

/-- **A guess in one of the ways**, from the pixels on the left, above, above on the left and above
on the right. -/
def guessed (way : Nat) (l t tl tr : Pixel) : Pixel :=
  match way with
  | 0 => ⟨0, 0, 0, 255⟩
  | 1 => l
  | 2 => t
  | 3 => tr
  | 4 => tl
  | 5 => mean (mean l tr) t
  | 6 => mean l tl
  | 7 => mean l t
  | 8 => mean tl t
  | 9 => mean t tr
  | 10 => mean (mean l tl) (mean t tr)
  | 11 => nearerSlope l t tl
  | 12 => combine (fun a b c => held (a + b - c)) l t tl
  | 13 => combine (fun a c _ => held (a + (a - c).tdiv 2)) (mean l t) tl tl
  | _ => .clear

/-- Pixels with guesses added again. -/
def withGuesses (width bits : Nat) (ways : Array Pixel) (pixels : Array Pixel) : Array Pixel :=
  (List.range pixels.size).foldl (fun (out : Array Pixel) i =>
    let at' (k : Nat) : Pixel := out.getD (i - k) .clear
    let (x, y) := (i % width, i / width)
    -- the first line and the first column have no choice
    let way :=
      if i = 0 then 0
      else if y = 0 then 1
      else if x = 0 then 2
      else (ways.getD (y / 2 ^ bits * squares bits width + x / 2 ^ bits) .clear).green
    out.push (sum (pixels.getD i .clear)
      (guessed way (at' 1) (at' width) (at' (width + 1)) (at' (width - 1))))) #[]

/-- A byte as a number between -128 and 127. -/
def signed (n : Nat) : Int := if n < 128 then n else (n : Int) - 256

/-- The part of a colour that a factor takes, modulo 256. -/
def part (factor colour : Nat) : Nat := (signed factor * signed colour / 32 % 256).toNat

/-- A pixel with the parts of green and red added again. -/
def withParts (factors p : Pixel) : Pixel :=
  let red := plus p.red (part factors.blue p.green)
  { p with
    red
    blue := plus (plus p.blue (part factors.green p.green)) (part factors.red red) }

/-- **Pixels with a change undone**, in a picture of a height. -/
def Change.undo (height : Nat) (pixels : Array Pixel) : Change → Array Pixel
  | guess width bits ways => withGuesses width bits ways pixels
  | tint width bits factors => pixels.mapIdx fun i p =>
      withParts (factors.getD
        (i / width / 2 ^ bits * squares bits width + i % width / 2 ^ bits) .clear) p
  | green => pixels.map fun p =>
      { p with red := plus p.red p.green, blue := plus p.blue p.green }
  | lookUp width bits table => Array.ofFn (n := width * height) fun i =>
      let (x, y) := (i.val % width, i.val / width)
      let packed := (pixels.getD (y * squares bits width + x / 2 ^ bits) .clear).green
      let depth := 8 / 2 ^ bits
      table.getD (packed / 2 ^ (depth * (x % 2 ^ bits)) % 2 ^ depth) .clear

/-- A table of colours, each written as the difference to the one before. -/
def tableOf (differences : Array Pixel) : Array Pixel :=
  (differences.foldl (fun (acc : Array Pixel × Pixel) p =>
    let next := sum acc.2 p
    (acc.1.push next, next)) (#[], .clear)).1

/-- How many numbers of colours lie in one pixel, as a power of two. -/
def packing (colours : Nat) : Nat :=
  if colours ≤ 2 then 3 else if colours ≤ 4 then 2 else if colours ≤ 16 then 1 else 0

/-- The number of the kind of a change. -/
def Change.kind : Change → Nat
  | guess _ _ _ => 0
  | tint _ _ _ => 1
  | green => 2
  | lookUp _ _ _ => 3

/-- A change of a kind in a picture of a width and a height, and the width that is left. -/
def changeOf (kind width height : Nat) : Reading (Nat × Change) := do
  match kind with
  | 2 => return (width, .green)
  | 3 =>
    let count := 1 + (← Bits.read 8)
    let table := tableOf (← subImage count 1)
    return (squares (packing count) width, .lookUp width (packing count) table)
  | _ =>
    let bits := 2 + (← Bits.read 3)
    let data ← subImage (squares bits width) (squares bits height)
    return (width, if kind = 0 then .guess width bits data else .tint width bits data)

/-- The changes after those that are read, the latest first, each kind at most once, and the width that
is left. -/
def changesFrom (height : Nat) : Nat → Nat → List Change → Reading (Nat × List Change)
  | 0, _, _ => failure
  | fuel + 1, width, done => do
    if (← Bits.read 1) = 0 then return (width, done)
    let kind ← Bits.read 2
    if done.any (·.kind = kind) then failure
    let (width, change) ← changeOf kind width height
    changesFrom height fuel width (change :: done)

/-! ## (4) Files -/

/-- The picture of the bits of a file. -/
def picture : Reading Picture := do
  if (← Bits.read 8) ≠ 0x2f then failure
  let width := 1 + (← Bits.read 14)
  let height := 1 + (← Bits.read 14)
  let hasAlpha := (← Bits.read 1) = 1
  if (← Bits.read 3) ≠ 0 then failure
  let colour : ColourType := ⟨false, true, hasAlpha⟩
  if !Picture.isReadable colour width height then failure
  let (inner, changes) ← changesFrom height 5 width []
  let written ← mainImage inner height
  let pixels := changes.foldl (Change.undo height) written
  return ⟨colour, Grid.ofFn width height fun x y =>
    let p := pixels.getD (y * width + x) .clear
    if hasAlpha then p else p.opaque8⟩

/-- **The picture of a file.** -/
def decode? (b : Bytes) : Option Picture := do
  let b ← Bytes.after? (Bytes.ofText "RIFF") b
  let (_, b) ← Bytes.cut? 4 b
  let b ← Bytes.after? (Bytes.ofText "WEBPVP8L") b
  let (size, b) ← Bytes.little? 4 b
  (picture.run (.ofBytes (b.take size))).map (·.1)

end Webp

end MediaTransform
